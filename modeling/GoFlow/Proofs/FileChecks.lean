import GoFlow.Analysis
import GoFlow.Go.FrontEnd
import GoFlow.Proofs.Encodings

/-!
# The checks on a file

A file is looked at in a fixed order: its size, the name of the encoding, the bytes, the suffix.
The first check that fails decides, and a file that passes them all is treated as its text would
be.

- `Walk.items_fails`: a walk stops only where a name cannot be decoded.
- `Source.analyse_cases`: how the analysis of a source ends whose text can be written.
- `JudgedInOrder`: the checks, and what follows from each.
-/

namespace GoFlow

/-! ## Where a walk stops -/

section

variable {ε : Type} (decode : List UInt8 → Except ε String)

/-- The walk stopped at a name that cannot be decoded. -/
def Stopped.AtName (s : Stopped ε) : Prop := ∃ text, decode text = .error s.cause

/-- A name that can be decoded stops nothing. -/
theorem Walk.decodeName_fails (w : Walk) (name : Option (List UInt8)) :
    FailsOnly (Stopped.AtName decode) (Walk.decodeName decode w name) := by
  cases name with
  | none => exact .ok ""
  | some text =>
    rw [Walk.decodeName]
    cases hdecode : decode text with
    | ok name => exact .ok name
    | error cause => exact .error ⟨text, hdecode⟩

/-- The only part of a construct that can fail is its name. The induction follows the walk. -/
theorem Walk.items_fails (is : List Item) (w : Walk) :
    FailsOnly (Stopped.AtName decode) (Walk.items decode is w) := by
  refine Walk.items.induct
    (fun i w => FailsOnly (Stopped.AtName decode) (Walk.item decode i w))
    (fun ks w => FailsOnly (Stopped.AtName decode) (Walk.clauses decode ks w))
    (fun is w => FailsOnly (Stopped.AtName decode) (Walk.items decode is w))
    ?prototype ?function ?ret ?spawn ?cond ?loop ?choice ?nil ?cons ?noClause ?clause is w
  case prototype =>
    intro name first w
    rw [Walk.item]
    exact (decodeName_fails decode w name).bind fun _ => .ok _
  case function =>
    intro name first last returns body w ih
    -- the name comes before the body, which is walked under it
    rw [Walk.item]
    exact (decodeName_fails decode w name).bind fun name => (ih name).bind fun _ => .ok _
  case ret =>
    intro line inside w ih
    rw [Walk.item]
    exact ih
  case spawn =>
    intro line inside w ih
    rw [Walk.item]
    exact ih
  case cond =>
    intro line elseLine elseEnd consequence header alternative w _ ih₁ ih₂ ih₃
    rw [Walk.item]
    exact ih₁.bind fun w₁ => (ih₂ w₁).bind ih₃
  case loop =>
    intro first last header body w _ ih₁ ih₂
    rw [Walk.item]
    exact ih₁.bind fun w₁ => (ih₂ w₁).bind fun _ => .ok _
  case choice =>
    intro form line header parts w _ ih₁ ih₂
    rw [Walk.item]
    exact ih₁.bind fun w₁ => (ih₂ w₁).bind fun _ => .ok _
  case nil =>
    intro w
    rw [Walk.items]
    exact .ok w
  case cons =>
    intro i rest w ih₁ ih₂
    rw [Walk.items]
    exact ih₁.bind ih₂
  case noClause =>
    intro w
    rw [Walk.clauses]
    exact .ok w
  case clause =>
    intro line kind body rest w _ ih₁ ih₂
    rw [Walk.clauses]
    exact ih₁.bind ih₂

/-- **A walk stops at names only.** -/
theorem build_fails (root : Node) (start : Graph) :
    FailsOnly (Stopped.AtName decode) (build decode root start) :=
  (Walk.items_fails decode _ _).bind fun _ => .ok _

end

/-! ## Names of encodings -/

/-- Files are read in the encoding if the setting is this name: one of the names of the encoding,
or the name for the encoding of the place, which is no name otherwise. -/
def IsReadAs (name : String) (e : Encoding) : Prop :=
  (name = "locale" ∧ e = .utf8) ∨ (holdsZero name = false ∧ Encoding.ofName? name = some e)

/-- A known name without a zero is read as the encoding it names. -/
theorem namedEncoding_of_ofName? {name : String} {e : Encoding} (hzero : holdsZero name = false)
    (h : Encoding.ofName? name = some e) : namedEncoding name = .ok e := by
  rw [namedEncoding, hzero, h]
  rfl

/-- The name for the encoding of the place is not the name of an encoding. -/
theorem ne_locale_of_ofName? {name : String} {e : Encoding} (h : Encoding.ofName? name = some e) :
    name ≠ "locale" := by
  rintro rfl
  have hnone : Encoding.ofName? "locale" = none := by decide
  rw [hnone] at h
  cases h

/-- A file is read in the encoding that the setting names. -/
theorem IsReadAs.fileEncoding {name : String} {e : Encoding} (h : IsReadAs name e) :
    fileEncoding name = .ok e := by
  unfold GoFlow.fileEncoding
  rcases h with ⟨rfl, rfl⟩ | ⟨hzero, h⟩
  · rfl
  · rw [if_neg (by simpa using ne_locale_of_ofName? h)]
    exact namedEncoding_of_ofName? hzero h

/-- A name with a zero in it is refused before it is looked up. -/
theorem fileEncoding_of_holdsZero {name : String} (h : holdsZero name = true) :
    fileEncoding name = .error .zeroInName := by
  have hname : name ≠ "locale" := by
    rintro rfl
    exact absurd h (by decide)
  rw [fileEncoding, if_neg (by simpa using hname), namedEncoding, if_pos h]

/-- A name of no encoding is refused as it stands. -/
theorem fileEncoding_of_unknown {name : String} (hzero : holdsZero name = false)
    (h : ∀ e, ¬ IsReadAs name e) : fileEncoding name = .error (.unknownEncoding name) := by
  have hname : name ≠ "locale" := fun hname => h .utf8 (.inl ⟨hname, rfl⟩)
  rw [fileEncoding, if_neg (by simpa using hname), namedEncoding, hzero]
  cases hof : Encoding.ofName? name with
  | none => rfl
  | some e => exact absurd (.inr ⟨hzero, hof⟩) (h e)

/-- Every encoding has a name. -/
theorem isReadAs_usualName (e : Encoding) : IsReadAs e.usualName e := by
  right
  cases e <;> decide

example : ["utf-8", "UTF8", "utf-8-sig", "Latin-1", "utf-16", "utf-16-le"].map Encoding.ofName?
    = [some .utf8, some .utf8, some .utf8Marked, some .latin1, some .utf16, some .utf16le] := by
  decide

/-! ## Sources -/

namespace Source

theorem supports_go {s : Source} (h : s.language = "go") :
    Languages.go.supports s.language = true := by
  rw [h]
  decide +kernel

/-- Texts of a source in a known encoding can be decoded, unless some bytes are malformed. -/
theorem decodeText_fails {s : Source} {e : Encoding} (h : namedEncoding s.encoding = .ok e)
    (text : List UInt8) : FailsOnly TextFault.IsMalformed (s.decodeText text) := by
  unfold decodeText decodeAs
  split
  · exact .ok ""
  · rw [h]
    exact (e.decode_fails text).bind fun _ => .ok _

/-- Without an encoding to write the text in, there is nothing to parse. -/
theorem analyse_of_bytes_error (frontEnd : FrontEnd) {s : Source} {fault : TextFault}
    (hlanguage : s.language = "go") (hbytes : s.bytes = .error fault) :
    (s.analyse frontEnd .go).result = .error (.text fault) := by
  unfold analyse parse
  rw [supports_go hlanguage, hbytes]
  rfl

/-- If the encoding of a source is known, nothing but a malformed name keeps its graph from being
built. -/
theorem buildGraph_cases {s : Source} {e : Encoding} (h : namedEncoding s.encoding = .ok e)
    (root : Node) :
    (∃ b, (s.buildGraph root).result = .ok b) ∨
      ∃ fault : TextFault, fault.IsMalformed ∧
        (s.buildGraph root).result = .error (.text fault) := by
  unfold buildGraph
  cases hbuild : build s.decodeText root {} with
  | ok b => exact .inl ⟨b, rfl⟩
  | error stopped =>
    obtain ⟨text, htext⟩ := build_fails s.decodeText root {} stopped hbuild
    exact .inr ⟨stopped.cause, decodeText_fails h text _ htext, rfl⟩

/-- A Go source whose text can be written has a graph, or it has faults, or the bytes of a name are
malformed. -/
theorem analyse_cases (frontEnd : FrontEnd) {s : Source} {e : Encoding} {bytes : List UInt8}
    (hlanguage : s.language = "go") (he : namedEncoding s.encoding = .ok e)
    (hbytes : s.bytes = .ok bytes) :
    (∃ b, (s.analyse frontEnd .go).result = .ok b) ∨
      (s.analyse frontEnd .go).result
        = .error (.unparsable s.file (frontEnd bytes).faultPlaces) ∨
      ∃ fault : TextFault, fault.IsMalformed ∧
        (s.analyse frontEnd .go).result = .error (.text fault) := by
  unfold analyse parse
  rw [supports_go hlanguage, hbytes]
  cases hfault : (frontEnd bytes).hasFault with
  | true => exact .inr (.inl (by simp [hfault]))
  | false =>
    have hcases := buildGraph_cases he (frontEnd bytes)
    simp only [hfault, Bool.not_true, Bool.false_eq_true, if_false]
    exact hcases.imp_right .inr

end Source

/-! ## Files -/

/-- The report on the failure says that a file is too large. -/
def Failure.IsTooLarge (f : Failure) : Prop := f.report?.map Report.category = some .fileTooLarge

/-- No source is too large. -/
theorem Source.parse_fails (frontEnd : FrontEnd) (languages : Languages) (s : Source) :
    FailsOnly (fun f => ¬ f.IsTooLarge) (s.parse frontEnd languages).result := by
  unfold Source.parse
  split
  · exact .error (by simp [Failure.IsTooLarge, Failure.report?])
  · split
    · exact .error (by simp [Failure.IsTooLarge, Failure.report?])
    · dsimp only
      split
      · exact .error (by simp [Failure.IsTooLarge, Failure.report?, Report.syntaxFault])
      · exact .ok _

/-- A source is never too large for its graph to be built. -/
theorem Source.buildGraph_fails (s : Source) (root : Node) :
    FailsOnly (fun f => ¬ f.IsTooLarge) (s.buildGraph root).result := by
  unfold Source.buildGraph
  split
  · exact .error (by simp [Failure.IsTooLarge, Failure.report?])
  · exact .ok _

/-- Nor is it too large to be analysed: the limit is for files. -/
theorem Source.analyse_fails (frontEnd : FrontEnd) (languages : Languages) (s : Source) :
    FailsOnly (fun f => ¬ f.IsTooLarge) (s.analyse frontEnd languages).result := by
  unfold Source.analyse
  dsimp only
  split
  next f hparse => exact .error (s.parse_fails frontEnd languages f hparse)
  next root _ => exact s.buildGraph_fails root

section

variable (frontEnd : FrontEnd) (settings : ParsingSettings) (path : Path) (bytes : List UInt8)

/-- The analysis of a regular file with the bytes. -/
def fileOutcome : Outcome Build := analyseFile frontEnd .go settings path (.ok (.file bytes))

/-- The Go source with the text of the file at the path, as if it had been there without a file. -/
def sourceOfText (text : List Char) : Source :=
  .ofContent settings (String.ofList (unifyNewlines text)) path.render "go"

/-- How a regular file fares. The checks come in this order, and each counts only if those before
it are passed. -/
structure JudgedInOrder : Prop where
  /-- A file is too large exactly if it is longer than the limit, whatever else is wrong with it. -/
  tooLarge_iff :
    (∃ f, (fileOutcome frontEnd settings path bytes).result = .error f ∧ f.IsTooLarge)
      ↔ settings.maxFileSize < bytes.length
  /-- The report says how long it is and how long it may be. -/
  tooLarge_details : ∀ f r, (fileOutcome frontEnd settings path bytes).result = .error f →
    f.IsTooLarge → f.report? = some r →
    r.details = [("size", .int bytes.length), ("limit", .int settings.maxFileSize)]
  /-- The name of the encoding holds the character zero. -/
  zeroInName : bytes.length ≤ settings.maxFileSize → holdsZero settings.encoding = true →
    (fileOutcome frontEnd settings path bytes).result = .error (.text .zeroInName)
  /-- Files are read in no encoding of this name. -/
  unknownEncoding : bytes.length ≤ settings.maxFileSize → holdsZero settings.encoding = false →
    (∀ e, ¬ IsReadAs settings.encoding e) →
    (fileOutcome frontEnd settings path bytes).result
      = .error (.text (.unknownEncoding settings.encoding))
  /-- The bytes are no text. -/
  unreadable : ∀ e fault, bytes.length ≤ settings.maxFileSize → IsReadAs settings.encoding e →
    e.decodeStream bytes = .error fault →
    fault.IsUnreadable ∧
      (fileOutcome frontEnd settings path bytes).result = .error (.text fault)
  /-- The name of the file is not that of a Go file. -/
  undetected : ∀ e text, bytes.length ≤ settings.maxFileSize → IsReadAs settings.encoding e →
    e.decodeStream bytes = .ok text → path.suffix.toLower ≠ ".go" →
    (fileOutcome frontEnd settings path bytes).result = .error (.undetected path)
  /-- Any other file fares as its text does, events included. -/
  agrees : ∀ e text, bytes.length ≤ settings.maxFileSize → IsReadAs settings.encoding e →
    e.decodeStream bytes = .ok text → path.suffix.toLower = ".go" →
    fileOutcome frontEnd settings path bytes
      = (sourceOfText settings path text).analyse frontEnd .go
  /-- If the encoding has the name everywhere, its text can be written. So it has a graph, or it
  has faults, or the bytes of a name are malformed. -/
  ends : ∀ e text, holdsZero settings.encoding = false →
    Encoding.ofName? settings.encoding = some e → e.decodeStream bytes = .ok text →
    ∃ out, (sourceOfText settings path text).bytes = .ok out ∧
      ((∃ b, ((sourceOfText settings path text).analyse frontEnd .go).result = .ok b) ∨
        ((sourceOfText settings path text).analyse frontEnd .go).result
          = .error (.unparsable path.render (frontEnd out).faultPlaces) ∨
        ∃ fault : TextFault, fault.IsMalformed ∧
          ((sourceOfText settings path text).analyse frontEnd .go).result = .error (.text fault))
  /-- Otherwise it cannot, for want of an encoding. -/
  endsAtLocale : ∀ text, settings.encoding = "locale" →
    ((sourceOfText settings path text).analyse frontEnd .go).result
      = .error (.text (.unknownEncoding "locale"))

variable {frontEnd settings path bytes}

/-- A file over the limit is too large, whatever its bytes are. -/
theorem fileOutcome_tooLarge (h : settings.maxFileSize < bytes.length) :
    (fileOutcome frontEnd settings path bytes).result
      = .error (.tooLarge path bytes.length settings.maxFileSize) := by
  have hsize : (Entry.file bytes).size > settings.maxFileSize := h
  unfold fileOutcome analyseFile
  dsimp only
  rw [if_pos hsize]
  rfl

/-- Behind the check on the size, a file is read. -/
theorem fileOutcome_eq (h : bytes.length ≤ settings.maxFileSize) :
    fileOutcome frontEnd settings path bytes
      = match Source.ofFile path (.file bytes) none settings.encoding with
        | .error failure => ⟨[], .error failure⟩
        | .ok source => source.analyse frontEnd .go := by
  have hsize : ¬ (Entry.file bytes).size > settings.maxFileSize := Nat.not_lt.2 h
  unfold fileOutcome analyseFile
  exact if_neg hsize

/-- A file within the limit that cannot be read fails for that reason, and nothing is logged. -/
theorem fileOutcome_of_readText_error (h : bytes.length ≤ settings.maxFileSize)
    {fault : TextFault} (hfault : Source.readText settings.encoding bytes = .error fault) :
    fileOutcome frontEnd settings path bytes = ⟨[], .error (.text fault)⟩ := by
  have hfile : Source.ofFile path (.file bytes) none settings.encoding = .error (.text fault) := by
    rw [Source.ofFile_file, hfault]
    rfl
  rw [fileOutcome_eq h, hfile]

/-- Only once a file was read does its name count. -/
theorem fileOutcome_of_readText_ok (h : bytes.length ≤ settings.maxFileSize) {content : String}
    (hcontent : Source.readText settings.encoding bytes = .ok content) :
    fileOutcome frontEnd settings path bytes
      = if path.suffix.toLower = ".go" then
          (Source.ofContent settings content path.render "go").analyse frontEnd .go
        else ⟨[], .error (.undetected path)⟩ := by
  have hfile : Source.ofFile path (.file bytes) none settings.encoding
      = (detectLanguage path).elim (.error (.undetected path)) fun language =>
          .ok { file := path.render, content, language, encoding := settings.encoding } := by
    rw [Source.ofFile_file, hcontent]
    rfl
  rw [fileOutcome_eq h, hfile, detectLanguage]
  by_cases hsuffix : path.suffix.toLower = ".go"
  · rw [hsuffix]
    rfl
  · rw [if_neg hsuffix, if_neg (by simpa using hsuffix)]
    rfl

/-- An encoding that is not known keeps every file from being read. -/
theorem readText_of_fileEncoding_error {name : String} {fault : TextFault}
    (h : fileEncoding name = .error fault) (bytes : List UInt8) :
    Source.readText name bytes = .error fault := by
  rw [Source.readText, h]
  rfl

/-- In a known encoding, a file is decoded and its line ends are unified. -/
theorem readText_of_isReadAs {e : Encoding} (h : IsReadAs settings.encoding e) :
    Source.readText settings.encoding bytes
      = (e.decodeStream bytes).map fun text => String.ofList (unifyNewlines text) := by
  rw [Source.readText, h.fileEncoding]
  show (e.decodeStream bytes >>= _) = _
  cases e.decodeStream bytes <;> rfl

/-- A file within the limit is not too large. -/
theorem fileOutcome_fails (h : bytes.length ≤ settings.maxFileSize) :
    FailsOnly (fun f => ¬ f.IsTooLarge) (fileOutcome frontEnd settings path bytes).result := by
  cases hread : Source.readText settings.encoding bytes with
  | error fault =>
    rw [fileOutcome_of_readText_error h hread]
    exact .error (by simp [Failure.IsTooLarge, Failure.report?])
  | ok content =>
    rw [fileOutcome_of_readText_ok h hread]
    split
    · exact Source.analyse_fails frontEnd .go _
    · exact .error (by simp [Failure.IsTooLarge, Failure.report?])

variable (settings path) in
/-- The text of a file can be written in the encoding that it was read in. -/
theorem exists_bytes_sourceOfText {e : Encoding} {text : List Char}
    (h : namedEncoding settings.encoding = .ok e) (htext : e.decodeStream bytes = .ok text) :
    ∃ out, (sourceOfText settings path text).bytes = .ok out := by
  obtain ⟨out, hout⟩ := Encoding.exists_encode htext
  refine ⟨out, ?_⟩
  show (namedEncoding settings.encoding >>= fun e : Encoding =>
    e.encode (String.ofList (unifyNewlines text)).toList) = _
  rw [h, String.toList_ofList]
  exact hout

variable (frontEnd settings path bytes)

/-- **The first check that fails decides**, and a file that passes them all fares as its text. -/
theorem analyseFile_judgedInOrder : JudgedInOrder frontEnd settings path bytes where
  tooLarge_iff := by
    constructor
    · rintro ⟨f, hf, htoo⟩
      exact Nat.lt_of_not_le fun h => fileOutcome_fails h f hf htoo
    · exact fun h => ⟨_, fileOutcome_tooLarge h, rfl⟩
  tooLarge_details := by
    intro f r hf htoo hr
    -- only the check on the size makes such a report
    by_cases h : bytes.length ≤ settings.maxFileSize
    · exact absurd htoo (fileOutcome_fails h f hf)
    · rw [fileOutcome_tooLarge (Nat.lt_of_not_le h)] at hf
      cases hf
      cases hr
      rfl
  zeroInName := by
    intro h hzero
    have hread := readText_of_fileEncoding_error (fileEncoding_of_holdsZero hzero) bytes
    rw [fileOutcome_of_readText_error h hread]
  unknownEncoding := by
    intro h hzero hunknown
    have hread := readText_of_fileEncoding_error (fileEncoding_of_unknown hzero hunknown) bytes
    rw [fileOutcome_of_readText_error h hread]
  unreadable := by
    intro e fault h he hfault
    have hread : Source.readText settings.encoding bytes = .error fault := by
      rw [readText_of_isReadAs he, hfault]
      rfl
    refine ⟨e.decodeStream_fails bytes fault hfault, ?_⟩
    rw [fileOutcome_of_readText_error h hread]
  undetected := by
    intro e text h he htext hsuffix
    have hread := (readText_of_isReadAs he).trans (congrArg _ htext)
    rw [fileOutcome_of_readText_ok h hread, if_neg hsuffix]
  agrees := by
    intro e text h he htext hsuffix
    have hread := (readText_of_isReadAs he).trans (congrArg _ htext)
    rw [fileOutcome_of_readText_ok h hread, if_pos hsuffix]
    rfl
  ends := by
    intro e text hzero he htext
    -- what could be read can be written, so parsing is never kept from starting
    have hnamed := namedEncoding_of_ofName? hzero he
    obtain ⟨out, hout⟩ := exists_bytes_sourceOfText settings path hnamed htext
    exact ⟨out, hout, Source.analyse_cases frontEnd rfl hnamed hout⟩
  endsAtLocale := by
    intro text hname
    have hbytes : (sourceOfText settings path text).bytes = .error (.unknownEncoding "locale") := by
      show (namedEncoding settings.encoding >>= _) = _
      rw [hname]
      rfl
    exact Source.analyse_of_bytes_error frontEnd rfl hbytes

end

/-- A name with the character zero in it is the name of no encoding, but it is not looked up. -/
theorem fileOutcome_zeroNamed :
    Encoding.ofName? "\x00" = none ∧
      (fileOutcome Go.frontEnd { encoding := "\x00" } (Path.ofString "a.go")
        "package p\n".toUTF8.toList).result = .error (.text .zeroInName) ∧
      TextFault.zeroInName.kindName ≠ "LookupError" := by
  refine ⟨by decide, ?_, by decide⟩
  have hfault : fileEncoding "\x00" = .error .zeroInName := fileEncoding_of_holdsZero rfl
  rw [fileOutcome_of_readText_error (by decide +kernel) (readText_of_fileEncoding_error hfault _)]

end GoFlow
