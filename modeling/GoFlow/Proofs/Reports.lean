import GoFlow.Proofs.Encodings
import GoFlow.Proofs.Running

/-!
# Reports on files

Every file that has no graph is reported, once and in its place, up to a file whose text cannot be
read: that one ends the run.

- `Failure.About`, `World.analyse_about`: a failure names the file that was looked at.
- `Failure.isLiteral_message`: so its words are no markup unless the path holds a bracket.
- `Terminal.PrintsPlain.complaint_eq`: what is printed on a failure.
- `Trial.isSome_stop?`: which failures end the run.
- `join_errorText_trials`: what is said about files in a row.
-/

namespace GoFlow

/-! ## What a failure names -/

/-- The failure names the file at the path and nothing else. -/
def Failure.About (p : Path) : Failure → Prop
  | .unsupported language name => language = "go" ∧ name = p.render
  | .undetected q => q = p
  | .tooLarge q _ _ => q = p
  | .unparsable name _ => name = p.render
  | .text _ => True
  | .file fault => fault.About p

/-- The analysis of the source at a path fails for reasons that are about the path. -/
theorem Source.analyse_about (frontEnd : FrontEnd) (languages : Languages) {s : Source} {p : Path}
    (hlanguage : s.language = "go") (hfile : s.file = p.render) :
    FailsOnly (Failure.About p) (s.analyse frontEnd languages).result := by
  have hparse : FailsOnly (Failure.About p) (s.parse frontEnd languages).result := by
    unfold Source.parse
    split
    · exact .error ⟨hlanguage, hfile⟩
    · split
      · exact .error trivial
      · dsimp only
        split
        · exact .error hfile
        · exact .ok _
  unfold Source.analyse
  dsimp only
  split
  next f hf => exact .error (hparse f hf)
  next root _ =>
    unfold Source.buildGraph
    split
    · exact .error trivial
    · exact .ok _

/-- Reading a file fails about the file, or it makes a Go source with the path as its name. -/
theorem Source.ofFile_cases (p : Path) (entry : Entry) (encoding : String) :
    (∃ f : Failure, f.About p ∧ Source.ofFile p entry none encoding = .error f) ∨
      ∃ s : Source, (s.language = "go" ∧ s.file = p.render) ∧
        Source.ofFile p entry none encoding = .ok s := by
  cases entry with
  | directory | locked size =>
    refine .inl ⟨_, ?_, rfl⟩
    split
    · trivial
    · exact rfl
  | file bytes =>
    rw [Source.ofFile_file]
    cases Source.readText encoding bytes with
    | error fault => exact .inl ⟨.text fault, trivial, rfl⟩
    | ok content =>
      unfold detectLanguage
      by_cases hsuffix : (p.suffix.toLower == ".go") = true
      · rw [if_pos hsuffix]
        exact .inr ⟨_, ⟨rfl, rfl⟩, rfl⟩
      · rw [if_neg hsuffix]
        exact .inl ⟨.undetected p, rfl, rfl⟩

/-- An analysis that fails names the file. -/
theorem World.analyse_about {w : World} (hw : w.Regular) (settings : Settings) (p : Path) :
    FailsOnly (Failure.About p) (w.analyse settings p).result := by
  unfold World.analyse analyseFile
  split
  next fault hfault => exact .error (hw.about p fault hfault)
  next entry _ =>
    split
    · exact .error rfl
    · rcases Source.ofFile_cases p entry settings.parsing.encoding with
        ⟨f, hf, hread⟩ | ⟨s, ⟨hlanguage, hfile⟩, hread⟩
      · rw [hread]
        exact .error hf
      · rw [hread]
        exact Source.analyse_about _ _ hlanguage hfile

/-! ## The words of a failure -/

section

open Markup (isLiteral isLiteral_append isLiteral_of_not_mem)

/-- Quoting adds no brackets. -/
theorem bracket_not_mem_quoted {s : String} (h : '[' ∉ s.toList) : '[' ∉ (quoted s).toList := by
  intro hmem
  rcases mem_of_mem_quoted hmem with hmem | hquoting
  · exact h hmem
  · rcases hquoting with hc | hc | hc | hc <;> exact absurd hc (by decide)

theorem literalEntries_eq (entries : Fields) :
    Value.literalEntries entries = entries.map fun e => quoted e.1 ++ ": " ++ e.2.literal := by
  induction entries with
  | nil => rfl
  | cons e rest ih => rw [Value.literalEntries, ih, List.map_cons]

/-- Details hold no bracket unless a name or a value does. -/
theorem bracket_not_mem_details {entries : Fields}
    (h : ∀ e ∈ entries, '[' ∉ e.1.toList ∧ '[' ∉ e.2.literal.toList) :
    '[' ∉ (Value.dict entries).literal.toList := by
  have hjoined : '[' ∉ (", ".intercalate (Value.literalEntries entries)).toList := by
    intro hmem
    rw [literalEntries_eq] at hmem
    rcases mem_or_mem_of_mem_intercalate hmem with hmem | ⟨x, hx, hmem⟩
    · exact absurd hmem (by decide)
    · obtain ⟨e, he, rfl⟩ := List.mem_map.1 hx
      have hkey := bracket_not_mem_quoted (h e he).1
      simp only [String.toList_append, List.mem_append, hkey, (h e he).2, or_false,
        false_or] at hmem
      exact absurd hmem (by decide)
  rw [Value.literal]
  simp only [String.toList_append, List.mem_append, hjoined, or_false]
  decide

/-- A report with details ends in a bracket of another kind, so nothing in front of it matters
except brackets of tags. -/
theorem Report.isLiteral_message {r : Report} (hcategory : r.category ≠ .syntaxFault)
    (hdetails : r.details ≠ []) (htext : '[' ∉ r.text.toList)
    (h : ∀ e ∈ r.details, '[' ∉ e.1.toList ∧ '[' ∉ e.2.literal.toList) :
    isLiteral r.message.toList = true := by
  have hmessage : r.message.toList
      = (r.text ++ " (details: " ++ (Value.dict r.details).literal).toList ++ [')'] := by
    unfold Report.message
    rw [if_neg (by simp [hcategory, hdetails]), String.toList_append]
    rfl
  have hliteral := bracket_not_mem_details h
  rw [hmessage]
  refine isLiteral_append ?_ (by decide) (by decide)
  simp only [String.toList_append, List.mem_append, htext, hliteral, or_false, false_or]
  decide

/-- Places are printed in digits, colons and commas. -/
theorem not_mem_places {c : Char} (hdigit : c.isDigit = false) (hc : c ∉ ['-', ':', ',', ' '])
    (places : List (Int × Int)) :
    c ∉ (", ".intercalate
      (places.map fun (line, col) => toString line ++ ":" ++ toString col)).toList := by
  have hnumber := not_mem_toString hdigit fun h => hc (h ▸ List.mem_cons_self)
  intro hmem
  rcases mem_or_mem_of_mem_intercalate hmem with hmem | ⟨x, hx, hmem⟩
  · exact hc (List.mem_of_mem_drop (i := 2) hmem)
  · obtain ⟨place, -, rfl⟩ := List.mem_map.1 hx
    simp only [String.toList_append, List.mem_append, hnumber, or_false, false_or] at hmem
    exact hc (List.mem_cons_of_mem '-' (List.mem_append_left [',', ' '] hmem))

/-- The report on a syntax fault ends in numbers. -/
theorem Report.isLiteral_syntaxFault {name : String} (hname : '[' ∉ name.toList)
    (places : List (Int × Int)) :
    isLiteral (Report.syntaxFault name places).message.toList = true := by
  have hbracket := not_mem_places (c := '[') (by decide) (by decide) places
  have hslash := not_mem_places (c := '\\') (by decide) (by decide) places
  have hmessage : (Report.syntaxFault name places).message.toList
      = ("Failed to parse " ++ name).toList ++ ':' :: (" syntax error at "
        ++ ", ".intercalate
          (places.map fun (line, col) => toString line ++ ":" ++ toString col)).toList := by
    show ("Failed to parse " ++ name ++ ": syntax error at " ++ _).toList = _
    simp only [String.toList_append, List.append_assoc]
    rfl
  rw [hmessage]
  refine isLiteral_append ?_ (by decide) (isLiteral_of_not_mem ?_ ?_)
  · simp only [String.toList_append, List.mem_append, hname, or_false]
    decide
  · simp only [List.mem_cons, String.toList_append, List.mem_append, hbracket, or_false]
    decide
  · simp only [List.mem_cons, String.toList_append, List.mem_append, hslash, or_false]
    decide

/-- The words of a fault start with a bracket, but in front of a capital letter, and they end in a
quote. -/
theorem isLiteral_systemMessage (code : Nat) {words : String} {p : Path}
    (hwords : '[' ∉ words.toList) (hp : '[' ∉ p.render.toList) :
    isLiteral (FileFault.systemMessage code words p).toList = true := by
  have hquoted := bracket_not_mem_quoted hp
  have hend : ∃ u q, (quoted p.render).toList = u ++ [q] ∧ q ≠ '[' ∧ isLiteral [q] = true := by
    refine ⟨quoteFor p.render.toList
        :: p.render.toList.flatMap (escapeQuoted (quoteFor p.render.toList)),
      quoteFor p.render.toList, String.toList_ofList, ?_⟩
    unfold quoteFor
    split <;> decide
  obtain ⟨u, q, hu, hq, hliteral⟩ := hend
  rw [hu, List.mem_append, not_or] at hquoted
  have hnumber : '[' ∉ (toString code).toList := fun h =>
    absurd (isDigit_of_mem_toString_nat h) (by decide)
  -- all that comes between the first two characters and the last one
  obtain ⟨t, ht⟩ : ∃ t, t = ("rrno " ++ toString code ++ "] " ++ words ++ ": ").toList ++ u :=
    ⟨_, rfl⟩
  have hbracket : '[' ∉ 'E' :: t := by
    rw [ht]
    simp only [List.mem_cons, List.mem_append, String.toList_append, hnumber, hwords, hquoted.1,
      or_false]
    decide
  have hsplit : (FileFault.systemMessage code words p).toList = '[' :: 'E' :: (t ++ [q]) := by
    rw [ht]
    unfold FileFault.systemMessage
    simp only [String.toList_append, hu, List.append_assoc]
    rfl
  have hbehind : isLiteral (('E' :: t) ++ [q]) = true := isLiteral_append hbracket hq hliteral
  rw [hsplit, isLiteral, Bool.and_eq_true]
  exact ⟨rfl, hbehind⟩

/-- The message about a path without brackets prints as it is. -/
theorem FileFault.isLiteral_message {fault : FileFault} {p : Path} (h : fault.About p)
    (hp : '[' ∉ p.render.toList) : isLiteral fault.message.toList = true := by
  cases fault with
  | missing q | notDirectory q | isDirectory q | denied q | nameTooLong q =>
    cases h
    exact isLiteral_systemMessage _ (by decide) hp
  | other code words q =>
    obtain ⟨rfl, hwords⟩ := h
    exact isLiteral_systemMessage code hwords hp
  | zeroCharacter => decide

theorem Failure.message_eq {f : Failure} {r : Report} (h : f.report? = some r) :
    f.message = r.message := by
  cases f with
  | text | file => cases h
  | unsupported | undetected | tooLarge | unparsable =>
    cases h
    rfl

/-- The words of a failure are no markup, unless the path holds a bracket. -/
theorem Failure.isLiteral_message {f : Failure} {p : Path} (h : f.About p)
    (hp : '[' ∉ p.render.toList) (htext : ∀ fault, f ≠ .text fault) :
    isLiteral f.message.toList = true := by
  have happend : ∀ s : String, '[' ∉ s.toList → '[' ∉ (s ++ p.render).toList := by
    intro s hs
    simp [String.toList_append, hs, hp]
  cases f with
  | text fault => exact absurd rfl (htext fault)
  | file fault => exact FileFault.isLiteral_message h hp
  | undetected q =>
    cases h
    have hsuffix : '[' ∉ p.suffix.toList :=
      fun hmem => hp (Path.mem_render_of_mem_suffix (by decide) hmem)
    rw [Failure.message_eq rfl]
    refine Report.isLiteral_message (by simp) (by simp) (happend _ (by decide)) fun e he => ?_
    cases List.mem_singleton.1 he
    exact ⟨by simp, bracket_not_mem_quoted hsuffix⟩
  | tooLarge q size limit =>
    cases h
    rw [Failure.message_eq rfl]
    have hnumber := not_mem_toString (c := '[') (by decide) (by decide)
    refine Report.isLiteral_message (by simp) (by simp) (happend _ (by decide)) fun e he => ?_
    rcases List.mem_cons.1 he with rfl | he
    · exact ⟨by simp, hnumber size⟩
    · cases List.mem_singleton.1 he
      exact ⟨by simp, hnumber limit⟩
  | unsupported language name =>
    obtain ⟨rfl, rfl⟩ := h
    rw [Failure.message_eq rfl]
    refine Report.isLiteral_message (by simp) (by simp) ?_ fun e he => ?_
    · show '[' ∉ ("Language not supported: " ++ "go").toList
      decide
    · cases List.mem_singleton.1 he
      exact ⟨by simp, bracket_not_mem_quoted hp⟩
  | unparsable name places =>
    cases h
    rw [Failure.message_eq rfl]
    exact Report.isLiteral_syntaxFault hp places

/-! ## What is printed on a failure -/

/-- The text on a failure, before it is laid out. -/
def diagnostic (p : Path) (f : Failure) : String := "❌ " ++ p.render ++ ": " ++ f.message

/-- So does the whole diagnostic, unless the text of the file is at fault. -/
theorem isLiteral_diagnostic {f : Failure} {p : Path} (h : f.About p)
    (hp : '[' ∉ p.render.toList) (htext : ∀ fault, f ≠ .text fault) :
    isLiteral (diagnostic p f).toList = true := by
  have hmessage := Failure.isLiteral_message h hp htext
  have hsplit : (diagnostic p f).toList
      = ('❌' :: ' ' :: p.render.toList) ++ ':' :: ' ' :: f.message.toList := by
    unfold diagnostic
    simp only [String.toList_append, List.append_assoc]
    rfl
  have hbehind : isLiteral (':' :: ' ' :: f.message.toList) = true := by
    cases hlist : f.message.toList with
    | nil => rfl
    | cons c rest =>
      rw [hlist] at hmessage
      rw [isLiteral, isLiteral, hmessage]
      rfl
  have hbracket : '[' ∉ '❌' :: ' ' :: p.render.toList := by
    simp [hp]
  rw [hsplit]
  exact isLiteral_append hbracket (by decide) hbehind

/-- A failure about a path without brackets is printed as it stands. -/
theorem Terminal.PrintsPlain.complaint_eq {terminal : Terminal} {plain : String → String}
    (hprint : terminal.PrintsPlain plain) {f : Failure} {p : Path} (h : f.About p)
    (hp : '[' ∉ p.render.toList) (htext : ∀ fault, f ≠ .text fault) :
    terminal.complaint p f = .ok (plain (diagnostic p f)) := by
  have hne : diagnostic p f ≠ "" := by
    intro hempty
    have hlength := congrArg String.length hempty
    simp [diagnostic] at hlength
  have hmarkup : "[red]❌ " ++ p.render ++ ": " ++ f.message ++ "[/red]"
      = "[red]" ++ diagnostic p f ++ "[/red]" := by
    rw [← String.toList_inj, diagnostic]
    simp only [String.toList_append, List.append_assoc]
    rfl
  unfold Terminal.complaint
  rw [hmarkup]
  exact hprint _ hne (isLiteral_diagnostic h hp htext)

end

/-! ## Trials -/

section

/-- The fault of a text that cannot be read or written, if that is how the analysis ended. -/
def Outcome.textFault? (o : Outcome Build) : Option TextFault :=
  match o.result with
  | .error (.text fault) => some fault
  | _ => none

/-- The report on a file: nothing, or the lines on its failure. -/
def reportOn (plain : String → String) (p : Path) (o : Outcome Build) : String :=
  match o.result with
  | .ok _ => ""
  | .error f => plain (diagnostic p f)

variable {terminal : Terminal} {plain : String → String} {p : Path} {o : Outcome Build}

/-- A file whose text makes no trouble is reported, and the next one is looked at. -/
theorem Trial.report_of_none (hprint : terminal.PrintsPlain plain)
    (habout : FailsOnly (Failure.About p) o.result) (hp : '[' ∉ p.render.toList)
    (h : o.textFault? = none) :
    (Trial.mk p o).report terminal = (reportOn plain p o, none) := by
  unfold Trial.report reportOn
  unfold Outcome.textFault? at h
  dsimp only
  cases hresult : o.result with
  | ok b => rfl
  | error f =>
    rw [hresult] at h
    have hcomplaint : (∀ fault, f ≠ .text fault) →
        terminal.complaint p f = .ok (plain (diagnostic p f)) :=
      hprint.complaint_eq (habout f hresult) hp
    cases f with
    | text fault => cases h
    | unsupported | undetected | tooLarge | unparsable | file =>
      dsimp only
      rw [hcomplaint (by simp)]

/-- A file whose text makes trouble is not, and none is looked at behind it. -/
theorem Trial.report_of_some {fault : TextFault} (h : o.textFault? = some fault) :
    (Trial.mk p o).report terminal = ("", some fault.kindName) := by
  unfold Trial.report
  unfold Outcome.textFault? at h
  split at h
  next hresult =>
    cases h
    dsimp only
    rw [hresult]
  next => cases h

/-- Only a text that makes trouble stops the program. -/
theorem Trial.isSome_stop? (hprint : terminal.PrintsPlain plain)
    (habout : FailsOnly (Failure.About p) o.result) (hp : '[' ∉ p.render.toList) :
    ((Trial.mk p o).stop? terminal).isSome = o.textFault?.isSome := by
  unfold Trial.stop?
  cases h : o.textFault? with
  | none =>
    rw [Trial.report_of_none hprint habout hp h]
    rfl
  | some fault =>
    rw [Trial.report_of_some h]
    rfl

end

/-! ## Runs -/

section

variable (w : World) (plain : String → String) (style : LogStyle) (settings : Settings)

/-- The lines of the log on the file at a path. -/
def World.logOn (p : Path) : String :=
  String.join ((w.analyse settings p).events.map fun e =>
    style.write w.time (e.record (w.elapsed p)))

/-- All that is said about the file at a path: the log, then the report. -/
def World.accountOf (p : Path) : String :=
  w.logOn style settings p ++ reportOn plain p (w.analyse settings p)

variable {w plain settings}
variable {i : Invocation} {names : List String} {files : List Path}

/-- A file whose text can be read is reported with its diagnostic. -/
theorem errorText_of_none {p : Path} (hw : w.Regular) (hprint : w.terminal.PrintsPlain plain)
    (hp : '[' ∉ p.render.toList) (h : (w.analyse settings p).textFault? = none) :
    (Trial.mk p (w.analyse settings p)).errorText w style
      = w.accountOf plain style settings p := by
  unfold Trial.errorText
  rw [Trial.report_of_none hprint (w.analyse_about hw settings p) hp h]
  rfl

/-- A file whose text cannot be read leaves nothing but its log. -/
theorem errorText_of_some {p : Path} {fault : TextFault}
    (h : (w.analyse settings p).textFault? = some fault) :
    (Trial.mk p (w.analyse settings p)).errorText w style = w.logOn style settings p := by
  unfold Trial.errorText
  rw [Trial.report_of_some h, String.append_empty]
  rfl

/-- Files are accounted for in turn, up to the first whose text makes trouble. Of that one there is
the log. -/
theorem join_errorText_trials (hw : w.Regular) (hprint : w.terminal.PrintsPlain plain)
    (hfiles : ∀ p ∈ files, '[' ∉ p.render.toList) :
    String.join ((trials w.terminal (w.analyse settings) files).map (Trial.errorText w style))
      = String.join ((files.takeWhile fun p => (w.analyse settings p).textFault?.isNone).map
          (w.accountOf plain style settings))
        ++ ((files.find? fun p => (w.analyse settings p).textFault?.isSome).map
          (w.logOn style settings)).getD "" := by
  induction files with
  | nil => rfl
  | cons p rest ih =>
    have hp := hfiles p List.mem_cons_self
    have ih := ih fun q hq => hfiles q (List.mem_cons_of_mem p hq)
    have hstop := Trial.isSome_stop? hprint (w.analyse_about hw settings p) hp
    unfold trials
    dsimp only
    rw [List.map_cons, String.join_cons, hstop]
    cases hfault : (w.analyse settings p).textFault? with
    | none =>
      -- the file is accounted for, and the files behind it are those of the hypothesis
      rw [errorText_of_none style hw hprint hp hfault,
        List.takeWhile_cons_of_pos (by rw [hfault]; rfl),
        List.find?_cons_of_neg (by rw [hfault]; simp), List.map_cons, String.join_cons,
        String.append_assoc, ← ih]
      rfl
    | some fault =>
      -- nothing is tried behind it
      rw [errorText_of_some style hfault, List.takeWhile_cons_of_neg (by rw [hfault]; simp),
        List.find?_cons_of_pos (by rw [hfault]; rfl)]
      simp

/-- **Reports**: a `blocks` command that gets as far as its files, all of which may be read if they
are there, says on its error output what there is to say about them, one after the other: the log of
each, and behind it one report if the file has no graph. If no text makes trouble, that is all
files. Otherwise the first of these texts ends the run, so that neither its file nor any behind it
is reported. -/
theorem runCommand_reports {words : List String}
    (hwords : Invocation.parse w.terminal words = some i) (h : i.Reaches w settings names)
    (hw : w.Regular) (hprint : w.terminal.PrintsPlain plain)
    (hzero : ∀ name ∈ names, holdsZero name = false)
    (hread : ∀ name ∈ names, w.mayRead name = true) (hpaths : names.map Path.ofString = files)
    (hfiles : ∀ p ∈ files, '[' ∉ p.render.toList) :
    ∃ style, i.logStyle settings.log = .ok style ∧
      (runCommand words w).err
        = String.join ((files.takeWhile fun p => (w.analyse settings p).textFault?.isNone).map
            (w.accountOf plain style settings))
          ++ ((files.find? fun p => (w.analyse settings p).textFault?.isSome).map
            (w.logOn style settings)).getD "" ∧
      ((∀ p ∈ files, (w.analyse settings p).textFault? = none) →
        trials w.terminal (w.analyse settings) files
            = files.map (fun p => ⟨p, w.analyse settings p⟩) ∧
          (runCommand words w).err
            = String.join (files.map (w.accountOf plain style settings))) := by
  subst hpaths
  have hopen := refusal?_eq_none.2 fun name hname => ⟨hzero name hname, hread name hname⟩
  obtain ⟨style, hstyle, hrun⟩ := h.run_eq hopen
  have herr : (runCommand words w).err
      = String.join ((trials w.terminal (w.analyse settings) (names.map Path.ofString)).map
        (Trial.errorText w style)) := by
    unfold runCommand
    rw [hwords]
    show (i.run w).err = _
    rw [hrun]
    unfold Invocation.conclude
    dsimp only
    split <;> rfl
  refine ⟨style, hstyle, herr.trans (join_errorText_trials style hw hprint hfiles),
    fun hnone => ?_⟩
  have htrials : trials w.terminal (w.analyse settings) (names.map Path.ofString)
      = (names.map Path.ofString).map fun p => ⟨p, w.analyse settings p⟩ := by
    -- nothing but the text of a file ends the run at the file
    refine trials_eq_map fun p hp => Option.isNone_iff_eq_none.1 ?_
    have hstop := Trial.isSome_stop? hprint (w.analyse_about hw settings p) (hfiles p hp)
    rw [hnone p hp] at hstop
    simpa using hstop
  refine ⟨htrials, ?_⟩
  rw [herr, htrials, List.map_map]
  exact congrArg String.join (List.map_congr_left fun p hp =>
    errorText_of_none style hw hprint (hfiles p hp) (hnone p hp))

end

/-- A Go file and a file that is none. -/
def mixedFiles : World :=
  .holding [("a.go", Utf8.encode "package p\n".toList), ("b.txt", [])]

/-- Three files: one that is no source, one that is fine, and one that is missing. -/
theorem runCommand_reports_mixedFiles :
    (runCommand ["--log-level", "ERROR", "blocks", "b.txt", "a.go", "c.go"] mixedFiles).err
      = joinLines
        ["❌ b.txt: Could not detect language for: b.txt (details: \x7b'suffix': '.txt'\x7d)",
          "❌ c.go: [Errno 2] No such file or directory: 'c.go'"] := by
  have hwords : Invocation.parse (.ofWidth 400)
      ["--log-level", "ERROR", "blocks", "b.txt", "a.go", "c.go"]
        = some ⟨{ level := "ERROR" }, .blocks, ["b.txt", "a.go", "c.go"]⟩ := by decide +kernel
  have hreaches : Invocation.Reaches ⟨{ level := "ERROR" }, .blocks, ["b.txt", "a.go", "c.go"]⟩
      mixedFiles {} ["b.txt", "a.go", "c.go"] :=
    { load := load_over _, level := by decide +kernel, files := by decide +kernel }
  have hnone : ∀ p ∈ ["b.txt", "a.go", "c.go"].map Path.ofString,
      (mixedFiles.analyse {} p).textFault? = none := by decide +kernel
  obtain ⟨style, hstyle, -, hall⟩ :=
    runCommand_reports hwords hreaches (World.regular_over _) (Terminal.printsPlain_ofWidth 400)
      (by decide) (by decide +kernel) rfl (by decide +kernel)
  have hlogged : (Invocation.logStyle ⟨{ level := "ERROR" }, .blocks, []⟩ {}).toOption
      = some ⟨40, false, true⟩ := by decide +kernel
  obtain rfl : style = ⟨40, false, true⟩ :=
    Option.some.inj ((congrArg Except.toOption hstyle).symm.trans hlogged)
  rw [(hall hnone).2]
  decide +kernel

/-- Bytes that are no text end the run: nothing is said about this file, nor about the next. -/
theorem runCommand_unreadable :
    runCommand ["blocks", "a.go", "b.go"] (.holding [("a.go", [0xFF])])
      = { code := 1, fault := some "UnicodeDecodeError" } := by
  decide +kernel

end GoFlow
