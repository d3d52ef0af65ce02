import GoFlow.Proofs.FileChecks
import GoFlow.Proofs.LineEndings
import GoFlow.Proofs.Utf8

/-!
# The size of a file and of its text

A file that is loaded as UTF-8 loses the carriage returns of its line endings. Its text is shorter
than the file by the pairs of a carriage return and a line feed, and by nothing else: a byte order
mark is kept, and a carriage return that stands alone becomes a line feed.

- `bytePairCount`: the pairs among the bytes of a file. They are those of its text
  (`Utf8.bytePairCount_encode`), since bytes of longer characters are never taken for them.
- `Utf8.length_encode_unifyNewlines`: what the text loses when its line endings are unified.
- `Source.exists_ofFile_of_decode`, `Source.exists_decode_of_ofFile`: a Go file is loaded if its
  bytes can be read, and only then.
-/

namespace GoFlow

/-- How many bytes for a carriage return have one for a line feed right behind them. -/
def bytePairCount (bytes : List UInt8) : Nat := (bytes.zip bytes.tail).count (0x0D, 0x0A)

namespace Utf8

open String (utf8EncodeChar)

/-! ## Pairs of bytes and of characters -/

theorem encode_cons (c : Char) (text : List Char) :
    encode (c :: text) = utf8EncodeChar c ++ encode text :=
  List.flatMap_cons

/-- A character of one byte shares this byte with no other character. -/
theorem eq_of_mem_utf8EncodeChar {c d : Char} (hd : d.toNat < 0x80)
    (h : UInt8.ofNat d.toNat ∈ utf8EncodeChar c) : c = d := by
  have hbyte : ∀ {n}, n < 0x80 → (UInt8.ofNat n).toNat = n :=
    fun hn => UInt8.toNat_ofNat_of_lt' (Nat.lt_trans hn (by decide))
  by_cases hc : c.toNat < 0x80
  · rw [utf8EncodeChar_of_lt hc, List.mem_singleton, ← UInt8.toNat_inj, hbyte hd, hbyte hc] at h
    exact Char.toNat_inj.1 h.symm
  · have hle := le_of_mem_utf8EncodeChar (Nat.le_of_not_lt hc) h
    rw [hbyte hd] at hle
    exact absurd hd (Nat.not_lt.2 hle)

/-- A line feed is one byte, and no other character starts with that byte. -/
theorem head?_encode_eq_feed_iff (text : List Char) :
    (encode text).head? = some 0x0A ↔ text.head? = some '\n' := by
  cases text with
  | nil => simp [encode]
  | cons c text =>
    rw [List.head?_cons, Option.some.injEq]
    constructor
    · intro h
      obtain ⟨b, more, hbytes⟩ := List.exists_cons_of_ne_nil (@String.utf8EncodeChar_ne_nil c)
      rw [encode_cons, hbytes, List.cons_append, List.head?_cons, Option.some.injEq] at h
      refine @eq_of_mem_utf8EncodeChar c '\n' (by decide) ?_
      rw [hbytes, h]
      exact List.mem_cons_self
    · rintro rfl
      rfl

/-- The bytes of a text have the pairs that its characters have. -/
theorem bytePairCount_encode (text : List Char) : bytePairCount (encode text) = pairCount text := by
  induction text with
  | nil => rfl
  | cons c text ih =>
    rw [pairCount_cons, ← ih]
    by_cases hc : c = '\r'
    · subst hc
      simp only [true_and, ← head?_encode_eq_feed_iff]
      exact (count_zip_tail_cons 0x0D 0x0A 0x0D (encode text)).trans (by simp [bytePairCount])
    · -- none of its bytes is the first half of a pair
      rw [if_neg fun h => hc h.1, encode_cons]
      refine count_zip_tail_append 0x0D 0x0A (fun h => hc ?_) (encode text)
      exact @eq_of_mem_utf8EncodeChar c '\r' (by decide) h

/-! ## Unified line endings -/

theorem length_return : (utf8EncodeChar '\r').length = 1 := rfl

theorem length_feed : (utf8EncodeChar '\n').length = 1 := rfl

/-- Each pair costs the byte of its carriage return. By induction along the text, with the
characters done so far. -/
theorem length_encode_unifyNewlinesOnto (done s : List Char) :
    (encode (unifyNewlinesOnto done s)).length + pairCount s
      = (encode done).length + (encode s).length := by
  fun_induction unifyNewlinesOnto done s with
  | case1 done => exact ((List.reverse_perm done).flatMap_right utf8EncodeChar).length_eq
  | case2 done rest ih =>
    rw [pairCount_pair]
    simp only [encode_cons, List.length_append, length_feed, length_return] at ih ⊢
    omega
  | case3 done rest halone ih =>
    -- the case of a pair comes first, so this carriage return stands alone
    rw [pairCount_cons, if_neg]
    · simp only [encode_cons, List.length_append, length_feed, length_return] at ih ⊢
      omega
    · rintro ⟨-, hfeed⟩
      obtain ⟨more, hmore⟩ := List.head?_eq_some_iff.1 hfeed
      exact halone more hmore
  | case4 done c rest _ hc ih =>
    rw [pairCount_cons, if_neg fun h => hc h.1]
    simp only [encode_cons, List.length_append] at ih ⊢
    omega

/-- **Unified line ends** take one byte less for every pair of a return and a feed. -/
theorem length_encode_unifyNewlines (s : List Char) :
    (encode (unifyNewlines s)).length + pairCount s = (encode s).length := by
  rw [unifyNewlines, length_encode_unifyNewlinesOnto]
  exact Nat.zero_add _

end Utf8

/-- No return is left. -/
theorem return_not_mem_unifyNewlinesOnto {done : List Char} (hdone : '\r' ∉ done)
    (s : List Char) : '\r' ∉ unifyNewlinesOnto done s := by
  fun_induction unifyNewlinesOnto done s with
  | case1 done => rwa [List.mem_reverse]
  | case2 done rest ih => exact ih (by simpa using hdone)
  | case3 done rest _ ih => exact ih (by simpa using hdone)
  | case4 done c rest _ hc ih =>
    refine ih fun h => ?_
    rcases List.mem_cons.1 h with rfl | h
    · exact hc rfl
    · exact hdone h

/-! ## Loading a file -/

namespace Source

/-- In the default encoding, a file is its decoded bytes with unified line ends. -/
theorem readText_utf8 (bytes : List UInt8) :
    readText "utf-8" bytes
      = Utf8.decode bytes >>= fun text => .ok (String.ofList (unifyNewlines text)) := by
  have hname : fileEncoding "utf-8" = .ok .utf8 :=
    IsReadAs.fileEncoding (.inr ⟨by decide, by decide⟩)
  rw [readText, hname]
  rfl

/-- The size of a source is the number of bytes of its content, as it is now. -/
theorem byteSize_utf8 {s : Source} (h : s.encoding = "utf-8") :
    s.byteSize = .ok (Utf8.encode s.content.toList).length := by
  have hname : namedEncoding "utf-8" = .ok .utf8 := namedEncoding_of_ofName? (by decide) (by decide)
  rw [byteSize, bytes, encodeAs, h, hname]
  rfl

/-- Bytes that cannot be read are not loaded. -/
theorem exists_decode_of_ofFile {path : Path} {language : Option String} {bytes : List UInt8}
    {s : Source} (h : ofFile path (.file bytes) language "utf-8" = .ok s) :
    ∃ text, Utf8.decode bytes = .ok text := by
  cases hdecode : Utf8.decode bytes with
  | ok text => exact ⟨text, rfl⟩
  | error fault =>
    rw [ofFile_file, readText_utf8, hdecode] at h
    cases h

/-- The name of a Go file tells its language, if it is not given. -/
theorem exists_ofFile_of_decode {path : Path} (hpath : path.suffix.toLower = ".go")
    (language : Option String) {bytes : List UInt8} {text : List Char}
    (h : Utf8.decode bytes = .ok text) :
    ∃ s, ofFile path (.file bytes) language "utf-8" = .ok s ∧ s.encoding = "utf-8" ∧
      s.content.toList = unifyNewlines text := by
  have hdetect : detectLanguage path = some "go" := by
    rw [detectLanguage, hpath]
    rfl
  have hfile : ofFile path (.file bytes) language "utf-8"
      = .ok { file := path.render, content := String.ofList (unifyNewlines text),
              language := language.getD "go", encoding := "utf-8" } := by
    rw [ofFile_file, readText_utf8, h, hdetect]
    cases language <;> rfl
  exact ⟨_, hfile, rfl, String.toList_ofList⟩

end Source

/-- **The size of a loaded file**: a Go file is loaded as UTF-8 exactly if its bytes are valid. Its
text is then as long as the file, less one byte for each carriage return that has a line feed right
behind it, and holds no carriage return. -/
theorem isValidUTF8_iff_loaded {path : Path} (hpath : path.suffix.toLower = ".go")
    (language : Option String) (bytes : List UInt8) :
    bytes.toByteArray.IsValidUTF8 ↔
      ∃ s, Source.ofFile path (.file bytes) language "utf-8" = .ok s ∧
        s.byteSize = .ok (bytes.length - bytePairCount bytes) ∧ '\r' ∉ s.content.toList := by
  rw [← Utf8.exists_decode_iff]
  constructor
  · rintro ⟨text, htext⟩
    obtain ⟨s, hs, hencoding, hcontent⟩ := Source.exists_ofFile_of_decode hpath language htext
    refine ⟨s, hs, ?_, ?_⟩
    · have hlength := Utf8.length_encode_unifyNewlines text
      rw [Source.byteSize_utf8 hencoding, hcontent, ← Utf8.encode_of_decode htext,
        Utf8.bytePairCount_encode, ← hlength, Nat.add_sub_cancel]
    · rw [hcontent]
      exact return_not_mem_unifyNewlinesOnto (by simp) text
  · rintro ⟨s, hs, -⟩
    exact Source.exists_decode_of_ofFile hs

/-- A byte order mark, a carriage return in front of a pair, characters of two and of four bytes,
and a carriage return at the end. -/
theorem marked_file_loaded :
    (Path.ofString "a.go").suffix.toLower = ".go" ∧
      ∃ s, Source.ofFile (Path.ofString "a.go")
          (.file [0xEF, 0xBB, 0xBF, 0x0D, 0x0D, 0x0A, 0xC3, 0xA9, 0xF0, 0x9F, 0x98, 0x80, 0x0D])
          none "utf-8" = .ok s ∧
        s.byteSize = .ok 12 ∧ '\r' ∉ s.content.toList :=
  have hpath : (Path.ofString "a.go").suffix.toLower = ".go" := by decide +kernel
  ⟨hpath, (isValidUTF8_iff_loaded hpath none _).1
    ⟨['\uFEFF', '\r', '\r', '\n', 'é', '😀', '\r'], List.toByteArray_inj.2 (by decide)⟩⟩

end GoFlow
