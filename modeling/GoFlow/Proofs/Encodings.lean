import GoFlow.Source

/-!
# Reading a text and writing it back

- `FailsOnly`: a computation that fails in certain ways only.
- `Encoding.decode_fails`, `Encoding.decodeStream_fails`: bytes that are no text are the only
  trouble that a known encoding has with a file.
- `Encoding.exists_encode`: what was read in an encoding can be written in it, also after the line
  endings were unified.
- `Source.ofFile_file`: reading a file as a source, step by step.
-/

namespace GoFlow

/-! ## Ways to fail -/

/-- If the computation fails, it is with an error of this kind. -/
def FailsOnly {ε α : Type} (p : ε → Prop) (x : Except ε α) : Prop := ∀ e, x = .error e → p e

namespace FailsOnly

variable {ε α β : Type} {p : ε → Prop}

theorem ok (a : α) : FailsOnly p (.ok a) := by
  intro e h
  cases h

theorem error {e : ε} (h : p e) : FailsOnly p (.error e : Except ε α) := by
  intro e' he
  cases he
  exact h

/-- Two steps that fail in one way only fail in that way one after the other. -/
theorem bind {x : Except ε α} {f : α → Except ε β} (hx : FailsOnly p x)
    (hf : ∀ a, FailsOnly p (f a)) : FailsOnly p (x >>= f) := by
  cases x with
  | error e => exact error (hx e rfl)
  | ok a => exact hf a

/-- So does a loop. -/
theorem foldlM {f : β → α → Except ε β} (hf : ∀ b a, FailsOnly p (f b a)) (as : List α) (b : β) :
    FailsOnly p (as.foldlM f b) := by
  induction as generalizing b with
  | nil => exact ok b
  | cons a as ih =>
    rw [List.foldlM_cons]
    exact (hf b a).bind ih

/-- A computation that fails in few ways fails in no other. -/
theorem mono {q : ε → Prop} {x : Except ε α} (hx : FailsOnly p x) (hpq : ∀ e, p e → q e) :
    FailsOnly q x :=
  fun e h => hpq e (hx e h)

end FailsOnly

/-! ## Bytes that are no text -/

/-- Some bytes stand for no character. -/
def TextFault.IsMalformed (f : TextFault) : Prop := f.kindName = "UnicodeDecodeError"

/-- The bytes of a file are no text: some stand for no character, or the byte order mark is
missing. -/
def TextFault.IsUnreadable (f : TextFault) : Prop := f.IsMalformed ∨ f.kindName = "UnicodeError"

section

open TextFault (IsMalformed IsUnreadable)

/-- Decoding fails at bytes that stand for no character, in each of the encodings. -/
theorem Utf8.decode_fails (bytes : List UInt8) : FailsOnly IsMalformed (Utf8.decode bytes) := by
  refine .bind (.foldlM (fun s b => ?_) bytes ({} : State)) fun s => ?_
  · unfold Utf8.step
    split
    · split
      · exact .ok _
      · split
        · exact .ok _
        · exact .error rfl
    · split
      · dsimp only
        split <;> exact .ok _
      · exact .error rfl
  · unfold Utf8.finish
    split
    · exact .ok _
    · exact .error rfl

theorem Utf16.decodeFrom_fails (order : ByteOrder) (position : Nat)
    (high : Option (Nat × List UInt8)) (done : List Char) (bytes : List UInt8) :
    FailsOnly IsMalformed (Utf16.decodeFrom order position high done bytes) := by
  fun_induction Utf16.decodeFrom order position high done bytes with
  | case1 => exact .ok _
  | case5 _ _ _ _ _ _ _ _ _ _ _ ih => exact ih
  | case8 _ _ _ _ _ _ _ _ _ ih => exact ih
  | case9 _ _ _ _ _ _ _ _ _ ih => exact ih
  | _ => exact .error rfl

theorem Utf32.decodeFrom_fails (order : ByteOrder) (position : Nat) (done : List Char)
    (bytes : List UInt8) : FailsOnly IsMalformed (Utf32.decodeFrom order position done bytes) := by
  fun_induction Utf32.decodeFrom order position done bytes with
  | case1 => exact .ok _
  | case4 _ _ _ _ _ _ _ _ _ _ ih => exact ih
  | _ => exact .error rfl

theorem SingleByte.decodeFrom_fails (codec : String) (limit position : Nat) (done : List Char)
    (bytes : List UInt8) :
    FailsOnly IsMalformed (SingleByte.decodeFrom codec limit position done bytes) := by
  induction bytes generalizing position done with
  | nil => exact .ok _
  | cons b rest ih =>
    unfold SingleByte.decodeFrom
    split
    · exact ih _ _
    · exact .error rfl

namespace Encoding

/-- Bytes that stand for no character are the only trouble with a text in memory. -/
theorem decode_fails (e : Encoding) (bytes : List UInt8) :
    FailsOnly IsMalformed (e.decode bytes) := by
  cases e with
  | utf8 | utf8Marked => exact Utf8.decode_fails _
  | ascii | latin1 => exact SingleByte.decodeFrom_fails _ _ _ _ _
  | utf16le | utf16be => exact Utf16.decodeFrom_fails _ _ _ _ _
  | utf32le | utf32be => exact Utf32.decodeFrom_fails _ _ _ _
  | utf16 =>
    rw [decode]
    split <;> exact Utf16.decodeFrom_fails _ _ _ _ _
  | utf32 =>
    rw [decode]
    split <;> exact Utf32.decodeFrom_fails _ _ _ _

/-- A file may also lack its byte order mark. -/
theorem decodeStream_fails (e : Encoding) (bytes : List UInt8) :
    FailsOnly IsUnreadable (e.decodeStream bytes) := by
  have hdecode : FailsOnly IsUnreadable (e.decode bytes) :=
    (e.decode_fails bytes).mono fun _ => .inl
  cases e with
  | utf8 | ascii | latin1 | utf16le | utf16be | utf32le | utf32be => exact hdecode
  | utf8Marked =>
    unfold decodeStream
    dsimp only
    split
    · exact .ok _
    · exact hdecode
  | utf16 | utf32 =>
    -- the mark is asked for only once the text was read
    refine hdecode.bind fun text => ?_
    split
    · exact .error (.inr rfl)
    · exact .ok _

end Encoding

end

/-! ## Writing back what was read -/

namespace SingleByte

variable {codec : String} {limit : Nat}

/-- The characters that are read are below the limit, as the bytes are. -/
theorem toNat_lt_of_decodeFrom {position : Nat} {done : List Char} {bytes : List UInt8}
    {text : List Char} (hdone : ∀ c ∈ done, c.toNat < limit)
    (h : decodeFrom codec limit position done bytes = .ok text) : ∀ c ∈ text, c.toNat < limit := by
  induction bytes generalizing position done with
  | nil =>
    cases h
    exact fun c hc => hdone c (List.mem_reverse.1 hc)
  | cons b rest ih =>
    unfold decodeFrom at h
    split at h
    next hb =>
      refine ih (fun c hc => ?_) h
      rcases List.mem_cons.1 hc with rfl | hc
      · -- a byte is below the surrogates, so the character has the number of the byte
        have hvalid : b.toNat.isValidChar := .inl (Nat.lt_trans b.toNat_lt (by decide))
        rw [Char.ofNat, dif_pos hvalid]
        exact hb
      · exact hdone c hc
    next => cases h

/-- A single byte encodes every text of characters below its limit. -/
theorem exists_encodeFrom {text : List Char} (h : ∀ c ∈ text, c.toNat < limit) (position : Nat)
    (done : List UInt8) : ∃ out, encodeFrom codec limit position done text = .ok out := by
  induction text generalizing position done with
  | nil => exact ⟨_, rfl⟩
  | cons c rest ih =>
    rw [encodeFrom, if_pos (h c List.mem_cons_self)]
    exact ih (fun d hd => h d (List.mem_cons_of_mem c hd)) _ _

end SingleByte

/-- Unified line endings add no character but the line feed. -/
theorem mem_unifyNewlinesOnto {c : Char} {done s : List Char} (h : c ∈ unifyNewlinesOnto done s) :
    c = '\n' ∨ c ∈ done ∨ c ∈ s := by
  fun_induction unifyNewlinesOnto done s with
  | case1 done => exact .inr (.inl (List.mem_reverse.1 h))
  | case2 _ _ ih => grind
  | case3 _ _ _ ih => grind
  | case4 _ _ _ _ _ ih => grind

/-- Of a text, line feeds apart, nothing is added when its line ends are unified. -/
theorem mem_unifyNewlines {c : Char} {s : List Char} (h : c ∈ unifyNewlines s) :
    c = '\n' ∨ c ∈ s := by
  simpa using mem_unifyNewlinesOnto h

/-- What was read from a file can be written in the same encoding. -/
theorem Encoding.exists_encode {e : Encoding} {bytes : List UInt8} {text : List Char}
    (h : e.decodeStream bytes = .ok text) : ∃ out, e.encode (unifyNewlines text) = .ok out := by
  have hunified : ∀ limit, 10 < limit → (∀ c ∈ text, c.toNat < limit) →
      ∀ c ∈ unifyNewlines text, c.toNat < limit := by
    intro limit hlimit htext c hc
    rcases mem_unifyNewlines hc with rfl | hc
    · exact hlimit
    · exact htext c hc
  -- only the encodings with one byte for each character cannot write every character
  cases e with
  | ascii | latin1 =>
    have htext := SingleByte.toNat_lt_of_decodeFrom (by simp) h
    exact SingleByte.exists_encodeFrom (hunified _ (by decide) htext) 0 []
  | _ => exact ⟨_, rfl⟩

/-- A file is read first, and then its language is looked for. -/
theorem Source.ofFile_file (path : Path) (bytes : List UInt8) (language : Option String)
    (encoding : String) :
    Source.ofFile path (.file bytes) language encoding
      = (Source.readText encoding bytes).mapError .text >>= fun content =>
        (language <|> detectLanguage path).elim (.error (.undetected path)) fun language =>
          .ok { file := path.render, content, language, encoding } := by
  unfold Source.ofFile
  cases language with
  | some name => rfl
  | none => cases detectLanguage path <;> rfl

end GoFlow
