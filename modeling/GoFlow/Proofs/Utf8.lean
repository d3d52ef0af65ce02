import GoFlow.Text.Codec

/-!
# Reading and writing UTF-8

The reader takes one byte at a time and keeps the bits of an open character. It accepts what the
writer writes and nothing else: no overlong form, no surrogate, no code point that is too large.

- `Leads`: the forms of a character that is longer than a byte. The writer uses them
  (`Leads.utf8EncodeChar_eq`), and the bounds that the reader keeps come down to them
  (`leads_of_lead?`, `Leads.exists_lead?`).
- `Reads`: what one byte does to the state of the reader.
- `decode_encode`: what was written is read. Inside a character the reader may still come to any
  code point with the bits so far (`Pending.Admits`).
- `encode_of_decode`: what was read was written like that. Along a run, the bytes behind the
  reader are those of its characters and of the open one (`State.Follows`).
- `exists_decode_iff`: the reader accepts the byte strings that are valid UTF-8.
-/

namespace GoFlow.Utf8

open String (utf8EncodeChar)

/-! ## Longer characters -/

/-- The byte of a character that has `owed` more behind it: six bits of the code point. -/
def sextet (owed n : Nat) : UInt8 := UInt8.ofNat (n >>> (6 * owed) % 64 + 0x80)

/-- A continuation byte carries six bits. -/
theorem toNat_sextet (owed n : Nat) : (sextet owed n).toNat = n >>> (6 * owed) % 64 + 0x80 :=
  UInt8.toNat_ofNat_of_lt' (show _ < 256 by omega)

/-- The last `owed` bytes of a character. -/
def continuation : Nat → Nat → List UInt8
  | 0, _ => []
  | owed + 1, n => sextet owed n :: continuation owed n

@[simp] theorem length_continuation (owed n : Nat) : (continuation owed n).length = owed := by
  induction owed with
  | zero => rfl
  | succ owed ih => rw [continuation, List.length_cons, ih]

theorem le_of_mem_continuation {owed n : Nat} {b : UInt8} (h : b ∈ continuation owed n) :
    0x80 ≤ b.toNat := by
  induction owed with
  | zero => cases h
  | succ owed ih =>
    rcases List.mem_cons.1 h with rfl | h
    · rw [toNat_sextet]
      omega
    · exact ih h

/-- The byte is the first one of the character with the code point, and so many are behind it. -/
inductive Leads : UInt8 → Nat → Nat → Prop where
  | two {b n} (hlow : 0x80 ≤ n) (hhigh : n < 0x800) (hb : b.toNat = n >>> 6 + 0xC0) :
      Leads b 1 n
  /-- Surrogates are no characters. -/
  | three {b n} (hlow : 0x800 ≤ n) (hhigh : n < 0x10000) (hplain : n < 0xD800 ∨ 0xDFFF < n)
      (hb : b.toNat = n >>> 12 + 0xE0) : Leads b 2 n
  | four {b n} (hlow : 0x10000 ≤ n) (hhigh : n < 0x110000) (hb : b.toNat = n >>> 18 + 0xF0) :
      Leads b 3 n

namespace Leads

variable {b : UInt8} {owed n : Nat}

theorem owed_pos (h : Leads b owed n) : 0 < owed := by
  cases h <;> decide

theorem le_first (h : Leads b owed n) : 0x80 ≤ b.toNat := by
  cases h <;> omega

theorem isValidChar (h : Leads b owed n) : n.isValidChar := by
  cases h with
  | two hlow hhigh => exact .inl (by omega)
  | three hlow hhigh hplain => exact hplain.imp_right fun h => ⟨h, by omega⟩
  | four hlow hhigh => exact .inr ⟨by omega, hhigh⟩

theorem utf8EncodeChar_eq {c : Char} (h : Leads b owed c.toNat) :
    utf8EncodeChar c = b :: continuation owed c.toNat := by
  have hfirst : b = UInt8.ofNat b.toNat := UInt8.ofNat_toNat.symm
  -- the writer cuts the highest bits to size, which does nothing within the form
  unfold utf8EncodeChar
  simp only [Char.toNat_val]
  cases h with
  | two hlow hhigh hb =>
    rw [if_neg (by omega), if_pos (by omega), hfirst, hb,
      Nat.mod_eq_of_lt (show c.toNat / 64 < 32 by omega)]
    simp [continuation, sextet, Nat.shiftRight_eq_div_pow]
  | three hlow hhigh hplain hb =>
    rw [if_neg (by omega), if_neg (by omega), if_pos (by omega), hfirst, hb,
      Nat.mod_eq_of_lt (show c.toNat / 4096 < 16 by omega)]
    simp [continuation, sextet, Nat.shiftRight_eq_div_pow]
  | four hlow hhigh hb =>
    rw [if_neg (by omega), if_neg (by omega), if_neg (by omega), hfirst, hb,
      Nat.mod_eq_of_lt (show c.toNat / 262144 < 8 by omega)]
    simp [continuation, sextet, Nat.shiftRight_eq_div_pow]

end Leads

theorem utf8EncodeChar_of_lt {c : Char} (h : c.toNat < 0x80) :
    utf8EncodeChar c = [UInt8.ofNat c.toNat] :=
  if_pos (Nat.le_of_lt_succ h)

/-- Any character that is longer than a byte has one of the forms. -/
theorem exists_leads {c : Char} (h : 0x80 ≤ c.toNat) : ∃ b owed, Leads b owed c.toNat := by
  have hvalid : c.toNat < 0xD800 ∨ 0xDFFF < c.toNat ∧ c.toNat < 0x110000 := c.valid
  have hbyte : ∀ {m}, m < 256 → (UInt8.ofNat m).toNat = m := UInt8.toNat_ofNat_of_lt'
  by_cases htwo : c.toNat < 0x800
  · exact ⟨_, _, .two h htwo (hbyte (by omega))⟩
  by_cases hthree : c.toNat < 0x10000
  · exact ⟨_, _, .three (by omega) hthree (by omega) (hbyte (by omega))⟩
  · exact ⟨_, _, .four (by omega) (by omega) (hbyte (by omega))⟩

/-- No byte of a longer character could be a character of its own. -/
theorem le_of_mem_utf8EncodeChar {c : Char} (h : 0x80 ≤ c.toNat) {b : UInt8}
    (hb : b ∈ utf8EncodeChar c) : 0x80 ≤ b.toNat := by
  obtain ⟨first, owed, hfirst⟩ := exists_leads h
  rw [hfirst.utf8EncodeChar_eq] at hb
  rcases List.mem_cons.1 hb with rfl | hb
  · exact hfirst.le_first
  · exact le_of_mem_continuation hb

/-! ## What a first byte says -/

/-- The code points that an open character may come to: they have the bits so far, and the next
six bits are within the bounds. -/
structure Pending.Admits (p : Pending) (n : Nat) : Prop where
  bits : n >>> (6 * p.owed) = p.value
  least_le : p.least.toNat ≤ n >>> (6 * (p.owed - 1)) % 64 + 0x80
  le_greatest : n >>> (6 * (p.owed - 1)) % 64 + 0x80 ≤ p.greatest.toNat

/-- The first byte of a character says how many follow and where the second may lie. -/
theorem lead?_eq_some_iff {start : Nat} {b : UInt8} {p : Pending} :
    lead? start b = some p ↔
      (0xC2 ≤ b.toNat ∧ b.toNat < 0xE0 ∧ p = ⟨start, [b], b.toNat - 0xC0, 1, 0x80, 0xBF⟩) ∨
      (0xE0 ≤ b.toNat ∧ b.toNat < 0xF0 ∧
        p = ⟨start, [b], b.toNat - 0xE0, 2, if b.toNat = 0xE0 then 0xA0 else 0x80,
          if b.toNat = 0xED then 0x9F else 0xBF⟩) ∨
      (0xF0 ≤ b.toNat ∧ b.toNat < 0xF5 ∧
        p = ⟨start, [b], b.toNat - 0xF0, 3, if b.toNat = 0xF0 then 0x90 else 0x80,
          if b.toNat = 0xF4 then 0x8F else 0xBF⟩) := by
  unfold lead?
  simp only [UInt8.lt_iff_toNat_lt, ← UInt8.toNat_inj, UInt8.reduceToNat]
  grind

/-- The bounds on the second byte leave only code points of the form that the first byte has. -/
theorem leads_of_lead? {start n : Nat} {b : UInt8} {p : Pending} (h : lead? start b = some p)
    (hn : p.Admits n) : Leads b p.owed n := by
  obtain ⟨hbits, hleast, hgreatest⟩ := hn
  rcases lead?_eq_some_iff.1 h with ⟨hlow, hhigh, rfl⟩ | ⟨hlow, hhigh, rfl⟩ | ⟨hlow, hhigh, rfl⟩
  · dsimp only at hbits
    exact .two (by omega) (by omega) (by omega)
  · simp only [apply_ite UInt8.toNat, UInt8.reduceToNat] at hbits hleast hgreatest
    -- behind `0xE0` the overlong forms are kept out, and behind `0xED` the surrogates
    refine .three ?_ (by omega) ?_ (by omega)
    · split at hleast <;> omega
    · split at hgreatest <;> omega
  · simp only [apply_ite UInt8.toNat, UInt8.reduceToNat] at hbits hleast hgreatest
    -- behind `0xF0` the overlong forms, and behind `0xF4` what is beyond the last code point
    refine .four ?_ ?_ (by omega)
    · split at hleast <;> omega
    · split at hgreatest <;> omega

/-- And they leave all of them. -/
theorem Leads.exists_lead? {b : UInt8} {owed n : Nat} (h : Leads b owed n) (start : Nat) :
    ∃ p, lead? start b = some p ∧ p.owed = owed ∧ p.Admits n := by
  cases h with
  | two hlow hhigh hb =>
    refine ⟨_, lead?_eq_some_iff.2 (.inl ⟨by omega, by omega, rfl⟩), rfl, ?_, ?_, ?_⟩
    · exact (Nat.sub_eq_of_eq_add hb).symm
    · simp only [UInt8.reduceToNat]
      omega
    · simp only [UInt8.reduceToNat]
      omega
  | three hlow hhigh hplain hb =>
    refine ⟨_, lead?_eq_some_iff.2 (.inr (.inl ⟨by omega, by omega, rfl⟩)), rfl, ?_, ?_, ?_⟩
    · exact (Nat.sub_eq_of_eq_add hb).symm
    · simp only [apply_ite UInt8.toNat, UInt8.reduceToNat]
      split <;> omega
    · simp only [apply_ite UInt8.toNat, UInt8.reduceToNat]
      split <;> omega
  | four hlow hhigh hb =>
    refine ⟨_, lead?_eq_some_iff.2 (.inr (.inr ⟨by omega, by omega, rfl⟩)), rfl, ?_, ?_, ?_⟩
    · exact (Nat.sub_eq_of_eq_add hb).symm
    · simp only [apply_ite UInt8.toNat, UInt8.reduceToNat]
      split <;> omega
    · simp only [apply_ite UInt8.toNat, UInt8.reduceToNat]
      split <;> omega

theorem bounds_of_lead? {start : Nat} {b : UInt8} {p : Pending} (h : lead? start b = some p) :
    p.bytes = [b] ∧ 0 < p.owed ∧ 0x80 ≤ p.least.toNat ∧ p.greatest.toNat ≤ 0xBF := by
  rcases lead?_eq_some_iff.1 h with ⟨-, -, rfl⟩ | ⟨-, -, rfl⟩ | ⟨-, -, rfl⟩
  · simp
  · simp only [apply_ite UInt8.toNat, UInt8.reduceToNat]
    grind
  · simp only [apply_ite UInt8.toNat, UInt8.reduceToNat]
    grind

/-! ## One byte -/

/-- The open character with one more byte. -/
def Pending.next (p : Pending) (b : UInt8) : Pending :=
  ⟨p.start, b :: p.bytes, p.value * 64 + (b.toNat - 0x80), p.owed - 1, 0x80, 0xBF⟩

/-- What a byte that is accepted does to the state. -/
inductive Reads : State → UInt8 → State → Prop where
  | plain {done position b} (hb : b < 0x80) :
      Reads ⟨done, position, none⟩ b ⟨Char.ofNat b.toNat :: done, position + 1, none⟩
  | first {done position b p} (hb : ¬ b < 0x80) (hlead : lead? position b = some p) :
      Reads ⟨done, position, none⟩ b ⟨done, position + 1, some p⟩
  | more {done position b p} (hleast : p.least ≤ b) (hgreatest : b ≤ p.greatest)
      (howed : 1 < p.owed) :
      Reads ⟨done, position, some p⟩ b ⟨done, position + 1, some (p.next b)⟩
  | last {done position b p} (hleast : p.least ≤ b) (hgreatest : b ≤ p.greatest)
      (howed : p.owed ≤ 1) :
      Reads ⟨done, position, some p⟩ b
        ⟨Char.ofNat (p.next b).value :: done, position + 1, none⟩

/-- A step that succeeds reads its byte in one of the ways listed. -/
theorem reads_of_step {s s' : State} {b : UInt8} (h : step s b = .ok s') : Reads s b s' := by
  obtain ⟨done, position, pending⟩ := s
  cases pending with
  | none =>
    by_cases hb : b < 0x80
    · cases (if_pos hb).symm.trans h
      exact .plain hb
    · have h := (if_neg hb).symm.trans h
      cases hlead : lead? position b with
      | none =>
        rw [hlead] at h
        cases h
      | some p =>
        rw [hlead] at h
        cases h
        exact .first hb hlead
  | some p =>
    by_cases hb : p.least ≤ b ∧ b ≤ p.greatest
    · have h := (if_pos hb).symm.trans h
      by_cases howed : p.owed ≤ 1
      · cases (if_pos howed).symm.trans h
        exact .last hb.1 hb.2 howed
      · cases (if_neg howed).symm.trans h
        exact .more hb.1 hb.2 (Nat.lt_of_not_le howed)
    · cases (if_neg hb).symm.trans h

/-- Each of these ways is a step. -/
theorem Reads.step_eq {s s' : State} {b : UInt8} (h : Reads s b s') : step s b = .ok s' := by
  cases h with
  | plain hb => exact if_pos hb
  | first hb hlead =>
    refine (if_neg hb).trans ?_
    rw [hlead]
  | more hleast hgreatest howed =>
    exact (if_pos ⟨hleast, hgreatest⟩).trans (if_neg (Nat.not_le_of_lt howed))
  | last hleast hgreatest howed => exact (if_pos ⟨hleast, hgreatest⟩).trans (if_pos howed)

theorem Reads.foldlM_cons {s s' : State} {b : UInt8} (h : Reads s b s') (bytes : List UInt8) :
    (b :: bytes).foldlM step s = bytes.foldlM step s' := by
  rw [List.foldlM_cons, h.step_eq]
  rfl

/-- A code point has six more bits than it had a byte before. -/
theorem bits_succ_iff {n owed value digit : Nat} (hdigit : digit < 64) :
    n >>> (6 * owed) = value * 64 + digit ↔
      n >>> (6 * (owed + 1)) = value ∧ n >>> (6 * owed) % 64 = digit := by
  rw [Nat.mul_add, Nat.shiftRight_add]
  omega

/-- Behind the second byte of a character, any byte of six bits will do. -/
theorem Pending.admits_next {n : Nat} {p : Pending} {b : UInt8}
    (h : n >>> (6 * (p.owed - 1)) = (p.next b).value) : (p.next b).Admits n := by
  have hlt := Nat.mod_lt (n >>> (6 * (p.owed - 1 - 1))) (show 0 < 64 by decide)
  refine ⟨h, Nat.le_add_left 0x80 _, ?_⟩
  simp only [Pending.next, UInt8.reduceToNat]
  omega

/-! ## Reading what was written -/

/-- The next byte of an admitted character lies within its bounds and adds its bits. -/
theorem Pending.Admits.next {owed n : Nat} {p : Pending} (hn : p.Admits n)
    (howed : p.owed = owed + 1) :
    p.least ≤ sextet owed n ∧ sextet owed n ≤ p.greatest ∧
      (p.next (sextet owed n)).value = n >>> (6 * owed) := by
  obtain ⟨hbits, hleast, hgreatest⟩ := hn
  rw [howed] at hbits hleast hgreatest
  rw [UInt8.le_iff_toNat_le, UInt8.le_iff_toNat_le, Pending.next, toNat_sextet, Nat.add_sub_cancel]
  exact ⟨hleast, hgreatest, ((bits_succ_iff (Nat.mod_lt _ (by decide))).2 ⟨hbits, rfl⟩).symm⟩

/-- The rest of a character closes it. By induction on the number of bytes to come. -/
theorem foldlM_continuation {owed n : Nat} {p : Pending} (howed : p.owed = owed + 1)
    (hn : p.Admits n) (done : List Char) (position : Nat) :
    (continuation (owed + 1) n).foldlM step ⟨done, position, some p⟩
      = .ok ⟨Char.ofNat n :: done, position + (owed + 1), none⟩ := by
  induction owed generalizing p position with
  | zero =>
    obtain ⟨hleast, hgreatest, hvalue⟩ := hn.next howed
    rw [continuation, (Reads.last hleast hgreatest (Nat.le_of_eq howed)).foldlM_cons, hvalue,
      Nat.mul_zero, Nat.shiftRight_zero]
    rfl
  | succ owed ih =>
    obtain ⟨hleast, hgreatest, hvalue⟩ := hn.next howed
    have howed' : (p.next (sextet (owed + 1) n)).owed = owed + 1 := by
      rw [Pending.next, howed, Nat.add_sub_cancel]
    have hnext : (p.next (sextet (owed + 1) n)).Admits n :=
      Pending.admits_next (by rw [hvalue, howed, Nat.add_sub_cancel])
    rw [continuation, (Reads.more hleast hgreatest (by omega)).foldlM_cons, ih howed' hnext,
      Nat.add_assoc, Nat.add_comm 1]

/-- Decoding the bytes of a character gives the character. -/
theorem foldlM_utf8EncodeChar (c : Char) (done : List Char) (position : Nat) :
    (utf8EncodeChar c).foldlM step ⟨done, position, none⟩
      = .ok ⟨c :: done, position + (utf8EncodeChar c).length, none⟩ := by
  by_cases hc : c.toNat < 0x80
  · have hb : (UInt8.ofNat c.toNat).toNat = c.toNat :=
      UInt8.toNat_ofNat_of_lt' (Nat.lt_trans hc (by decide))
    have hlt : UInt8.ofNat c.toNat < 0x80 := by rwa [UInt8.lt_iff_toNat_lt, hb]
    rw [utf8EncodeChar_of_lt hc, (Reads.plain hlt).foldlM_cons, hb, Char.ofNat_toNat]
    rfl
  · obtain ⟨b, owed, hb⟩ := exists_leads (Nat.le_of_not_lt hc)
    have hfirst : ¬ b < 0x80 := by
      rw [UInt8.lt_iff_toNat_lt]
      exact Nat.not_lt.2 hb.le_first
    obtain ⟨p, hlead, rfl, hp⟩ := hb.exists_lead? position
    obtain ⟨owed, howed⟩ := Nat.exists_eq_succ_of_ne_zero (Nat.ne_of_gt hb.owed_pos)
    rw [hb.utf8EncodeChar_eq, (Reads.first hfirst hlead).foldlM_cons, List.length_cons,
      length_continuation, howed, foldlM_continuation howed hp, Char.ofNat_toNat]
    congr 2
    omega

/-- Decoding the bytes of a text gives the text. -/
theorem foldlM_encode (text done : List Char) (position : Nat) :
    (encode text).foldlM step ⟨done, position, none⟩
      = .ok ⟨text.reverse ++ done, position + (encode text).length, none⟩ := by
  induction text generalizing done position with
  | nil => rfl
  | cons c text ih =>
    rw [encode, List.flatMap_cons, List.foldlM_append, foldlM_utf8EncodeChar]
    refine (ih _ _).trans ?_
    simp [encode, Nat.add_assoc]

/-- **Reading back**: what was written is read. -/
theorem decode_encode (text : List Char) : decode (encode text) = .ok text := by
  rw [decode, foldlM_encode]
  simp [finish, bind, Except.bind]

/-! ## Writing what was read -/

theorem toNat_ofNat {n : Nat} (h : n.isValidChar) : (Char.ofNat n).toNat = n := by
  rw [Char.ofNat, dif_pos h]
  rfl

theorem utf8EncodeChar_of_byte {b : UInt8} (hb : b < 0x80) :
    utf8EncodeChar (Char.ofNat b.toNat) = [b] := by
  have hlt : b.toNat < 0x80 := UInt8.lt_iff_toNat_lt.1 hb
  have hn : (Char.ofNat b.toNat).toNat = b.toNat := toNat_ofNat (.inl (by omega))
  rw [utf8EncodeChar_of_lt (by rwa [hn]), hn, UInt8.ofNat_toNat]

/-- Every code point that the open character may come to is that of a character, which starts with
the bytes so far. -/
structure Pending.Opens (p : Pending) : Prop where
  le_least : 0x80 ≤ p.least.toNat
  greatest_le : p.greatest.toNat ≤ 0xBF
  valid : ∀ n, p.Admits n → n.isValidChar
  begins : ∀ c : Char, p.Admits c.toNat →
    utf8EncodeChar c = p.bytes.reverse ++ continuation p.owed c.toNat

theorem opens_of_lead? {start : Nat} {b : UInt8} {p : Pending} (h : lead? start b = some p) :
    p.Opens where
  le_least := (bounds_of_lead? h).2.2.1
  greatest_le := (bounds_of_lead? h).2.2.2
  valid _ hn := (leads_of_lead? h hn).isValidChar
  begins c hc := by
    rw [(leads_of_lead? h hc).utf8EncodeChar_eq, (bounds_of_lead? h).1]
    rfl

namespace Pending

variable {p : Pending} {b : UInt8}

/-- A byte within the bounds fixes six bits: fewer code points are left, and all have this byte. -/
theorem Admits.of_next {n : Nat} (hn : (p.next b).Admits n) (hp : p.Opens) (howed : 0 < p.owed)
    (hleast : p.least ≤ b) (hgreatest : b ≤ p.greatest) :
    p.Admits n ∧ sextet (p.owed - 1) n = b := by
  rw [UInt8.le_iff_toNat_le] at hleast hgreatest
  have hlow := Nat.le_trans hp.le_least hleast
  have hhigh := Nat.le_trans hgreatest hp.greatest_le
  obtain ⟨hbits, hdigit⟩ := (bits_succ_iff (by omega)).1 hn.bits
  have hb : n >>> (6 * (p.owed - 1)) % 64 + 0x80 = b.toNat := by
    rw [← Nat.sub_add_cancel hlow, ← hdigit]
    rfl
  refine ⟨⟨?_, by rwa [hb], by rwa [hb]⟩, ?_⟩
  · rw [← hbits, Pending.next, Nat.sub_add_cancel howed]
  · rw [← UInt8.toNat_inj, toNat_sextet, hb]

/-- A byte within the bounds keeps what is pending open to some character. -/
theorem Opens.next (hp : p.Opens) (howed : 0 < p.owed) (hleast : p.least ≤ b)
    (hgreatest : b ≤ p.greatest) : (p.next b).Opens where
  le_least := Nat.le_refl _
  greatest_le := Nat.le_refl _
  valid n hn := hp.valid n (hn.of_next hp howed hleast hgreatest).1
  begins c hc := by
    obtain ⟨hadmits, hb⟩ := hc.of_next hp howed hleast hgreatest
    rw [hp.begins c hadmits, ← Nat.sub_add_cancel howed, continuation, hb]
    simp [Pending.next]

/-- With the last byte there is one code point left. -/
theorem Opens.utf8EncodeChar_eq (hp : p.Opens) (howed : p.owed = 1) (hleast : p.least ≤ b)
    (hgreatest : b ≤ p.greatest) :
    utf8EncodeChar (Char.ofNat (p.next b).value) = p.bytes.reverse ++ [b] := by
  have hnext := hp.next (Nat.le_of_eq howed.symm) hleast hgreatest
  have hadmits : (p.next b).Admits (p.next b).value :=
    admits_next (by rw [howed, Nat.sub_self, Nat.mul_zero, Nat.shiftRight_zero])
  have hn := toNat_ofNat (hnext.valid _ hadmits)
  rw [hnext.begins _ (by rwa [hn])]
  simp [Pending.next, howed, continuation]

end Pending

/-- The bytes behind the reader are those of its characters and of the open one. -/
structure State.Follows (s : State) (bytes : List UInt8) : Prop where
  bytes_eq : bytes = encode s.done.reverse ++ s.pending.elim [] fun p => p.bytes.reverse
  opens : ∀ p, s.pending = some p → 0 < p.owed ∧ p.Opens

namespace State.Follows

variable {s s' : State} {bytes : List UInt8}

/-- One byte. It opens a character, goes on with the open one or closes it. -/
theorem read {b : UInt8} (hs : s.Follows bytes) (h : Reads s b s') :
    s'.Follows (bytes ++ [b]) := by
  have hbytes := hs.bytes_eq
  cases h with
  | plain hb =>
    refine ⟨?_, fun p hp => by cases hp⟩
    rw [hbytes]
    simp [encode, utf8EncodeChar_of_byte hb]
  | @first _ _ _ p hb hlead =>
    obtain ⟨hfirst, howed, -⟩ := bounds_of_lead? hlead
    refine ⟨?_, ?_⟩
    · rw [hbytes]
      simp [hfirst]
    · rintro _ ⟨⟩
      exact ⟨howed, opens_of_lead? hlead⟩
  | @more _ _ _ p hleast hgreatest howed =>
    obtain ⟨-, hp⟩ := hs.opens p rfl
    refine ⟨?_, ?_⟩
    · rw [hbytes]
      simp [Pending.next]
    · rintro _ ⟨⟩
      exact ⟨Nat.sub_pos_of_lt howed, hp.next (Nat.lt_of_succ_lt howed) hleast hgreatest⟩
  | @last _ _ _ p hleast hgreatest howed =>
    -- the bytes of the open character become those of the last one that is done
    obtain ⟨hpos, hp⟩ := hs.opens p rfl
    refine ⟨?_, fun p hp => by cases hp⟩
    rw [hbytes]
    simp [encode, hp.utf8EncodeChar_eq (Nat.le_antisymm howed hpos) hleast hgreatest]

/-- Any number of bytes. -/
theorem run {more : List UInt8} (hs : s.Follows bytes) (h : more.foldlM step s = .ok s') :
    s'.Follows (bytes ++ more) := by
  induction more generalizing s bytes with
  | nil =>
    cases h
    rwa [List.append_nil]
  | cons b more ih =>
    rw [List.foldlM_cons] at h
    cases hstep : step s b with
    | error fault =>
      rw [hstep] at h
      cases h
    | ok middle =>
      rw [hstep] at h
      rw [← List.singleton_append, ← List.append_assoc]
      exact ih (hs.read (reads_of_step hstep)) h

end State.Follows

/-- **Writing back**: what was read was written like that, and in no other way. -/
theorem encode_of_decode {bytes : List UInt8} {text : List Char} (h : decode bytes = .ok text) :
    encode text = bytes := by
  have hstart : State.Follows {} [] := ⟨rfl, fun p hp => by cases hp⟩
  unfold decode at h
  cases hrun : bytes.foldlM step {} with
  | error fault =>
    rw [hrun] at h
    cases h
  | ok s =>
    have hs : s.Follows bytes := hstart.run hrun
    obtain ⟨done, position, pending⟩ := s
    rw [hrun] at h
    cases pending with
    | some p => cases h
    | none =>
      cases h
      rw [hs.bytes_eq]
      exact (List.append_nil _).symm

/-- The reader accepts the byte strings that are valid UTF-8. -/
theorem exists_decode_iff {bytes : List UInt8} :
    (∃ text, decode bytes = .ok text) ↔ bytes.toByteArray.IsValidUTF8 := by
  constructor
  · rintro ⟨text, h⟩
    rw [← encode_of_decode h]
    exact ⟨text, rfl⟩
  · rintro ⟨text, h⟩
    have hbytes : bytes = encode text := List.toByteArray_inj.1 h
    exact ⟨text, hbytes ▸ decode_encode text⟩

/-- An overlong form, a surrogate and a code point that is too large. -/
example : ∀ bytes ∈ [[0xC0, 0x80], [0xED, 0xA0, 0x80], [0xF4, 0x90, 0x80, 0x80]],
    (decode bytes).isOk = false := by
  decide

end GoFlow.Utf8
