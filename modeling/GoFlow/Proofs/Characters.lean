import GoFlow.Command

/-!
# The characters of texts

Which characters may be in a text, by how it was put together. A character that takes part in some
protocol, such as the bracket of a tag or the start of an escape sequence, is in a text only if it
was in what the text was made from.

- `mem_intercalate`, `mem_or_mem_of_mem_intercalate`: texts between separators.
- `isDigit_of_mem_toString`, `mem_of_mem_quoted`: numbers and quoted texts.
- `Path.mem_render_ofString`, `Path.mem_render_of_mem_suffix`: paths.
-/

namespace GoFlow

/-! ## Joined texts -/

section

variable {c : Char} {sep : String} {xs : List String}

/-- A joined text holds what its parts hold. -/
theorem mem_intercalate {x : String} (hx : x ∈ xs) (hc : c ∈ x.toList) :
    c ∈ (sep.intercalate xs).toList := by
  induction xs with
  | nil => cases hx
  | cons y ys ih =>
    by_cases hys : ys = []
    · subst hys
      rw [List.mem_singleton.1 hx] at hc
      rwa [String.intercalate_singleton]
    · rw [String.intercalate_cons_of_ne_nil hys, String.toList_append, List.mem_append]
      rcases List.mem_cons.1 hx with rfl | hx
      · exact .inl (by simp [hc])
      · exact .inr (ih hx)

/-- A joined text holds nothing else, except for the separator. -/
theorem mem_or_mem_of_mem_intercalate (h : c ∈ (sep.intercalate xs).toList) :
    c ∈ sep.toList ∨ ∃ x ∈ xs, c ∈ x.toList := by
  induction xs with
  | nil => cases h
  | cons y ys ih =>
    by_cases hys : ys = []
    · subst hys
      rw [String.intercalate_singleton] at h
      exact .inr ⟨y, List.mem_cons_self, h⟩
    · rw [String.intercalate_cons_of_ne_nil hys] at h
      simp only [String.toList_append, List.mem_append] at h
      rcases h with (h | h) | h
      · exact .inr ⟨y, List.mem_cons_self, h⟩
      · exact .inl h
      · exact (ih h).imp_right fun ⟨x, hx, hc⟩ => ⟨x, List.mem_cons_of_mem y hx, hc⟩

end

/-! ## Numbers and quoted texts -/

/-- A natural number is printed in digits. -/
theorem isDigit_of_mem_toString_nat {c : Char} {n : Nat} (h : c ∈ (toString n).toList) :
    c.isDigit = true := by
  refine Nat.isDigit_of_mem_toDigits (b := 10) (n := n) (by decide) (by decide) ?_
  simpa using h

theorem toList_toString_negSucc (n : Nat) :
    (toString (Int.negSucc n)).toList = '-' :: (toString (n + 1)).toList := by
  show ("-" ++ toString (n + 1)).toList = _
  rw [String.toList_append]
  rfl

/-- A number is written with digits and a minus. -/
theorem isDigit_of_mem_toString {c : Char} {n : Int} (h : c ∈ (toString n).toList) :
    c.isDigit = true ∨ c = '-' := by
  cases n with
  | ofNat n => exact .inl (isDigit_of_mem_toString_nat h)
  | negSucc n =>
    rw [toList_toString_negSucc, List.mem_cons] at h
    exact h.symm.imp_left isDigit_of_mem_toString_nat

/-- A number holds no characters but digits and the sign. -/
theorem not_mem_toString {c : Char} (hdigit : c.isDigit = false) (hminus : c ≠ '-') (n : Int) :
    c ∉ (toString n).toList := by
  intro h
  rcases isDigit_of_mem_toString h with h | h
  · exact absurd (h.symm.trans hdigit) (by decide)
  · exact hminus h

/-- Numbers are told apart by their texts. -/
theorem eq_of_toString_nat_eq {m n : Nat} (h : toString m = toString n) : m = n := by
  rw [Nat.toString_eq_ofList_toDigits, Nat.toString_eq_ofList_toDigits, String.ofList_inj] at h
  have hread := congrArg (Nat.ofDigitChars 10 · 0) h
  simpa using hread

/-- A number is known by its digits and its sign. -/
theorem eq_of_toString_eq {m n : Int} (h : toString m = toString n) : m = n := by
  -- the digits of a number have no minus among them
  have hsign : ∀ {a b : Nat}, toString a ≠ "-" ++ toString b := by
    intro a b hab
    have hminus : '-' ∈ (toString a).toList := by
      rw [hab, String.toList_append]
      exact List.mem_append_left _ (by decide)
    exact absurd (isDigit_of_mem_toString_nat hminus) (by decide)
  cases m with
  | ofNat m =>
    cases n with
    | ofNat n => exact congrArg Int.ofNat (eq_of_toString_nat_eq h)
    | negSucc n => exact absurd h hsign
  | negSucc m =>
    cases n with
    | ofNat n => exact absurd h.symm hsign
    | negSucc n =>
      have hdigits : toString (m + 1) = toString (n + 1) := by
        have hlist : '-' :: (toString (m + 1)).toList = '-' :: (toString (n + 1)).toList := by
          rw [← toList_toString_negSucc, ← toList_toString_negSucc, h]
        exact String.toList_inj.1 (List.cons.inj hlist).2
      rw [Nat.succ.inj (eq_of_toString_nat_eq hdigits)]

/-- The characters that a quoted text has of its own. -/
def IsQuoting (c : Char) : Prop := c.isAlphanum = true ∨ c = '\\' ∨ c = '\'' ∨ c = '"'

theorem isAlphanum_of_mem_hexDigits {c : Char} {width n : Nat} (h : c ∈ hexDigits width n) :
    c.isAlphanum = true := by
  induction width generalizing n with
  | zero => cases h
  | succ width ih =>
    rw [hexDigits, List.mem_append, List.mem_singleton] at h
    rcases h with h | rfl
    · exact ih h
    · have hall : ∀ d < 16, (Nat.digitChar d).isAlphanum = true := by decide
      exact hall _ (Nat.mod_lt n (by decide))

/-- An escaped character is written in letters, digits and backslashes. -/
theorem isQuoting_of_mem_escapeCode {c d : Char} (h : d ∈ escapeCode c) : IsQuoting d := by
  have hform : ∃ e width, e.isAlphanum = true ∧
      escapeCode c = '\\' :: e :: hexDigits width c.toNat := by
    unfold escapeCode
    dsimp only
    split
    · exact ⟨'x', 2, rfl, rfl⟩
    · split
      · exact ⟨'u', 4, rfl, rfl⟩
      · exact ⟨'U', 8, rfl, rfl⟩
  obtain ⟨e, width, he, hform⟩ := hform
  rw [hform, List.mem_cons, List.mem_cons] at h
  rcases h with rfl | rfl | h
  · exact .inr (.inl rfl)
  · exact .inl he
  · exact .inl (isAlphanum_of_mem_hexDigits h)

/-- Quoting writes a character as it is or as an escape. -/
theorem mem_of_mem_escapeQuoted {quote c d : Char} (h : d ∈ escapeQuoted quote c) :
    d = c ∨ IsQuoting d := by
  have hpair : ∀ e : Char, e.isAlphanum = true → d ∈ ['\\', e] → IsQuoting d := by
    intro e he hd
    rw [List.mem_cons, List.mem_singleton] at hd
    rcases hd with rfl | rfl
    · exact .inr (.inl rfl)
    · exact .inl he
  unfold escapeQuoted at h
  split at h
  · rw [List.mem_cons, List.mem_singleton] at h
    exact h.symm.imp_right fun hd => .inr (.inl hd)
  · split at h
    · exact .inr (hpair 'n' rfl h)
    · split at h
      · exact .inr (hpair 'r' rfl h)
      · split at h
        · exact .inr (hpair 't' rfl h)
        · split at h
          · exact .inl (List.mem_singleton.1 h)
          · exact .inr (isQuoting_of_mem_escapeCode h)

theorem isQuoting_quoteFor (s : List Char) : IsQuoting (quoteFor s) := by
  unfold quoteFor
  split
  · exact .inr (.inr (.inr rfl))
  · exact .inr (.inr (.inl rfl))

/-- A quoted text holds what the text holds, and what it takes to quote it. -/
theorem mem_of_mem_quoted {c : Char} {s : String} (h : c ∈ (quoted s).toList) :
    c ∈ s.toList ∨ IsQuoting c := by
  unfold quoted at h
  simp only [String.toList_ofList, List.cons_append, List.mem_cons, List.mem_append,
    List.mem_flatMap, List.not_mem_nil, or_false] at h
  rcases h with rfl | ⟨d, hd, hc⟩ | rfl
  · exact .inr (isQuoting_quoteFor _)
  · rcases mem_of_mem_escapeQuoted hc with rfl | hquoting
    · exact .inl hd
    · exact .inr hquoting
  · exact .inr (isQuoting_quoteFor _)

/-! ## Paths -/

namespace Path

variable {c : Char}

/-- A character of a text that is no slash is in a part between slashes. -/
theorem exists_mem_splitSlashes (hc : c ≠ '/') (s pending : List Char)
    (h : c ∈ pending ∨ c ∈ s) : ∃ step ∈ splitSlashes pending s, c ∈ step.toList := by
  induction s generalizing pending with
  | nil => exact ⟨_, List.mem_singleton_self _, by simpa using h⟩
  | cons d rest ih =>
    unfold splitSlashes
    by_cases hd : d = '/'
    · subst hd
      rw [if_pos (by rfl)]
      rcases h with h | h
      · exact ⟨_, List.mem_cons_self, by simpa using h⟩
      · obtain ⟨step, hstep, hmem⟩ := ih [] (.inr ((List.mem_cons.1 h).resolve_left hc))
        exact ⟨step, List.mem_cons_of_mem _ hstep, hmem⟩
    · rw [if_neg (by simpa using hd)]
      refine ih (d :: pending) ?_
      rcases h with h | h
      · exact .inl (List.mem_cons_of_mem d h)
      · rcases List.mem_cons.1 h with rfl | h
        · exact .inl List.mem_cons_self
        · exact .inr h

/-- What is in a step is in the text of the path. -/
theorem mem_render_of_mem_steps {p : Path} {step : String} (hstep : step ∈ p.steps)
    (hc : c ∈ step.toList) : c ∈ p.render.toList := by
  have htext : c ∈ (p.root ++ "/".intercalate p.steps).toList := by
    rw [String.toList_append, List.mem_append]
    exact .inr (mem_intercalate hstep hc)
  unfold render
  dsimp only
  split
  next hempty =>
    rw [eq_of_beq hempty] at htext
    cases htext
  next => exact htext

/-- A path keeps every character of its text that is neither a slash nor a point. -/
theorem mem_render_ofString {s : String} (hslash : c ≠ '/') (hpoint : c ≠ '.')
    (h : c ∈ s.toList) : c ∈ (ofString s).render.toList := by
  obtain ⟨step, hstep, hmem⟩ := exists_mem_splitSlashes hslash s.toList [] (.inr h)
  have hkept : (step != "" && step != ".") = true := by
    rw [Bool.and_eq_true, bne_iff_ne, bne_iff_ne]
    constructor
    · rintro rfl
      cases hmem
    · rintro rfl
      exact hpoint (by simpa using hmem)
  exact mem_render_of_mem_steps (List.mem_filter.2 ⟨hstep, hkept⟩) hmem

/-- The suffix of a path is part of its last step. -/
theorem mem_render_of_mem_suffix {p : Path} (hpoint : c ≠ '.') (h : c ∈ p.suffix.toList) :
    c ∈ p.render.toList := by
  unfold suffix at h
  cases hlast : p.steps.getLast? with
  | none =>
    rw [hlast] at h
    cases h
  | some name =>
    rw [hlast] at h
    refine mem_render_of_mem_steps (List.mem_of_getLast? hlast) ?_
    simp only [String.toList_ofList] at h
    unfold nameSuffix at h
    dsimp only at h
    split at h
    · cases h
    · have hbehind := List.mem_reverse.1 ((List.mem_cons.1 h).resolve_left hpoint)
      exact List.mem_reverse.1 (List.takeWhile_subset _ hbehind)

end Path

end GoFlow
