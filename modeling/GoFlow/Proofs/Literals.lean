import GoFlow.Text.Markup
import Mathlib.Data.List.TakeWhile

/-!
# Text that markup leaves as it is

Not every bracket opens a tag, so a text may go through markup unharmed even if it holds some.

- `Markup.isLiteral`: no bracket opens a tag, and no backslash takes part in the markup.
- `Markup.pieces_red`: such a text between two tags is one piece.
- `Markup.render_red`: it is shown as it stands, apart from emoji and controls.
-/

namespace GoFlow

namespace Markup

/-- Whether markup leaves the text as it is, whatever tag comes behind it: no bracket opens a tag,
and no backslash stands in front of a bracket or at the end. -/
def isLiteral : List Char → Bool
  | [] => true
  | [c] => c != '[' && c != '\\'
  | c :: d :: rest =>
    !(c == '[' && startsTag d) && !(c == '\\' && d == '[') && isLiteral (d :: rest)

/-- What is behind the first character of a literal text is literal. -/
theorem isLiteral_of_cons {c : Char} {s : List Char} (h : isLiteral (c :: s) = true) :
    isLiteral s = true := by
  cases s with
  | nil => rfl
  | cons d rest =>
    rw [isLiteral, Bool.and_eq_true] at h
    exact h.2

theorem isLiteral_drop {s : List Char} (h : isLiteral s = true) (n : Nat) :
    isLiteral (s.drop n) = true := by
  induction n generalizing s with
  | zero => exact h
  | succ n ih =>
    cases s with
    | nil => rfl
    | cons c rest => exact ih (isLiteral_of_cons h)

/-- Text without brackets can stand in front of any literal text, even if it ends in a
backslash. -/
theorem isLiteral_append {s t : List Char} {c : Char} (hs : '[' ∉ s) (hc : c ≠ '[')
    (ht : isLiteral (c :: t) = true) : isLiteral (s ++ c :: t) = true := by
  induction s with
  | nil => exact ht
  | cons d rest ih =>
    rw [List.mem_cons, not_or] at hs
    have hd : (d == '[') = false := by simpa using Ne.symm hs.1
    have hnext : ∃ e u, rest ++ c :: t = e :: u ∧ e ≠ '[' := by
      cases rest with
      | nil => exact ⟨c, t, rfl, hc⟩
      | cons e u =>
        refine ⟨e, u ++ c :: t, rfl, ?_⟩
        rintro rfl
        exact hs.2 List.mem_cons_self
    obtain ⟨e, u, hrest, he⟩ := hnext
    have ih := ih hs.2
    rw [List.cons_append, hrest, isLiteral, hd]
    rw [hrest] at ih
    simp [ih, he]

/-- A text without brackets and backslashes is literal. -/
theorem isLiteral_of_not_mem {s : List Char} (hbracket : '[' ∉ s) (hslash : '\\' ∉ s) :
    isLiteral s = true := by
  induction s with
  | nil => rfl
  | cons c rest ih =>
    rw [List.mem_cons, not_or] at hbracket hslash
    have ih := ih hbracket.2 hslash.2
    have hc : (c == '[') = false := by simpa using Ne.symm hbracket.1
    have hc' : (c == '\\') = false := by simpa using Ne.symm hslash.1
    cases rest with
    | nil => simp [isLiteral, bne, hc, hc']
    | cons d rest => simp [isLiteral, hc, hc', ih]

/-! ## Scanning -/

/-- No tag starts within a literal text, whatever comes behind it. -/
theorem tagText?_of_isLiteral {c : Char} {s : List Char} (h : isLiteral (c :: s) = true)
    (tail : List Char) : tagText? (c :: s ++ tail) = none := by
  by_cases hc : c = '['
  · subst hc
    cases s with
    | nil => cases h
    | cons d rest =>
      have hd : startsTag d = false := by
        simp [isLiteral] at h
        exact h.1
      simp [tagText?, hd]
  · unfold tagText?
    split
    · simp_all
    · rfl

/-- Some character of a literal text is no backslash: the last one. -/
theorem exists_ne_slash {c : Char} {s : List Char} (h : isLiteral (c :: s) = true) :
    ∃ d ∈ c :: s, d ≠ '\\' := by
  induction s generalizing c with
  | nil =>
    refine ⟨c, List.mem_cons_self, ?_⟩
    simp [isLiteral] at h
    exact h.2
  | cons d rest ih =>
    obtain ⟨e, he, hslash⟩ := ih (isLiteral_of_cons h)
    exact ⟨e, List.mem_cons_of_mem c he, hslash⟩

/-- The backslashes at the front of a literal text end within it. -/
theorem takeWhile_slash_append {c : Char} {s : List Char} (h : isLiteral (c :: s) = true)
    (tail : List Char) :
    (c :: s ++ tail).takeWhile (· == '\\') = (c :: s).takeWhile (· == '\\') := by
  rw [List.takeWhile_append, if_neg]
  intro hlength
  have hall := (List.takeWhile_prefix (· == '\\')).eq_of_length hlength
  obtain ⟨d, hd, hslash⟩ := exists_ne_slash h
  rw [← hall] at hd
  exact hslash (by simpa using List.mem_takeWhile_imp hd)

/-- A row of backslashes is the same from both sides. -/
theorem reverse_takeWhile_slash (s : List Char) :
    (s.takeWhile (· == '\\')).reverse = s.takeWhile (· == '\\') := by
  have hall : ∀ d ∈ s.takeWhile (· == '\\'), d = '\\' :=
    fun d hd => by simpa using List.mem_takeWhile_imp hd
  rw [List.eq_replicate_of_mem hall, List.reverse_replicate]

/-- One step of the scan goes over some characters of a literal text: over one, or over all the
backslashes at its front. -/
theorem piecesFrom_step {c : Char} {s : List Char} (h : isLiteral (c :: s) = true) (fuel : Nat)
    (done tail : List Char) :
    ∃ n, 0 < n ∧ piecesFrom (fuel + 1) done (c :: s ++ tail)
      = piecesFrom fuel (((c :: s).take n).reverse ++ done) ((c :: s).drop n ++ tail) := by
  have hslashes := takeWhile_slash_append h tail
  have hreverse := reverse_takeWhile_slash (c :: s)
  have hsplit := List.takeWhile_append_dropWhile (p := (· == '\\')) (l := c :: s)
  have hbehind : (c :: s).dropWhile (· == '\\') ≠ [] := by
    intro hnil
    obtain ⟨d, hd, hslash⟩ := exists_ne_slash h
    exact hslash (by simpa using List.dropWhile_eq_nil_iff.1 hnil d hd)
  generalize (c :: s).takeWhile (· == '\\') = slashes at hslashes hreverse hsplit
  generalize (c :: s).dropWhile (· == '\\') = behind at hsplit hbehind
  have hliteral : isLiteral behind = true := by
    rw [← hsplit] at h
    simpa using isLiteral_drop h slashes.length
  have hdrop : (c :: s ++ tail).drop slashes.length = behind ++ tail := by
    rw [← hsplit, List.append_assoc, List.drop_left]
  have htag : tagText? (behind ++ tail) = none := by
    cases behind with
    | nil => exact absurd rfl hbehind
    | cons d rest => exact tagText?_of_isLiteral hliteral tail
  -- there is no tag behind the backslashes, so the scan takes one character or all of them
  rw [List.cons_append, piecesFrom, ← List.cons_append, hslashes, hdrop, htag]
  dsimp only
  cases hempty : slashes.isEmpty with
  | true => exact ⟨1, Nat.one_pos, rfl⟩
  | false =>
    refine ⟨slashes.length, List.length_pos_iff.2 (by simpa using hempty), ?_⟩
    rw [← hsplit, List.take_left, List.drop_left, hreverse]
    rfl

/-- The scan goes over a literal text. By induction on the fuel, since a run of backslashes is
taken in one step. -/
theorem piecesFrom_literal {fuel : Nat} {s tail : List Char} (hs : isLiteral s = true)
    (hfuel : (s ++ tail).length ≤ fuel) (done : List Char) :
    ∃ rest, tail.length ≤ rest ∧
      piecesFrom fuel done (s ++ tail) = piecesFrom rest (s.reverse ++ done) tail := by
  induction fuel generalizing s done with
  | zero =>
    obtain ⟨rfl, rfl⟩ := List.append_eq_nil_iff.1 (List.length_eq_zero_iff.1 (Nat.le_zero.1 hfuel))
    exact ⟨0, Nat.le_refl 0, rfl⟩
  | succ fuel ih =>
    cases s with
    | nil => exact ⟨fuel + 1, hfuel, rfl⟩
    | cons c rest =>
      obtain ⟨n, hn, hstep⟩ := piecesFrom_step hs fuel done tail
      have hlength : ((c :: rest).drop n ++ tail).length ≤ fuel := by
        rw [List.length_append, List.length_drop]
        rw [List.length_append, List.length_cons] at hfuel
        rw [List.length_cons]
        omega
      obtain ⟨left, hleft, heq⟩ :=
        ih (isLiteral_drop hs n) hlength (((c :: rest).take n).reverse ++ done)
      refine ⟨left, hleft, ?_⟩
      rw [hstep, heq, ← List.append_assoc, ← List.reverse_append, List.take_append_drop]

/-- A literal text between two tags is one piece. -/
theorem pieces_red {c : Char} {s : List Char} (hs : isLiteral (c :: s) = true) :
    pieces ("[red]".toList ++ (c :: s ++ "[/red]".toList))
      = [.tag ⟨"red".toList, none⟩, .text (c :: s), .tag ⟨"/red".toList, none⟩] := by
  obtain ⟨left, hleft, hscan⟩ :=
    @piecesFrom_literal _ _ "[/red]".toList hs (Nat.le_add_right _ 4) []
  have hopen : pieces ("[red]".toList ++ (c :: s ++ "[/red]".toList))
      = .tag ⟨"red".toList, none⟩
        :: piecesFrom ((c :: s ++ "[/red]".toList).length + 4) [] (c :: s ++ "[/red]".toList) := by
    rfl
  obtain ⟨n, rfl⟩ : ∃ n, left = n + 1 := ⟨left - 1, by simp at hleft; omega⟩
  have hclose : ∀ done, piecesFrom (n + 1) done "[/red]".toList
      = textPiece done ++ [.tag ⟨"/red".toList, none⟩] ++ piecesFrom n [] [] := fun _ => rfl
  have hend : piecesFrom n [] [] = [] := by
    cases n <;> rfl
  rw [hopen, hscan, hclose, hend, List.append_nil, List.append_nil, textPiece,
    List.reverse_reverse, if_neg (by simp)]
  rfl

end Markup

/-! ## One style -/

theorem checkColour_red : checkColour "red".toList = .ok () := by
  -- the row is named, so that only this one has to be taken apart
  have hrow : colourRows.any (fun row => (row.toList.splitOn ' ').contains "red".toList) = true :=
    List.any_eq_true.2
      ⟨"pink1 pink3 plum1 plum2 plum3 plum4 purple purple3 purple4 red red1 red3 rosy_brown",
        by simp [colourRows], by decide +kernel⟩
  rw [checkColour, if_pos]
  rw [hrow, Bool.or_true, Bool.true_or]

theorem read_red : TextStyle.read {} ["red".toList] = .ok { colour := some "red".toList } := by
  have hlower : lowerLatin "red".toList = "red".toList := by decide
  have hattribute : attributeNamed? "red" = none := by decide
  rw [TextStyle.read, hlower, String.ofList_toList, hattribute, checkColour_red]
  rfl

theorem styleName_red : styleName "red".toList = .ok "red" := by
  have hnone : ¬ (trimSpaces "red".toList == "none".toList) = true := by decide
  have hwords : spacedWords "red".toList = ["red".toList] := by decide
  rw [styleName, if_neg hnone, hwords, read_red]
  rfl

namespace Markup

theorem nameOf_red : nameOf "red".toList = .ok "red" := by
  rw [nameOf, styleName_red]
  rfl

/-- The tag of the style opens it. -/
theorem applyTag_red : applyTag [] ⟨"red".toList, none⟩ = .ok [⟨"red", none⟩] := by
  show (nameOf "red".toList >>= fun name => _) = _
  rw [nameOf_red]
  rfl

/-- A tag closes the style of its name that was opened last. -/
theorem applyTag_close {opened : List OpenStyle} {closed : OpenStyle} {name : List Char}
    {n : String} (hempty : (trimSpaces name).isEmpty = false)
    (hname : nameOf (trimSpaces name) = .ok n) (hfind : opened.find? (·.name == n) = some closed)
    (hclose : closed.close = .ok ()) (value : Option (List Char)) :
    applyTag opened ⟨'/' :: name, value⟩ = .ok (opened.eraseP (·.name == closed.name)) := by
  show (if (trimSpaces name).isEmpty = true then _ else nameOf (trimSpaces name) >>= _) = _
  rw [hempty, hname]
  simp only [bind, Except.bind, pure, Except.pure, hfind, hclose]
  rfl

/-- The tag's counterpart closes it. -/
theorem applyTag_closeRed : applyTag [⟨"red", none⟩] ⟨"/red".toList, none⟩ = .ok [] := by
  have htrim : trimSpaces "red".toList = "red".toList := by decide
  have hname : nameOf (trimSpaces "red".toList) = .ok "red" := by
    rw [htrim, nameOf_red]
  have hempty : (trimSpaces "red".toList).isEmpty = false := by
    rw [htrim]
    rfl
  exact @applyTag_close [⟨"red", none⟩] ⟨"red", none⟩ _ _ hempty hname (by decide) rfl none

/-! ## Rendering -/

/-- In a literal text there is nothing to unescape. -/
theorem unescape_of_isLiteral {s : List Char} (h : isLiteral s = true) : unescape s = s := by
  fun_induction unescape s with
  | case1 rest ih => simp [isLiteral] at h
  | case2 c rest hne ih => rw [ih (isLiteral_of_cons h)]
  | case3 => rfl

/-- A tag prints nothing. -/
theorem renderPieces_tag {opened behind : List OpenStyle} {t : Tag}
    (h : applyTag opened t = .ok behind) (rest : List Piece) :
    renderPieces opened (.tag t :: rest) = renderPieces behind rest := by
  rw [renderPieces, h]
  rfl

/-- Text is printed without its escapes, and with its emoji. -/
theorem renderPieces_text (opened : List OpenStyle) (s : List Char) (rest : List Piece) :
    renderPieces opened (.text s :: rest)
      = (renderPieces opened rest).map (expandEmoji (unescape s) ++ ·) := by
  rw [renderPieces]
  cases renderPieces opened rest <;> rfl

/-- **Literal text in red** is shown as it stands, with emoji filled in and without controls. -/
theorem render_red {c : Char} {s : List Char} (hs : isLiteral (c :: s) = true) :
    render ("[red]".toList ++ (c :: s ++ "[/red]".toList))
      = .ok ((expandEmoji (c :: s)).filter (!movesCursor ·)) := by
  have hpieces : renderPieces [] (pieces ("[red]".toList ++ (c :: s ++ "[/red]".toList)))
      = .ok (expandEmoji (c :: s)) := by
    rw [pieces_red hs, renderPieces_tag applyTag_red, renderPieces_text,
      renderPieces_tag applyTag_closeRed, unescape_of_isLiteral hs, renderPieces, Except.map,
      List.append_nil]
  unfold render
  rw [if_pos (by simp), hpieces]
  -- keeps the table of emoji out of the last step
  generalize expandEmoji (c :: s) = shown
  rfl

end Markup

end GoFlow
