/-!
# Escape sequences

Some sequences of characters are commands to a terminal: an escape, a bracket, numbers, and the
letter that names the command. They are left out of what is printed to anything else.
-/

namespace GoFlow

/-- The character that opens an escape sequence. -/
def escapeChar : Char := Char.ofNat 27

/-- Whether the character can stand between the bracket and the letter of an escape sequence. -/
def isEscapeParameter (c : Char) : Bool := c.isDigit || c == ';' || c == '?'

/-- The text without its escape sequences. `held` is the start of what may become one, in
reverse. -/
def dropEscapesFrom (held : List Char) : List Char → List Char
  | [] => held.reverse
  | c :: rest =>
    if c == escapeChar then held.reverse ++ dropEscapesFrom [c] rest
    else
      match held with
      | [] => c :: dropEscapesFrom [] rest
      | [_] =>
        if c == '[' then dropEscapesFrom (c :: held) rest
        else held.reverse ++ c :: dropEscapesFrom [] rest
      | _ =>
        if isEscapeParameter c then dropEscapesFrom (c :: held) rest
        else if c.isAlpha then dropEscapesFrom [] rest
        else held.reverse ++ c :: dropEscapesFrom [] rest

/-- The text without its escape sequences. -/
def dropEscapes (s : String) : String := String.ofList (dropEscapesFrom [] s.toList)

/-- A text without the character that opens them has no escape sequences. -/
theorem dropEscapesFrom_of_not_mem {s : List Char} (h : escapeChar ∉ s) :
    dropEscapesFrom [] s = s := by
  induction s with
  | nil => rfl
  | cons c rest ih =>
    rw [List.mem_cons, not_or] at h
    rw [dropEscapesFrom, if_neg (by simpa using Ne.symm h.1), ih h.2]

theorem dropEscapes_of_not_mem {s : String} (h : escapeChar ∉ s.toList) : dropEscapes s = s := by
  rw [dropEscapes, dropEscapesFrom_of_not_mem h, String.ofList_toList]

end GoFlow
