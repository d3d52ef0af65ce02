/-!
# Lines of a text

- `splitLines`: the lines of a text, each with the terminator that ended it.
- `unifyNewlines`: the text as a file reader hands it over, with every line ending written `\n`.
-/

namespace GoFlow

/-- The characters that end a line by themselves. A carriage return and the line feed behind it
end one line together. -/
def isTerminator (c : Char) : Bool :=
  let n := c.toNat
  (0x0A ≤ n && n ≤ 0x0D) || (0x1C ≤ n && n ≤ 0x1E) || n == 0x85 || n == 0x2028 || n == 0x2029

/-- A line of a text and what ended it; nothing ended the last line of a text that does not end in
a terminator. -/
structure Line where
  text : List Char
  ending : List Char
deriving DecidableEq, Repr

/-- The lines of a text that goes on with the characters in `pending`, which are in reverse. -/
def linesFrom (pending : List Char) : List Char → List Line
  | [] => if pending.isEmpty then [] else [⟨pending.reverse, []⟩]
  | '\r' :: '\n' :: rest => ⟨pending.reverse, ['\r', '\n']⟩ :: linesFrom [] rest
  | c :: rest =>
    if isTerminator c then ⟨pending.reverse, [c]⟩ :: linesFrom [] rest
    else linesFrom (c :: pending) rest

/-- The lines of a text. -/
def splitLines (s : String) : List Line := linesFrom [] s.toList

/-- `unifyNewlines` with the characters done so far, in reverse. -/
def unifyNewlinesOnto (done : List Char) : List Char → List Char
  | [] => done.reverse
  | '\r' :: '\n' :: rest => unifyNewlinesOnto ('\n' :: done) rest
  | '\r' :: rest => unifyNewlinesOnto ('\n' :: done) rest
  | c :: rest => unifyNewlinesOnto (c :: done) rest

/-- The text with a line feed in place of every carriage return, and of every carriage return with
the line feed behind it. -/
def unifyNewlines (s : List Char) : List Char := unifyNewlinesOnto [] s

end GoFlow
