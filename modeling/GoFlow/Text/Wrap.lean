import GoFlow.Text.Blank
import GoFlow.Text.Width

/-!
# Wrapping of text

Text in a column of fixed width: a line ends in front of the word that would not fit. A word that is
wider than the column is folded into several lines, or cut with an ellipsis.

- `wrap`: the lines of a paragraph.
- `layout`: the lines of a text, each wrapped, cut and placed in the column.
-/

namespace GoFlow

/-- What happens to a word that is wider than its column. -/
inductive Overflow where
  /-- It goes on in the next line. -/
  | fold
  /-- It is cut, and an ellipsis stands at the end. -/
  | ellipsis
deriving DecidableEq, Repr

/-- Where a line stands in its column. -/
inductive Placement where
  /-- At the left, with nothing behind it. -/
  | free
  /-- At the left, filled up to the right. -/
  | left
  | centre
  | right
deriving DecidableEq, Repr

/-! ## Words -/

/-- The words of a text, each with the spaces behind it; the first also with those in front of
it. Spaces alone make no word. -/
def wordsOf (s : List Char) : List (List Char) :=
  match s.splitBy fun a b => !isSpace a || isSpace b with
  | [] => []
  | [word] => if word.all isSpace then [] else [word]
  | first :: second :: rest =>
    if first.all isSpace then (first ++ second) :: rest else first :: second :: rest

/-- Clusters in rows of at most so many columns, behind a row under way in reverse. -/
def rowsFrom (width : Nat) (row : List Char) (used : Nat) : List Cluster → List (List Char)
  | [] => if used = 0 then [] else [row.reverse]
  | k :: rest =>
    if used + k.columns > width then
      row.reverse :: rowsFrom width k.text.reverse k.columns rest
    else rowsFrom width (k.text.reverse ++ row) (used + k.columns) rest

/-- The text in rows of at most so many columns. -/
def chop (width : Nat) (s : List Char) : List (List Char) := rowsFrom width [] 0 (clusters s)

/-! ## Lines -/

/-- Lines under way. -/
structure Wrapping where
  /-- Finished lines, the latest first. -/
  done : List (List Char) := []
  /-- The words of the current line in reverse. -/
  current : List (List Char) := []
  /-- Columns that the current line has used. -/
  used : Nat := 0

namespace Wrapping

/-- The current line. -/
def line (w : Wrapping) : List Char := w.current.reverse.flatten

/-- Adds a word to the current line. -/
def append (w : Wrapping) (word : List Char) : Wrapping :=
  { w with current := word :: w.current, used := w.used + textWidth word }

/-- Starts a new line with a word. The first word of all is on the first line. -/
def start (w : Wrapping) (word : List Char) : Wrapping :=
  if w.current.isEmpty then { w with current := [word], used := textWidth word }
  else { done := w.line :: w.done, current := [word], used := textWidth word }

/-- Places the next word of a paragraph. -/
def place (width : Nat) (overflow : Overflow) (w : Wrapping) (word : List Char) : Wrapping :=
  let needed := textWidth (trimEnd word)
  if w.used + needed ≤ width then w.append word
  else if needed ≤ width || overflow = .ellipsis then w.start word
  else (chop width word).foldl start w

/-- All lines. -/
def lines (w : Wrapping) : List (List Char) := (w.line :: w.done).reverse

end Wrapping

/-- The lines of a paragraph. One without words is a line as it is. -/
def wrap (width : Nat) (overflow : Overflow) (s : List Char) : List (List Char) :=
  match wordsOf s with
  | [] => [s]
  | words => (words.foldl (Wrapping.place width overflow) {}).lines

/-- Adds what stands in front of a tabulator to a text, with its width: a blank, and more of them up
to the next column of eight. -/
def addTabbed (done : List Char × Nat) (part : List Char) : List Char × Nat :=
  let used := done.2 + textWidth (part ++ [' '])
  let fill := (8 - used % 8) % 8
  (done.1 ++ part ++ blanks (1 + fill), used + fill)

/-- The text with blanks in place of each tabulator. -/
def expandTabs (s : List Char) : List Char :=
  match (s.splitOn '\t').reverse with
  | [] => []
  | last :: parts => (parts.reverse.foldl addTabbed ([], 0)).1 ++ last

/-- Drops as many spaces at the end of a line as it has characters too many. -/
def dropExcess (width : Nat) (s : List Char) : List Char :=
  let spaces := s.length - (trimEnd s).length
  s.take (s.length - min spaces (s.length - width))

/-- A line that takes no more than the columns. -/
def Overflow.cut (o : Overflow) (width : Nat) (s : List Char) : List Char :=
  if textWidth s ≤ width then s
  else match o with
    | .fold => fitWidth width s
    | .ellipsis => fitWidth (width - 1) s ++ ['…']

/-- A line in its column. -/
def Placement.place (p : Placement) (width : Nat) (overflow : Overflow) (s : List Char) :
    List Char :=
  match p with
  | .free => overflow.cut width s
  | .left => fitWidth width (overflow.cut width s)
  | .centre =>
    let s := overflow.cut width (trimEnd s)
    fitWidth width (blanks ((width - textWidth s) / 2) ++ s)
  | .right =>
    let s := overflow.cut width (trimEnd s)
    blanks (width - textWidth s) ++ s

/-- The lines of a text in a column. -/
def layout (width : Nat) (overflow : Overflow) (p : Placement) (s : List Char) :
    List (List Char) :=
  (s.splitOn '\n').flatMap fun line =>
    (wrap width overflow (expandTabs line)).map fun l =>
      p.place width overflow (dropExcess width l)

end GoFlow
