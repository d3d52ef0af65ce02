import GoFlow.Go.Token
import GoFlow.Node

/-!
# Rules of a grammar

A rule reads tokens from the front and builds a node of the syntax tree, or fails at the place
where it cannot go on.

- `Rule`: what reads tokens.
- `Goal`, `Parts`: the parts that a rule may contain again, whatever they contain in turn. Rules
  are plain functions of their parts; the knot is tied in one place.
- `listOf`, `closedBy`: rows of parts.
-/

namespace GoFlow.Go

/-- The tokens that are left, and where the latest one ended. -/
structure Input where
  rest : List Token
  last : Position := {}

/-- Reads tokens from the front. Fails with the place of the token that is in the way. -/
abbrev Rule (α : Type) := StateT Input (Except Position) α

/-- The parts of a source that contain one another. -/
inductive Goal where
  | type
  /-- An expression; `braces` says that a name may have a literal in braces behind it, which is
  not so in the header of a statement. -/
  | expression (braces : Bool)
  | operand (braces : Bool)
  | literalValue
  | block
  | statement
  | ifStatement
deriving DecidableEq, Repr

/-- The parts that a rule may use. -/
structure Parts where
  /-- No row of parts is longer. -/
  bound : Nat
  parse : Goal → Rule Node

namespace Rule

/-- Fails at the next token. -/
def fail {α : Type} : Rule α := fun s =>
  .error ((s.rest.head?.map Token.start).getD s.last)

/-- The next token, which stays. -/
def peek : Rule (Option Lexeme) := fun s => .ok (s.rest.head?.map Token.lexeme, s)

/-- The token behind the next one; both stay. -/
def peekSecond : Rule (Option Lexeme) := fun s => .ok ((s.rest[1]?).map Token.lexeme, s)

/-- Whether a line ends within the comments in front of the next token. -/
def afterBreak : Rule Bool := fun s => .ok (s.rest.head?.any Token.afterBreak, s)

/-- Where the next token starts. -/
def here : Rule Position := fun s => .ok ((s.rest.head?.map Token.start).getD s.last, s)

/-- Takes the next token. -/
def take : Rule Token := fun s =>
  match s.rest with
  | t :: rest => .ok (t, ⟨rest, t.stop⟩)
  | [] => .error s.last

/-- Whether the next token is this one. -/
def sees (l : Lexeme) : Rule Bool := fun s => .ok (s.rest.head?.any (·.lexeme == l), s)

/-- Takes the next token if it is this one. -/
def accept (l : Lexeme) : Rule Bool := fun s =>
  match s.rest with
  | t :: rest => if t.lexeme == l then .ok (true, ⟨rest, t.stop⟩) else .ok (false, s)
  | [] => .ok (false, s)

/-- Takes the next token, which must be this one. -/
def expect (l : Lexeme) : Rule Unit := do
  if ← accept l then return () else fail

/-- Whether the next token is this symbol. -/
def seesSymbol (s : String) : Rule Bool := sees (.symbol s)

/-- Whether the next token is this keyword. -/
def seesKeyword (s : String) : Rule Bool := sees (.keyword s)

/-- Whether the next token is a semicolon. -/
def seesSemicolon : Rule Bool := do
  match ← peek with
  | some (.semicolon _) => return true
  | _ => return false

/-- Takes the next token if it is a semicolon. -/
def acceptSemicolon : Rule Bool := do
  if ← seesSemicolon then
    discard take
    return true
  else return false

/-- Takes the semicolon behind a row, which may be left out in front of a closing bracket. -/
def endRow : Rule Unit := do
  if ← acceptSemicolon then return ()
  else if ← seesSymbol "\x7d" then return ()
  else if ← seesSymbol ")" then return ()
  else fail

/-- Leaves out the end of a line where nothing can end, if the next line goes on from there. -/
def joinLine (goesOn : Option Lexeme → Bool) : Rule Unit := do
  match ← peek, ← peekSecond with
  | some (.semicolon false), second => if goesOn second then discard take
  | _, _ => return ()

/-! ## Rows -/

/-- More parts, each behind a separator. -/
def moreOf {α : Type} (separator : String) (part : Rule α) (done : List α) : Nat → Rule (List α)
  | 0 => return done.reverse
  | bound + 1 => do
    if ← accept (.symbol separator) then
      let x ← part
      moreOf separator part (x :: done) bound
    else return done.reverse

/-- Parts with a separator between them, at least one. -/
def listOf {α : Type} (bound : Nat) (separator : String) (part : Rule α) : Rule (List α) := do
  let x ← part
  moreOf separator part [x] bound

/-- Parts with commas between them up to the closing bracket; a comma may come before it. -/
def closedByFrom {α : Type} (close : String) (part : Rule α) (done : List α) : Nat → Rule (List α)
  | 0 => fail
  | bound + 1 => do
    if ← accept (.symbol close) then return done.reverse
    let x ← part
    if ← accept (.symbol ",") then closedByFrom close part (x :: done) bound
    else
      expect (.symbol close)
      return (x :: done).reverse

/-- Parts up to the closing bracket. -/
def closedBy {α : Type} (bound : Nat) (close : String) (part : Rule α) : Rule (List α) :=
  closedByFrom close part [] bound

/-- Parts that each end like a row, up to the closing bracket. -/
def rowsFrom {α : Type} (close : String) (part : Rule α) (done : List α) : Nat → Rule (List α)
  | 0 => fail
  | bound + 1 => do
    if ← accept (.symbol close) then return done.reverse
    let x ← part
    endRow
    rowsFrom close part (x :: done) bound

/-- Parts on lines of their own, up to the closing bracket. -/
def rows {α : Type} (bound : Nat) (close : String) (part : Rule α) : Rule (List α) :=
  rowsFrom close part [] bound

/-! ## Nodes -/

/-- The span between two places. -/
def spanOf (start stop : Position) : Span := ⟨start.row, start.col, stop.row, stop.col⟩

/-- A node between two places. -/
def nodeBetween (label : Label) (start stop : Position) (children : List Node) : Node :=
  .mk { label, span := spanOf start stop } children

/-- A node from a place up to the end of the latest token. -/
def node (label : Label) (start : Position) (children : List Node) : Rule Node := fun s =>
  .ok (nodeBetween label start s.last children, s)

/-- A node of a rule that has no part in control flow. -/
def plain (name : String) (start : Position) (children : List Node) : Rule Node :=
  node (.other name) start children

/-- Takes the next token as a node without a name. -/
def tokenNode : Rule Node := do
  let t ← take
  let label := match t.lexeme with
    | .symbol s | .keyword s => s
    | _ => ""
  return .mk { label := .other label, span := spanOf t.start t.stop, named := false } []

/-- The node as its parent holds it. -/
def inField (f : Field) : Node → Node
  | .mk head children => .mk { head with field := some f } children

/-- A name. -/
def name : Rule Node := fun s =>
  match s.rest with
  | ⟨.name word, start, stop, _⟩ :: rest =>
    .ok (.mk
      { label := .other "identifier"
        span := spanOf start stop
        text := some (word.toList.flatMap String.utf8EncodeChar) } [], ⟨rest, stop⟩)
  | _ => fail s

end Rule

end GoFlow.Go
