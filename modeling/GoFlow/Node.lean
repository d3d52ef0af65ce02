import GoFlow.Node.Label

/-!
# Syntax trees

The tree that a Go front end hands over. Rows count from zero; lines, as reports show them, from
one.

- `Node.named`, `Node.child?`: the children that a walk may look at.
- `Node.faults`: the places where the front end could not follow the source.
- `Node.statements`, `Node.clauseBody`: the statements of a block and of a clause, whether or not
  the front end wraps them in a statement list.
-/

namespace GoFlow

/-- Where a node begins and ends, by row and column from zero. -/
structure Span where
  startRow : Nat := 0
  startCol : Nat := 0
  endRow : Nat := 0
  endCol : Nat := 0
deriving DecidableEq, Repr

namespace Span

/-- Line on which the span begins. -/
def startLine (s : Span) : Int := s.startRow + 1

/-- Line on which the span ends. -/
def endLine (s : Span) : Int := s.endRow + 1

/-- Whether the line is between the first and the last line of the span (`contains_line`). -/
def containsLine (s : Span) (line : Int) : Bool := s.startLine ≤ line && line ≤ s.endLine

end Span

/-- What a node says of itself. -/
structure Head where
  label : Label
  span : Span := {}
  /-- Whether the node stands for a rule that has a name, and not for a bare token. -/
  named : Bool := true
  /-- Whether the front end made the node up to go on. -/
  missing : Bool := false
  /-- The front end's word that something below is wrong. -/
  flagged : Bool := false
  /-- Field under which the parent holds the node. -/
  field : Option Field := none
  /-- Source text of the node, in the encoding of the source. -/
  text : Option (List UInt8) := none
deriving DecidableEq, Repr

/-- A node of a syntax tree, with its children in source order. -/
inductive Node where
  | mk (head : Head) (children : List Node)

instance : Inhabited Node := ⟨.mk { label := .error } []⟩

namespace Node

def head : Node → Head
  | .mk head _ => head

def children : Node → List Node
  | .mk _ children => children

def label (n : Node) : Label := n.head.label

def span (n : Node) : Span := n.head.span

/-- Line on which the node begins. -/
def startLine (n : Node) : Int := n.span.startLine

/-- Line on which the node ends. -/
def endLine (n : Node) : Int := n.span.endLine

/-- The children that stand for named rules. -/
def named (n : Node) : List Node := n.children.filter (·.head.named)

/-- The first child held under the field, named or not. -/
def child? (n : Node) (f : Field) : Option Node := n.children.find? (·.head.field == some f)

/-- The node that a list of child positions leads to. -/
def descend? (n : Node) : List Nat → Option Node
  | [] => some n
  | i :: path => n.children[i]?.bind (·.descend? path)

/-! ## Faults -/

/-- Whether the front end gave up here or made the node up. -/
def isFault (n : Node) : Bool := n.label == .error || n.head.missing

mutual

/-- Every fault of the tree, each node before its children (`get_errors`). -/
def faults : Node → List Node
  | .mk head children =>
    if (Node.mk head children).isFault then .mk head children :: faultsIn children
    else faultsIn children

/-- Every fault of a row of trees, from left to right. -/
def faultsIn : List Node → List Node
  | [] => []
  | n :: rest => n.faults ++ faultsIn rest

end

/-- Whether the tree is not to be trusted (`has_error`): the root is flagged or some node is a
fault. -/
def hasFault (n : Node) : Bool := n.head.flagged || !n.faults.isEmpty

/-! ## Statements -/

/-- Whether the node is a statement to the walk (`SKIPPED_TYPES`): named, and no comment. -/
def isStatement (n : Node) : Bool := n.head.named && n.label != .comment

/-- The statements among a row of children, those of a statement list in its place. -/
def statementsIn (children : List Node) : List Node :=
  children.flatMap fun n =>
    if n.head.named && n.label == .statementList then n.children.filter isStatement
    else if n.isStatement then [n]
    else []

/-- The statements of a block (`statements_of`). -/
def statements (n : Node) : List Node := statementsIn n.children

/-- The statements of a block that may not be there (`statements_of`). -/
def statementsOf (block : Option Node) : List Node := block.elim [] statements

@[simp] theorem statementsOf_none : statementsOf none = [] := rfl

@[simp] theorem statementsOf_some (n : Node) : statementsOf (some n) = n.statements := rfl

/-- The part of a clause behind its colon. -/
def afterColon (children : List Node) : List Node :=
  (children.dropWhile (·.label != .colon)).tail

/-- The statements of a clause (`clause_body_of`). A statement list counts here even if it has no
name. -/
def clauseBody (n : Node) : List Node :=
  (afterColon n.children).flatMap fun c =>
    if c.label == .statementList then c.children.filter isStatement
    else if c.isStatement then [c]
    else []

end Node

end GoFlow
