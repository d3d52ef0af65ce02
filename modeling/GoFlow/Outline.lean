import GoFlow.Block.Kind
import GoFlow.Node

/-!
# Outlines

The outline of a syntax tree keeps what a walk reacts to, and nothing else: declarations,
returns, spawns, conditionals, loops, switches and selects, each with the lines it needs and with
the outlines of its own parts in the order in which they are walked. Expressions, comments and
statement lists leave no trace of their own.

- `Item`, `Clause`: the outline.
- `Outline.ofNode`: the outline of one node.
- `Outline.inside`: the outline of the named children of a node, from left to right.
-/

namespace GoFlow

/-- The three statements that pick one of several clauses. -/
inductive Choice where
  | onValue
  | onType
  | onComm
deriving DecidableEq, Repr

namespace Choice

/-- Kind of the block of the statement. -/
def kind : Choice → BlockKind
  | .onValue | .onType => .switchStatement
  | .onComm => .selectStatement

/-- Kind of the block of a clause, unless a statement of the clause decides otherwise. -/
def clauseKind : Choice → BlockKind
  | .onValue | .onType => .caseClause
  | .onComm => .commClause

/-- Whether the statement itself may go on to the current return. -/
def linksReturn : Choice → Bool
  | .onValue => true
  | _ => false

end Choice

mutual

/-- A construct that the walk reacts to. -/
inductive Item where
  /-- A function or method without a body. -/
  | prototype (name : Option (List UInt8)) (first : Int)
  /-- A function or method with a body, and the lines of the returns among its statements. -/
  | function (name : Option (List UInt8)) (first last : Int) (returns : List Int)
      (body : List Item)
  /-- A return. -/
  | ret (line : Int) (inside : List Item)
  /-- A go statement. -/
  | spawn (line : Int) (inside : List Item)
  /-- An if. Its false path starts on `elseLine` and ends on `elseEnd`; without an alternative it
  ends on the line after, as far as the function goes. -/
  | cond (line elseLine : Int) (elseEnd : Option Int)
      (consequence header alternative : List Item)
  /-- A for. -/
  | loop (first last : Int) (header body : List Item)
  /-- A switch or a select. -/
  | choice (form : Choice) (line : Int) (header : List Item) (clauses : List Clause)

/-- A clause of a switch or select: the line and kind of its block, and its statements. -/
inductive Clause where
  | mk (line : Int) (kind : BlockKind) (body : List Item)

end

namespace Outline

/-- Kind that a statement lends to the block of the clause it stands in. -/
def lentKind? (n : Node) : Option BlockKind :=
  match n.label with
  | .returnStatement => some .returnStatement
  | .expressionSwitch => some .switchStatement
  | _ => none

/-- Line and kind of the block of a clause. The first return or expression switch among its
statements stands for the clause; else the clause ends where its last statement does, or where it
ends itself if it has none. -/
def clauseEntry (form : Choice) (n : Node) : Int × BlockKind :=
  match n.clauseBody.findSome? fun s => (lentKind? s).map (s.startLine, ·) with
  | some entry => entry
  | none => ((n.clauseBody.getLast?.getD n).endLine, form.clauseKind)

/-- Lines of the returns among the statements of a body. -/
def returnLines (body : Node) : List Int :=
  (body.statements.filter (·.label == .returnStatement)).map Node.startLine

/-- Text of the name of a declaration. -/
def nameText (n : Node) : Option (List UInt8) := (n.child? .name).bind (·.head.text)

/-- Where the false path of an if starts, and where it ends if an alternative says so. -/
def falsePath (n : Node) : Int × Option Int :=
  match n.child? .alternative with
  | some a => (a.startLine, some a.endLine)
  | none => (((n.child? .consequence).getD n).endLine, none)

/-- Whether a child belongs to the header of a loop or switch: neither body nor clause. -/
def isHeaderPart (n : Node) : Bool :=
  n.isStatement && n.label != .block && !n.label.isClause

mutual

/-- What a walk reacts to in a node (`_visit`): the node itself if it is one of the constructs, else
what is inside it. -/
def ofNode : Node → List Item
  | .mk head kids =>
    let n := Node.mk head kids
    match head.label with
    | .functionDeclaration | .methodDeclaration =>
      match n.child? .body with
      | none => [.prototype (nameText n) n.startLine]
      | some body =>
        [.function (nameText n) n.startLine n.endLine (returnLines body)
          (statementsUnder .body kids)]
    | .returnStatement => [.ret n.startLine (inside kids)]
    | .goStatement => [.spawn n.startLine (inside kids)]
    | .ifStatement =>
      [.cond n.startLine (falsePath n).1 (falsePath n).2 (statementsUnder .consequence kids)
        (insideUnder .initializer kids ++ insideUnder .condition kids)
        (nodeUnder .alternative kids)]
    | .forStatement =>
      [.loop n.startLine n.endLine (headerOf kids) (statementsUnder .body kids)]
    | .expressionSwitch => [.choice .onValue n.startLine (headerOf kids) (clausesOf .onValue kids)]
    | .typeSwitch => [.choice .onType n.startLine (headerOf kids) (clausesOf .onType kids)]
    | .selectStatement => [.choice .onComm n.startLine (headerOf kids) (clausesOf .onComm kids)]
    | _ => inside kids

/-- The outline of the named children among `kids`, from left to right (`_visit_children`). -/
def inside : List Node → List Item
  | [] => []
  | n :: rest => (if n.head.named then ofNode n else []) ++ inside rest

/-- The outline of the statements among `kids`. -/
def statementsOf : List Node → List Item
  | [] => []
  | .mk head kids :: rest =>
    (if head.named && head.label == .statementList then listed kids
     else if (Node.mk head kids).isStatement then ofNode (.mk head kids)
     else []) ++ statementsOf rest

/-- The outline of the children of a statement list. -/
def listed : List Node → List Item
  | [] => []
  | n :: rest => (if n.isStatement then ofNode n else []) ++ listed rest

/-- The outline of the statements of the first child held under the field. -/
def statementsUnder (f : Field) : List Node → List Item
  | [] => []
  | .mk head kids :: rest =>
    if head.field == some f then statementsOf kids else statementsUnder f rest

/-- The outline of what is inside the first child held under the field. -/
def insideUnder (f : Field) : List Node → List Item
  | [] => []
  | .mk head kids :: rest =>
    if head.field == some f then inside kids else insideUnder f rest

/-- The outline of the first child held under the field. -/
def nodeUnder (f : Field) : List Node → List Item
  | [] => []
  | n :: rest => if n.head.field == some f then ofNode n else nodeUnder f rest

/-- The outline of the header of a loop, switch or select (`_visit_header`). -/
def headerOf : List Node → List Item
  | [] => []
  | n :: rest => (if isHeaderPart n then ofNode n else []) ++ headerOf rest

/-- The clauses of a switch or select. -/
def clausesOf (form : Choice) : List Node → List Clause
  | [] => []
  | .mk head kids :: rest =>
    if head.named && head.label.isClause then
      .mk (clauseEntry form (.mk head kids)).1 (clauseEntry form (.mk head kids)).2
        (behindColon kids) :: clausesOf form rest
    else clausesOf form rest

/-- The outline of the statements behind the first colon among `kids`. -/
def behindColon : List Node → List Item
  | [] => []
  | n :: rest => if n.label == .colon then clauseStatements rest else behindColon rest

/-- The outline of the statements of a clause. -/
def clauseStatements : List Node → List Item
  | [] => []
  | .mk head kids :: rest =>
    (if head.label == .statementList then listed kids
     else if (Node.mk head kids).isStatement then ofNode (.mk head kids)
     else []) ++ clauseStatements rest

end

end Outline

end GoFlow
