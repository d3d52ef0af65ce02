/-!
# Labels and fields of syntax nodes

A node of a Go syntax tree carries the name of its grammar rule, and its parent may hold it under
a field name. Only the rules and fields that decide about control flow are told apart here; every
other rule keeps its name as it is.
-/

namespace GoFlow

/-- The grammar rule of a node, or the token it is. -/
inductive Label where
  | functionDeclaration
  | methodDeclaration
  | returnStatement
  | goStatement
  | ifStatement
  | forStatement
  | expressionSwitch
  | typeSwitch
  | selectStatement
  | expressionCase
  | typeCase
  | communicationCase
  | defaultCase
  | block
  | statementList
  | comment
  | colon
  | error
  | other (name : String)
deriving DecidableEq, Repr

namespace Label

/-- The name of the rule in the grammar. -/
def name : Label → String
  | .functionDeclaration => "function_declaration"
  | .methodDeclaration => "method_declaration"
  | .returnStatement => "return_statement"
  | .goStatement => "go_statement"
  | .ifStatement => "if_statement"
  | .forStatement => "for_statement"
  | .expressionSwitch => "expression_switch_statement"
  | .typeSwitch => "type_switch_statement"
  | .selectStatement => "select_statement"
  | .expressionCase => "expression_case"
  | .typeCase => "type_case"
  | .communicationCase => "communication_case"
  | .defaultCase => "default_case"
  | .block => "block"
  | .statementList => "statement_list"
  | .comment => "comment"
  | .colon => ":"
  | .error => "ERROR"
  | .other name => name

/-- The labels that are told apart. -/
def known : List Label :=
  [.functionDeclaration, .methodDeclaration, .returnStatement, .goStatement, .ifStatement,
   .forStatement, .expressionSwitch, .typeSwitch, .selectStatement, .expressionCase, .typeCase,
   .communicationCase, .defaultCase, .block, .statementList, .comment, .colon, .error]

/-- The label of the rule called `s`. -/
def ofName (s : String) : Label :=
  (known.find? (·.name == s)).getD (.other s)

/-- Whether the rule is a clause of a switch or of a select. -/
def isClause : Label → Bool
  | .expressionCase | .typeCase | .communicationCase | .defaultCase => true
  | _ => false

@[simp] theorem name_ofName (s : String) : (ofName s).name = s := by
  unfold ofName
  cases h : known.find? (·.name == s) with
  | none => rfl
  | some l => simpa using List.find?_some h

end Label

/-- The fields under which a parent holds the children that decide about control flow. -/
inductive Field where
  | name
  | body
  | consequence
  | alternative
  | initializer
  | condition
deriving DecidableEq, Repr

/-- The field called `s`, if it is one of these. -/
def Field.ofName? (s : String) : Option Field :=
  if s == "name" then some .name
  else if s == "body" then some .body
  else if s == "consequence" then some .consequence
  else if s == "alternative" then some .alternative
  else if s == "initializer" then some .initializer
  else if s == "condition" then some .condition
  else none

end GoFlow
