import GoFlow.Go.Declaration

/-!
# Statements of Go
-/

namespace GoFlow.Go

open Rule

/-! ## Simple statements -/

/-- A statement that may stand in the header of another. -/
inductive Simple where
  | expression (node : Node)
  | range (node : Node)
  | other (node : Node)

/-- The node of a simple statement. -/
def Simple.node : Simple → Node
  | .expression n | .range n | .other n => n

/-- The operators that assign. -/
def assignments : List String :=
  [":=", "=", "+=", "-=", "*=", "/=", "%=", "&=", "|=", "^=", "<<=", ">>=", "&^="]

/-- The right side of an assignment. It may range over something in the header of a loop. -/
def assigned (k : Parts) (braces mayRange : Bool) (start : Position) (left : List Node)
    (operator : String) : Rule Simple := do
  if mayRange && (operator == ":=" || operator == "=") && (← accept (.keyword "range")) then
    let subject ← k.parse (.expression braces)
    return .range (← plain "range_clause" start (left ++ [subject]))
  else
    let label := if operator == ":=" then "short_var_declaration" else "assignment_statement"
    return .other (← plain label start (left ++ (← expressionList k braces)))

/-- A simple statement. -/
def simpleStatement (k : Parts) (braces mayRange : Bool) : Rule Simple := do
  let start ← here
  let left ← expressionList k braces
  match ← peek, left with
  | some (.symbol "++"), [x] =>
    discard take
    return .other (← plain "inc_statement" start [x])
  | some (.symbol "--"), [x] =>
    discard take
    return .other (← plain "dec_statement" start [x])
  | some (.symbol "<-"), [x] =>
    discard take
    return .other (← plain "send_statement" start [x, ← k.parse (.expression braces)])
  | some (.symbol s), left =>
    if assignments.contains s then
      discard take
      assigned k braces mayRange start left s
    else alone left
  | _, left => alone left
where
  /-- An expression without anything behind it. -/
  alone : List Node → Rule Simple
    | [x] => return .expression x
    | _ => fail

/-- The expression that a simple statement has to be. -/
def condition : Simple → Rule Node
  | .expression x => return x
  | _ => fail

/-- A simple statement in a header, unless the next token ends that part of it. -/
def optionalSimple (k : Parts) (ends : Rule Bool) (mayRange : Bool) : Rule (Option Simple) := do
  if ← ends then return none else return some (← simpleStatement k false mayRange)

/-! ## Rows of statements -/

/-- Whether a row of statements ends here. -/
def endsStatements : Option Lexeme → Bool
  | none | some (.symbol "\x7d") | some (.keyword "case") | some (.keyword "default") => true
  | _ => false

/-- The statements up to the end of a block or clause. -/
def statementsFrom (k : Parts) (done : List Node) : Nat → Rule (List Node)
  | 0 => fail
  | bound + 1 => do
    if endsStatements (← peek) then return done.reverse
    else
      let s ← k.parse .statement
      statementsFrom k (s :: done) bound

/-- A list of statements as a node, unless it is empty. -/
def statementList (k : Parts) : Rule (List Node) := do
  let statements ← statementsFrom k [] k.bound
  match statements, statements.getLast? with
  | first :: _, some last =>
    return [.mk
      { label := .statementList
        span := ⟨first.span.startRow, first.span.startCol, last.span.endRow, last.span.endCol⟩ }
      statements]
  | _, _ => return []

/-- A block. -/
def blockRule (k : Parts) : Rule Node := do
  let start ← here
  expect (.symbol "\x7b")
  let body ← statementList k
  expect (.symbol "\x7d")
  node .block start body

/-! ## Conditionals and loops -/

/-- The header of an if: perhaps a statement, then a condition. -/
def ifHeader (k : Parts) : Rule (List Node) := do
  let first ← optionalSimple k seesSemicolon false
  if ← acceptSemicolon then
    let second ← condition (← simpleStatement k false false)
    return (first.map (inField .initializer ·.node)).toList ++ [inField .condition second]
  else
    match first with
    | some s => return [inField .condition (← condition s)]
    | none => fail

/-- An if with all its alternatives. -/
def ifStatementRule (k : Parts) : Rule Node := do
  let start ← here
  expect (.keyword "if")
  let header ← ifHeader k
  let consequence := inField .consequence (← k.parse .block)
  if ← accept (.keyword "else") then
    let alternative ← if ← seesKeyword "if" then k.parse .ifStatement else k.parse .block
    node .ifStatement start (header ++ [consequence, inField .alternative alternative])
  else node .ifStatement start (header ++ [consequence])

/-- The rest of a header with three parts, behind its first semicolon. -/
def forClause (k : Parts) (start : Position) (first : Option Simple) : Rule Node := do
  let second ← optionalSimple k seesSemicolon false
  let second ← match second with
    | some s => pure [← condition s]
    | none => pure []
  if ← acceptSemicolon then
    let third ← optionalSimple k (seesSymbol "\x7b") false
    plain "for_clause" start
      ((first.map Simple.node).toList ++ second ++ (third.map Simple.node).toList)
  else fail

/-- The header of a loop: nothing, a condition, three parts, or what it ranges over. -/
def forHeader (k : Parts) : Rule (List Node) := do
  let start ← here
  if ← seesSymbol "\x7b" then return []
  else if ← accept (.keyword "range") then
    return [← plain "range_clause" start [← k.parse (.expression false)]]
  else
    let first ← optionalSimple k seesSemicolon true
    match first with
    | some (.range n) => return [n]
    | first =>
      if ← acceptSemicolon then return [← forClause k start first]
      else
        match first with
        | some s => return [← condition s]
        | none => fail

/-- A loop. -/
def forStatement (k : Parts) : Rule Node := do
  let start ← here
  expect (.keyword "for")
  let header ← forHeader k
  node .forStatement start (header ++ [inField .body (← k.parse .block)])

/-! ## Switches and selects -/

/-- A clause behind its values: the colon and the statements. -/
def clauseRest (k : Parts) (label : Label) (start : Position) (values : List Node) : Rule Node := do
  let colonStart ← here
  expect (.symbol ":")
  let colonStop : Position := ⟨colonStart.row, colonStart.col + 1⟩
  let colon : Node :=
    .mk { label := .colon, span := spanOf colonStart colonStop, named := false } []
  let body ← statementList k
  let stop := body.getLast?.elim colon.span Node.span
  return nodeBetween label start ⟨stop.endRow, stop.endCol⟩ (values ++ colon :: body)

/-- A clause: the default, or one with values. -/
def clause (k : Parts) (label : Label) (values : Rule (List Node)) : Rule Node := do
  let start ← here
  if ← accept (.keyword "default") then clauseRest k .defaultCase start []
  else
    expect (.keyword "case")
    clauseRest k label start (← values)

/-- Clauses up to the closing brace. -/
def clausesFrom (part : Rule Node) (done : List Node) : Nat → Rule (List Node)
  | 0 => fail
  | bound + 1 => do
    if ← accept (.symbol "\x7d") then return done.reverse
    else
      let c ← part
      clausesFrom part (c :: done) bound

/-- The node that asks for the type of a value, in its right place. -/
def typeGuard? : Node → Option Node
  | .mk head children =>
    if head.label == .error then some (.mk { head with label := .other "type_guard" } children)
    else none

/-- The guard that a statement is: it asks for the type of a value, and may give it one name. -/
def guardOf? : Simple → Option Node
  | .expression n => typeGuard? n
  | .other (.mk head [name, value]) =>
    if head.label == .other "short_var_declaration" then
      (typeGuard? value).map fun guard => .mk head [name, guard]
    else none
  | _ => none

/-- The header of a switch: perhaps a statement, then perhaps a value or a type guard. A line may
end behind a type guard, as nothing else can end there. -/
def switchHeader (k : Parts) : Rule (Bool × List Node) := do
  let atEnd : Rule Bool := do return (← seesSemicolon) || (← seesSymbol "\x7b")
  let first ← optionalSimple k atEnd false
  if (first.bind guardOf?).isSome then joinLine opensBraces
  let (first, second) ← if ← acceptSemicolon then
      pure (first, ← optionalSimple k (seesSymbol "\x7b") false)
    else pure (none, first)
  let before := (first.map Simple.node).toList
  match second with
  | none => return (false, before)
  | some s =>
    match guardOf? s with
    | some guard => return (true, before ++ [guard])
    | none => return (false, before ++ [← condition s])

/-- A switch on a value or on a type. -/
def switchStatement (k : Parts) : Rule Node := do
  let start ← here
  expect (.keyword "switch")
  let (onType, header) ← switchHeader k
  expect (.symbol "\x7b")
  let label : Label := if onType then .typeCase else .expressionCase
  let clauses ← clausesFrom (clause k label (expressionList k true)) [] k.bound
  node (if onType then .typeSwitch else .expressionSwitch) start (header ++ clauses)

/-- What a clause of a select waits for: sending or receiving a value. -/
def communication (k : Parts) : Rule (List Node) := do
  let start ← here
  let left ← expressionList k true
  match ← peek, left with
  | some (.symbol "<-"), [x] =>
    discard take
    return [← plain "send_statement" start [x, ← k.parse (.expression true)]]
  | some (.symbol s), left =>
    if (s == "=" || s == ":=") && left.length ≤ 2 then
      discard take
      return [← plain "receive_statement" start (left ++ [← k.parse (.expression true)])]
    else alone start left
  | _, left => alone start left
where
  /-- A value that is received and dropped. -/
  alone (start : Position) : List Node → Rule (List Node)
    | [x] => do return [← plain "receive_statement" start [x]]
    | _ => fail

/-- A select. -/
def selectStatement (k : Parts) : Rule Node := do
  let start ← here
  expect (.keyword "select")
  expect (.symbol "\x7b")
  node .selectStatement start
    (← clausesFrom (clause k .communicationCase (communication k)) [] k.bound)

/-! ## All statements -/

/-- Takes the semicolon behind a statement. A line that ends within a comment is enough in front of
the next clause. -/
def endStatement : Rule Unit := do
  let clause := (← seesKeyword "case") || (← seesKeyword "default")
  if clause && (← afterBreak) then return () else endRow

/-- A call that is started on its own or put off. -/
def calling (k : Parts) (label : Label) : Rule Node := do
  let start ← here
  discard take
  let call ← k.parse (.expression true)
  if call.label == .other "call_expression" then node label start [call] else fail

/-- A jump, perhaps to a label. -/
def jump (label : String) : Rule Node := do
  let start ← here
  discard take
  match ← peek with
  | some (.name _) => plain label start [← name]
  | _ => plain label start []

/-- A return with its values. -/
def returnStatement (k : Parts) : Rule Node := do
  let start ← here
  discard take
  if (← seesSemicolon) || (← seesSymbol "\x7d") then node .returnStatement start []
  else node .returnStatement start (← expressionList k true)

/-- A statement that starts with a keyword and needs something behind it. -/
def keywordStatement (k : Parts) (s : String) : Rule Node :=
  match s with
  | "go" => calling k .goStatement
  | "defer" => calling k (.other "defer_statement")
  | "return" => returnStatement k
  | "break" => jump "break_statement"
  | "continue" => jump "continue_statement"
  | "goto" => do
    let start ← here
    discard take
    plain "goto_statement" start [← name]
  | "fallthrough" => do
    let start ← here
    discard take
    plain "fallthrough_statement" start []
  | "if" => k.parse .ifStatement
  | "for" => forStatement k
  | "switch" => switchStatement k
  | "select" => selectStatement k
  | "func" | "struct" | "map" | "chan" | "interface" => do
    return (← simpleStatement k true false).node
  | s => (localDeclaration? k s).getD fail

/-- A statement behind a label. In front of a closing brace it may be left out. -/
def labeledStatement (k : Parts) : Rule Node := do
  let start ← here
  let label ← name
  expect (.symbol ":")
  if ← seesSymbol "\x7d" then plain "labeled_statement" start [label]
  else
    let inner ← k.parse .statement
    return nodeBetween (.other "labeled_statement") start ⟨inner.span.endRow, inner.span.endCol⟩
      [label, inner]

/-- A statement with the semicolon that ends it, which is not part of its node. -/
def statementRule (k : Parts) : Rule Node := do
  let start ← here
  match ← peek, ← peekSecond with
  | some (.semicolon _), _ =>
    discard take
    plain "empty_statement" start []
  | some (.name _), some (.symbol ":") => labeledStatement k
  | some (.symbol "~"), _ => fail
  | some (.keyword s), _ =>
    let n ← keywordStatement k s
    endStatement
    return n
  | some (.symbol "\x7b"), _ =>
    let n ← k.parse .block
    endStatement
    return n
  | _, _ =>
    let s ← simpleStatement k true false
    endStatement
    return s.node

end GoFlow.Go
