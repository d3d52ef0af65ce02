import GoFlow.Go.Expression

/-!
# Declarations of Go
-/

namespace GoFlow.Go

open Rule

/-- One entry, or several on lines of their own in parentheses. -/
def grouped (k : Parts) (entry : Rule Node) : Rule (List Node) := do
  if ← accept (.symbol "(") then rows k.bound ")" entry else return [← entry]

/-- The type of a variable or constant, if it has one. -/
def declaredType (k : Parts) : Rule (List Node) := do
  if startsType (← peek) then return [← k.parse .type] else return []

/-- The values behind an equals sign, if there is one. -/
def declaredValues (k : Parts) : Rule (List Node) := do
  if ← accept (.symbol "=") then expressionList k true else return []

/-- Variables: they have a type, values, or both. -/
def variableEntry (k : Parts) : Rule Node := do
  let start ← here
  let names ← nameList k
  let type ← declaredType k
  let values ← declaredValues k
  if type.isEmpty && values.isEmpty then fail
  else plain "var_spec" start (names ++ type ++ values)

/-- Constants. One with a type has a value; one without takes that of the entry above it. -/
def constantEntry (k : Parts) : Rule Node := do
  let start ← here
  let names ← nameList k
  let type ← declaredType k
  let values ← declaredValues k
  if values.isEmpty && !type.isEmpty then fail
  else plain "const_spec" start (names ++ type ++ values)

/-- A type with parameters, behind the first of them. -/
def genericType (k : Parts) (start bracket : Position) (first : Node) (p : Parameter) :
    Rule Node := do
  let ps ← typeParametersFrom k bracket p
  let _ ← accept (.symbol "=")
  plain "type_spec" start [first, ps, ← k.parse .type]

/-- The expression behind a name that starts it. -/
def expressionFrom (k : Parts) (start : Position) (first : Node) : Rule Node := do
  let x ← behindOperand k true start first k.bound
  behindOperator k true 1 start x k.bound

/-- A named type with a bracket and a name behind its name: of an array if there is only a length
in the brackets, else with parameters. -/
def bracketedType (k : Parts) (start bracket : Position) (first : Node) : Rule Node := do
  let second ← here
  let parameter ← name
  let x ← if ← seesSymbol "[" then pure parameter else expressionFrom k second parameter
  match asTypeParameter? (← seesSymbol ",") x with
  | some ⟨some n, none⟩ =>
    if ← seesSymbol "]" then arrayBehind x
    else genericType k start bracket first (← parameterFrom k true second n)
  | some ⟨n, some type⟩ =>
    genericType k start bracket first ⟨n, some (← unionFrom k second type)⟩
  | _ => arrayBehind x
where
  /-- An array of the length. -/
  arrayBehind (length : Node) : Rule Node := do
    expect (.symbol "]")
    let array ← plain "array_type" bracket [length, ← k.parse .type]
    plain "type_spec" start [first, array]

/-- A named type. -/
def typeEntry (k : Parts) : Rule Node := do
  let start ← here
  let first ← name
  let bracket ← here
  match ← peek, ← peekSecond with
  | some (.symbol "["), some (.name _) =>
    discard take
    bracketedType k start bracket first
  | _, _ =>
    let _ ← accept (.symbol "=")
    plain "type_spec" start [first, ← k.parse .type]

/-- An imported package, perhaps under a name of its own. -/
def importEntry : Rule Node := do
  let start ← here
  match ← peek with
  | some (.name _) | some (.symbol ".") => discard take
  | _ => pure ()
  expect .text
  plain "import_spec" start []

/-- A declaration that may stand in a function as well, by its keyword. -/
def localDeclaration? (k : Parts) : String → Option (Rule Node)
  | "var" => some do
    let start ← here
    discard take
    plain "var_declaration" start (← grouped k (variableEntry k))
  | "const" => some do
    let start ← here
    discard take
    plain "const_declaration" start (← grouped k (constantEntry k))
  | "type" => some do
    let start ← here
    discard take
    plain "type_declaration" start (← grouped k (typeEntry k))
  | _ => none

/-- The body of a function, if it has one. -/
def functionBody (k : Parts) : Rule (List Node) := do
  if ← seesSymbol "\x7b" then return [inField .body (← k.parse .block)] else return []

/-- A function or method. -/
def functionDeclaration (k : Parts) : Rule Node := do
  let start ← here
  expect (.keyword "func")
  if ← seesSymbol "(" then
    let receiver ← parameters k
    let first := inField .name (← name)
    let parts ← signature k
    node .methodDeclaration start (receiver :: first :: parts ++ (← functionBody k))
  else
    let first := inField .name (← name)
    let generic ← if ← seesSymbol "[" then pure [← typeParameters k] else pure []
    let parts ← signature k
    node .functionDeclaration start (first :: generic ++ parts ++ (← functionBody k))

/-- A declaration of a source file. -/
def topDeclaration (k : Parts) : Rule Node := do
  match ← peek with
  | some (.keyword "func") => functionDeclaration k
  | some (.keyword "import") =>
    let start ← here
    discard take
    plain "import_declaration" start (← grouped k importEntry)
  | some (.keyword s) => (localDeclaration? k s).getD fail
  | _ => fail

end GoFlow.Go
