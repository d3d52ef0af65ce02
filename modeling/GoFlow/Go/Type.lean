import GoFlow.Go.Grammar

/-!
# Types of Go

A name with something in brackets behind it may be a field or parameter of an array type, or a type
with arguments. What follows the brackets decides.
-/

namespace GoFlow.Go

open Rule

/-- A row of names. -/
def nameList (k : Parts) : Rule (List Node) := listOf k.bound "," name

/-- Whether a type may start with the token. -/
def startsType : Option Lexeme → Bool
  | some (.name _) => true
  | some (.symbol s) => s == "(" || s == "[" || s == "*" || s == "<-"
  | some (.keyword s) =>
    s == "struct" || s == "interface" || s == "map" || s == "chan" || s == "func"
  | _ => false

/-! ## Names of types -/

/-- A type with arguments in brackets, if brackets follow. -/
def instantiated (k : Parts) (start : Position) (type : Node) : Rule Node := do
  if ← accept (.symbol "[") then
    let arguments ← closedBy k.bound "]" (k.parse .type)
    if arguments.isEmpty then fail else plain "generic_type" start (type :: arguments)
  else return type

/-- The name of a type behind its first part: perhaps within a package, perhaps with arguments. -/
def typeNameFrom (k : Parts) (start : Position) (first : Node) : Rule Node := do
  let type ← if ← accept (.symbol ".") then plain "qualified_type" start [first, ← name]
    else plain "type_identifier" start []
  instantiated k start type

/-- The name of a type. -/
def typeName (k : Parts) : Rule Node := do
  let start ← here
  typeNameFrom k start (← name)

/-! ## Constraints -/

/-- A type in a union, or all types that it underlies. -/
def constraintTerm (k : Parts) : Rule Node := do
  let start ← here
  if ← accept (.symbol "~") then plain "negated_type" start [← k.parse .type]
  else k.parse .type

/-- A union of types whose first term is there already. -/
def unionFrom (k : Parts) (start : Position) (first : Node) : Rule Node := do
  if ← accept (.symbol "|") then
    plain "type_elem" start (first :: (← listOf k.bound "|" (constraintTerm k)))
  else return first

/-- A union of types. -/
def union (k : Parts) : Rule Node := do
  let start ← here
  unionFrom k start (← constraintTerm k)

/-! ## Parameters -/

/-- A parameter or field: a name, a type, or both. -/
structure Parameter where
  name : Option Node
  type : Option Node

namespace Parameter

/-- Whether both name and type are there. -/
def full (p : Parameter) : Bool := p.name.isSome && p.type.isSome

/-- The node of a parameter. -/
def node (p : Parameter) (start : Position) : Rule Node :=
  plain "parameter_declaration" start (p.name.toList ++ p.type.toList)

end Parameter

/-- What is in brackets behind a name, up to the closing one, and whether a comma comes last. -/
def bracketed (k : Parts) (done : List Node) : Nat → Rule (List Node × Bool)
  | 0 => fail
  | bound + 1 => do
    if ← accept (.symbol "]") then return (done.reverse, !done.isEmpty)
    let x ← k.parse (.expression true)
    if ← accept (.symbol ",") then bracketed k (x :: done) bound
    else
      expect (.symbol "]")
      return ((x :: done).reverse, false)

/-- A name and brackets: of an array or slice type if a type follows them, else of a type with
arguments. -/
def arrayOrInstance (k : Parts) (start : Position) (first : Node) : Rule Parameter := do
  let open_ ← here
  expect (.symbol "[")
  let (arguments, comma) ← bracketed k [] k.bound
  match arguments with
  | [] => return ⟨some first, some (← plain "slice_type" open_ [← k.parse .type])⟩
  | [length] =>
    if startsType (← peek) then
      if comma then fail
      else return ⟨some first, some (← plain "array_type" open_ [length, ← k.parse .type])⟩
    else return ⟨none, some (← plain "generic_type" start [first, length])⟩
  | _ => return ⟨none, some (← plain "generic_type" start (first :: arguments))⟩

/-- A parameter that stands for any number of arguments, behind the dots. -/
def variadic (k : Parts) (first : Option Node) : Rule Parameter := do
  return ⟨first, some (← k.parse .type)⟩

/-- A parameter behind its first name. A constraint may be a union. -/
def parameterFrom (k : Parts) (constraints : Bool) (start : Position) (first : Node) :
    Rule Parameter := do
  let second ← here
  match ← peek with
  | some (.symbol "...") =>
    discard take
    variadic k (some first)
  | some (.symbol "[") =>
    let p ← arrayOrInstance k start first
    match constraints, p.type with
    | true, some type => return { p with type := some (← unionFrom k second type) }
    | _, _ => return p
  | some (.symbol ".") =>
    let type ← typeNameFrom k start first
    return ⟨none, some (← if constraints then unionFrom k start type else pure type)⟩
  | some (.symbol "|") =>
    if constraints then return ⟨none, some (← unionFrom k start first)⟩
    else return ⟨some first, none⟩
  | some (.symbol "~") =>
    if constraints then return ⟨some first, some (← union k)⟩ else return ⟨some first, none⟩
  | l =>
    if startsType l then
      return ⟨some first, some (← if constraints then union k else k.parse .type)⟩
    else return ⟨some first, none⟩

/-- A parameter. -/
def parameter (k : Parts) (constraints : Bool) : Rule Parameter := do
  let start ← here
  match ← peek with
  | some (.name _) => parameterFrom k constraints start (← name)
  | some (.symbol "...") =>
    discard take
    variadic k none
  | some (.symbol "~") => if constraints then return ⟨none, some (← union k)⟩ else fail
  | _ => return ⟨none, some (← if constraints then union k else k.parse .type)⟩

/-- Whether the parameters of a row go together: if one has both name and type, all have names, and
the last one has a type. -/
def parametersAgree (ps : List Parameter) : Bool :=
  !ps.any Parameter.full || (ps.all (·.name.isSome) && ps.getLast?.any Parameter.full)

/-- Parameters in parentheses. -/
def parameters (k : Parts) : Rule Node := do
  let start ← here
  expect (.symbol "(")
  let ps ← closedBy k.bound ")" do
    let start ← here
    let p ← parameter k false
    return (p, ← p.node start)
  if parametersAgree (ps.map (·.1)) then plain "parameter_list" start (ps.map (·.2)) else fail

/-- A row of type parameters. Each has a constraint, its own or that of a later one. -/
def typeParameterList (start : Position) (ps : List Parameter) : Rule Node :=
  if ps.any Parameter.full && parametersAgree ps then
    plain "type_parameter_list" start (ps.flatMap fun p => p.name.toList ++ p.type.toList)
  else fail

/-- Type parameters behind the first one, with the closing bracket. -/
def typeParametersFrom (k : Parts) (start : Position) (first : Parameter) : Rule Node := do
  if ← accept (.symbol ",") then
    typeParameterList start (first :: (← closedBy k.bound "]" (parameter k true)))
  else
    expect (.symbol "]")
    typeParameterList start [first]

/-- Type parameters in brackets. -/
def typeParameters (k : Parts) : Rule Node := do
  let start ← here
  expect (.symbol "[")
  typeParameterList start (← closedBy k.bound "]" (parameter k true))

/-- Parameters and result. -/
def signature (k : Parts) : Rule (List Node) := do
  let ps ← parameters k
  if ← seesSymbol "(" then return [ps, ← parameters k]
  else if startsType (← peek) then return [ps, ← k.parse .type]
  else return [ps]

/-! ## Fields and methods -/

/-- A field behind its first name: an embedded type, or names with a type. -/
def fieldFrom (k : Parts) (start : Position) (first : Node) : Rule Parameter := do
  match ← peek with
  | some (.symbol ".") => return ⟨none, some (← typeNameFrom k start first)⟩
  | some .text | some (.semicolon _) | some (.symbol "\x7d") => return ⟨none, some first⟩
  | some (.symbol "[") => arrayOrInstance k start first
  | some (.symbol ",") =>
    discard take
    let _ ← nameList k
    return ⟨some first, some (← k.parse .type)⟩
  | _ => return ⟨some first, some (← k.parse .type)⟩

/-- Fields of a struct, perhaps with a tag. -/
def field (k : Parts) : Rule Node := do
  let start ← here
  let p ← if ← accept (.symbol "*") then pure ⟨none, some (← typeName k)⟩
    else fieldFrom k start (← name)
  let _ ← accept .text
  plain "field_declaration" start (p.name.toList ++ p.type.toList)

/-- An embedded type with arguments behind its name. The first argument may be a union. -/
def embeddedInstance (k : Parts) (start : Position) (first : Node) : Rule Node := do
  expect (.symbol "[")
  let argument ← union k
  let more ← if ← accept (.symbol ",") then closedBy k.bound "]" (k.parse .type)
    else do
      expect (.symbol "]")
      pure []
  plain "generic_type" start (first :: argument :: more)

/-- A method or a constraint of an interface. -/
def interfaceElement (k : Parts) : Rule Node := do
  let start ← here
  match ← peek, ← peekSecond with
  | some (.name _), some (.symbol "(") =>
    let first ← name
    plain "method_elem" start (first :: (← signature k))
  | some (.name _), some (.symbol "[") =>
    let first ← name
    unionFrom k start (← embeddedInstance k start first)
  | _, _ => union k

/-! ## All types -/

/-- An array or slice behind its opening bracket. -/
def arrayType (k : Parts) (start : Position) : Rule Node := do
  if ← accept (.symbol "]") then plain "slice_type" start [← k.parse .type]
  else
    let length ← k.parse (.expression true)
    expect (.symbol "]")
    plain "array_type" start [length, ← k.parse .type]

/-- A type that starts with a keyword. -/
def keywordType (k : Parts) (start : Position) : String → Rule Node
  | "struct" => do
    discard take
    expect (.symbol "\x7b")
    plain "struct_type" start (← rows k.bound "\x7d" (field k))
  | "interface" => do
    discard take
    expect (.symbol "\x7b")
    plain "interface_type" start (← rows k.bound "\x7d" (interfaceElement k))
  | "map" => do
    discard take
    expect (.symbol "[")
    let key ← k.parse .type
    expect (.symbol "]")
    plain "map_type" start [key, ← k.parse .type]
  | "chan" => do
    let mark ← tokenNode
    let arrow ← if ← seesSymbol "<-" then pure [← tokenNode] else pure []
    plain "channel_type" start (mark :: arrow ++ [← k.parse .type])
  | "func" => do
    discard take
    plain "function_type" start (← signature k)
  | _ => fail

/-- Any type. -/
def typeRule (k : Parts) : Rule Node := do
  let start ← here
  match ← peek with
  | some (.name _) => typeName k
  | some (.keyword s) => keywordType k start s
  | some (.symbol "(") =>
    discard take
    let inner ← k.parse .type
    expect (.symbol ")")
    plain "parenthesized_type" start [inner]
  | some (.symbol "[") =>
    discard take
    arrayType k start
  | some (.symbol "*") =>
    discard take
    plain "pointer_type" start [← k.parse .type]
  | some (.symbol "<-") =>
    let arrow ← tokenNode
    if ← seesKeyword "chan" then
      let mark ← tokenNode
      plain "channel_type" start [arrow, mark, ← k.parse .type]
    else fail
  | _ => fail

end GoFlow.Go
