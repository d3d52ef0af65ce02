import GoFlow.Go.Type

/-!
# Expressions of Go

- `expressionRule`: operands with operators between them, the tighter ones first.
- `operandRule`: an operand with the operators in front of it and what follows it. A type may be an
  operand too, of a conversion or a literal.
-/

namespace GoFlow.Go

open Rule

/-- How tightly an operator between two operands binds. -/
def precedence? (s : String) : Option Nat :=
  if s == "||" then some 1
  else if s == "&&" then some 2
  else if ["==", "!=", "<", "<=", ">", ">="].contains s then some 3
  else if ["+", "-", "|", "^"].contains s then some 4
  else if ["*", "/", "%", "<<", ">>", "&", "&^"].contains s then some 5
  else none

/-- The operators in front of an operand. -/
def unaryOperators : List String := ["+", "-", "!", "^", "&", "~", "*", "<-"]

/-- A row of expressions. -/
def expressionList (k : Parts) (braces : Bool) : Rule (List Node) :=
  listOf k.bound "," (k.parse (.expression braces))

/-! ## What a node is -/

/-- Whether the node is a type that can have a literal in braces behind it. -/
def isLiteralType (n : Node) : Bool :=
  ["array_type", "slice_type", "map_type", "struct_type"].any fun s => n.label == .other s

/-- Whether the node can be nothing but a type. -/
def isType (n : Node) : Bool :=
  isLiteralType n
    || ["function_type", "interface_type", "channel_type"].any fun s => n.label == .other s

/-- What is inside parentheses. -/
def unparenthesized : Node → Node
  | .mk head [inner] =>
    if head.label == .other "parenthesized_expression" then unparenthesized inner
    else .mk head [inner]
  | n => n

/-- Whether an arrow in front of a channel type makes sense: it takes the place of the arrow that
the type has on the other side, which then moves on to the type of its elements. -/
def takesArrow : Node → Bool
  | .mk head [first, arrow, element] =>
    head.label == .other "channel_type" && first.label == .other "chan"
      && arrow.label == .other "<-" && takesArrow element
  | .mk head [first, _] => head.label == .other "channel_type" && first.label == .other "chan"
  | _ => false

/-! ## Behind an operand -/

/-- What is in braces behind a type: values, each perhaps with a key. -/
def literalElement (k : Parts) : Rule Node := do
  let start ← here
  let value : Rule Node := do
    if ← seesSymbol "\x7b" then k.parse .literalValue else k.parse (.expression true)
  let first ← value
  if ← accept (.symbol ":") then plain "keyed_element" start [first, ← value] else return first

/-- A literal in braces. -/
def literalValueRule (k : Parts) : Rule Node := do
  let start ← here
  expect (.symbol "\x7b")
  plain "literal_value" start (← closedBy k.bound "\x7d" (literalElement k))

/-- The arguments of a call up to the closing parenthesis. A slice may stand for all that are left;
nothing but a comma may follow it. -/
def arguments (k : Parts) (done : List Node) : Nat → Rule (List Node)
  | 0 => fail
  | bound + 1 => do
    if ← accept (.symbol ")") then return done.reverse
    let x ← k.parse (.expression true)
    if ← seesSymbol "..." then
      let dots ← tokenNode
      let _ ← accept (.symbol ",")
      expect (.symbol ")")
      return (dots :: x :: done).reverse
    else if ← accept (.symbol ",") then arguments k (x :: done) bound
    else
      expect (.symbol ")")
      return (x :: done).reverse

/-- An expression, if there is one before the next token of a slice. -/
def sliceBound (k : Parts) : Rule (List Node) := do
  if (← seesSymbol ":") || (← seesSymbol "]") then return []
  else return [← k.parse (.expression true)]

/-- The bounds of a slice behind its first colon. A third bound needs the second. -/
def sliceBounds (k : Parts) : Rule (List Node) := do
  let high ← sliceBound k
  if ← accept (.symbol ":") then
    let most ← sliceBound k
    if high.isEmpty || most.isEmpty then fail else return high ++ most
  else return high

/-- What is in brackets behind an operand: an index, a slice, or types. -/
def indexed (k : Parts) (start : Position) (x : Node) : Rule Node := do
  let first ← sliceBound k
  if ← accept (.symbol ":") then
    let bounds ← sliceBounds k
    expect (.symbol "]")
    plain "slice_expression" start (x :: first ++ bounds)
  else if first.isEmpty then fail
  else
    let more ← if ← accept (.symbol ",") then closedBy k.bound "]" (k.parse .type)
      else do
        expect (.symbol "]")
        pure []
    plain "index_expression" start (x :: first ++ more)

/-- What is behind a point: a name, or a type in parentheses. To ask for the type is a fault, unless
a switch does it, which puts another node in its place. -/
def selected (k : Parts) (start : Position) (x : Node) : Rule Node := do
  if ← accept (.symbol "(") then
    if ← accept (.keyword "type") then
      expect (.symbol ")")
      node .error start [x]
    else
      let type ← k.parse .type
      expect (.symbol ")")
      plain "type_assertion_expression" start [x, type]
  else plain "selector_expression" start [x, ← name]

/-- Whether braces behind the node belong to it: always behind a type that can be nothing else, and
behind a name unless the header of a statement ends there. -/
def takesBraces (braces : Bool) (x : Node) : Bool :=
  isLiteralType x || (braces &&
    ["identifier", "selector_expression", "index_expression"].any fun s => x.label == .other s)

/-- What follows an operand, as far as it belongs to it. -/
def behindOperand (k : Parts) (braces : Bool) (start : Position) (x : Node) : Nat → Rule Node
  | 0 => return x
  | bound + 1 => do
    match ← peek with
    | some (.symbol ".") =>
      discard take
      behindOperand k braces start (← selected k start x) bound
    | some (.symbol "[") =>
      discard take
      behindOperand k braces start (← indexed k start x) bound
    | some (.symbol "(") =>
      discard take
      let parts ← arguments k [] k.bound
      behindOperand k braces start (← plain "call_expression" start (x :: parts)) bound
    | some (.symbol "\x7b") =>
      if takesBraces braces x then
        let value ← k.parse .literalValue
        behindOperand k braces start (← plain "composite_literal" start [x, value]) bound
      else if isLiteralType (unparenthesized x) then fail
      else return x
    | _ => return x

/-! ## Operands -/

/-- Whether the token opens a body or a literal. -/
def opensBraces (l : Option Lexeme) : Bool := l == some (.symbol "\x7b")

/-- A function, or only its type if there is no body. A type alone is no expression, so that a line
may end in front of result and body. -/
def functionOperand (k : Parts) (start : Position) : Rule Node := do
  discard take
  let ps ← parameters k
  joinLine fun l => opensBraces l || startsType l
  let result ← if ← seesSymbol "(" then pure [← parameters k]
    else if startsType (← peek) then pure [← k.parse .type]
    else pure []
  joinLine opensBraces
  if ← seesSymbol "\x7b" then
    plain "func_literal" start (ps :: result ++ [inField .body (← k.parse .block)])
  else plain "function_type" start (ps :: result)

/-- A type as an operand. A line may end behind it, as nothing else can end there. -/
def typeOperand (k : Parts) : Rule Node := do
  let type ← k.parse .type
  joinLine fun l => opensBraces l || l == some (.symbol "(")
  return type

/-- An array, slice, or the type of a literal that tells the length of an array. -/
def arrayOperand (k : Parts) (start : Position) : Rule Node := do
  match ← peekSecond with
  | some (.symbol "...") =>
    discard take
    discard take
    expect (.symbol "]")
    let element ← k.parse .type
    joinLine opensBraces
    if ← seesSymbol "\x7b" then plain "array_type" start [element] else fail
  | _ => typeOperand k

/-- The start of an operand. -/
def operandStart (k : Parts) (start : Position) : Rule Node := do
  match ← peek with
  | some (.name _) => name
  | some .number | some .rune | some .text =>
    discard take
    plain "literal" start []
  | some (.keyword "func") => functionOperand k start
  | some (.symbol "(") =>
    discard take
    let inner ← k.parse (.expression true)
    expect (.symbol ")")
    plain "parenthesized_expression" start [inner]
  | some (.symbol "[") => arrayOperand k start
  | some (.keyword _) => typeOperand k
  | _ => fail

/-- An operand with the operators in front of it and what follows it. -/
def operandRule (k : Parts) (braces : Bool) : Rule Node := do
  let start ← here
  match ← peek with
  | some (.symbol s) =>
    if unaryOperators.contains s then
      let operator ← tokenNode
      let x ← k.parse (.operand braces)
      if s == "<-" && x.label == .other "channel_type" then
        if takesArrow x then plain "channel_type" start [operator, x] else fail
      else plain "unary_expression" start [operator, x]
    else behindOperand k braces start (← operandStart k start) k.bound
  | _ => behindOperand k braces start (← operandStart k start) k.bound

/-- What follows an operand from a precedence on. -/
def behindOperator (k : Parts) (braces : Bool) (least : Nat) (start : Position) (x : Node) :
    Nat → Rule Node
  | 0 => return x
  | bound + 1 => do
    match ← peek with
    | some (.symbol s) =>
      match precedence? s with
      | none => return x
      | some p =>
        if p < least then return x
        else
          let operator ← tokenNode
          let second ← here
          let y ← k.parse (.operand braces)
          let y ← behindOperator k braces (p + 1) second y bound
          behindOperator k braces least start
            (← plain "binary_expression" start [x, operator, y]) bound
    | _ => return x

/-- Any expression. -/
def expressionRule (k : Parts) (braces : Bool) : Rule Node := do
  let start ← here
  behindOperator k braces 1 start (← k.parse (.operand braces)) k.bound

/-! ## Type parameters that look like an expression -/

/-- Whether an expression has a type in it that only a constraint can have. -/
def hasTypeTerm : Node → Bool
  | .mk head children =>
    if head.label == .other "binary_expression" then
      match children with
      | [x, _, y] => hasTypeTerm x || hasTypeTerm y
      | _ => false
    else if head.label == .other "parenthesized_expression" then
      match children with
      | [x] => hasTypeTerm x
      | _ => false
    else if head.label == .other "unary_expression" then
      children.head?.any (·.label == .other "~")
    else isType (.mk head children)

/-- The expression as a type parameter with its constraint: a name and a product of it with a type,
a name and a type in parentheses, or a union that starts so. `sure` says that it can be nothing
else. -/
def asTypeParameter? (sure : Bool) (x : Node) : Option Parameter :=
  match x with
  | .mk head [first, second, third] =>
    if head.label == .other "binary_expression" then
      if second.label == .other "*" then
        if first.label == .other "identifier" && (sure || hasTypeTerm third) then
          some ⟨some first, some third⟩
        else none
      else if second.label == .other "|" then
        (asTypeParameter? (sure || hasTypeTerm third) first).bind fun p =>
          p.type.map fun type => { p with type := some (.mk head [type, second, third]) }
      else none
    else none
  | .mk head [first, second] =>
    if head.label == .other "call_expression" && first.label == .other "identifier"
        && (sure || hasTypeTerm second) then
      some ⟨some first, some second⟩
    else none
  | .mk head [] => if head.label == .other "identifier" then some ⟨some x, none⟩ else none
  | _ => none

end GoFlow.Go
