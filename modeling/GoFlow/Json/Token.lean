import GoFlow.Value

/-!
# Tokens of JSON

Splits JSON text into tokens, one character at a time.

- `JsonToken.scan?`: the tokens of a text, or none if some string or word of it is not JSON.
- `JsonToken.number?`: the grammar of numbers. A number without fraction and exponent is an
  integer, of at most 4300 digits.
-/

namespace GoFlow

inductive JsonToken where
  | openDict
  | closeDict
  | openList
  | closeList
  | colon
  | comma
  /-- A text, unless it is torn. -/
  | text (s : Option String)
  | scalar (v : Value)

namespace JsonToken

/-- Whether a code point is half of a surrogate pair. -/
def isHalf (n : Nat) : Bool := 0xD800 ≤ n && n < 0xE000

/-- The character of two halves of a surrogate pair. -/
def joined? (high low : Nat) : Option Char :=
  if 0xD800 ≤ high ∧ high < 0xDC00 ∧ 0xDC00 ≤ low ∧ low < 0xE000 then
    some (Char.ofNat (0x10000 + (high - 0xD800) * 0x400 + (low - 0xDC00)))
  else none

/-- The characters of units in reverse, where surrogate pairs are joined; `done` holds those behind
them. There is no text if a half stands alone. -/
def joinUnits (done : List Char) : List Nat → Option (List Char)
  | [] => some done
  | low :: high :: rest =>
    match joined? high low with
    | some c => joinUnits (c :: done) rest
    | none => if isHalf low then none else joinUnits (Char.ofNat low :: done) (high :: rest)
  | [first] => if isHalf first then none else some (Char.ofNat first :: done)

/-- Value of a hexadecimal digit. -/
def hexDigit? (c : Char) : Option Nat :=
  if c.isDigit then some (c.toNat - '0'.toNat)
  else if 'a' ≤ c ∧ c ≤ 'f' then some (c.toNat - 'a'.toNat + 10)
  else if 'A' ≤ c ∧ c ≤ 'F' then some (c.toNat - 'A'.toNat + 10)
  else none

/-- Value of a row of decimal digits. -/
def digitsValue (ds : List Char) : Nat :=
  ds.foldl (fun n d => n * 10 + (d.toNat - '0'.toNat)) 0

/-- The exponent of a number: an optional sign and at least one digit. -/
def exponent? (cs : List Char) : Option Int :=
  let (negative, ds) := match cs with
    | '-' :: ds => (true, ds)
    | '+' :: ds => (false, ds)
    | ds => (false, ds)
  if ds.isEmpty || !ds.all Char.isDigit then none
  else some (if negative then -(digitsValue ds : Int) else digitsValue ds)

/-- Most digits of an integer. -/
def mostDigits : Nat := 4300

/-- A number: an optional minus, digits without a leading zero, then perhaps a fraction and an
exponent. -/
def number? (cs : List Char) : Option Value := do
  let (negative, cs) := match cs with
    | '-' :: rest => (true, rest)
    | rest => (false, rest)
  let whole := cs.takeWhile Char.isDigit
  let rest := cs.dropWhile Char.isDigit
  if whole.isEmpty || (whole.length > 1 && whole.head? == some '0') then none
  let (fraction, rest) ← match rest with
    | '.' :: more =>
      let fraction := more.takeWhile Char.isDigit
      if fraction.isEmpty then none else some (some fraction, more.dropWhile Char.isDigit)
    | _ => some (none, rest)
  let power ← match rest with
    | [] => some none
    | e :: more => if e == 'e' || e == 'E' then (exponent? more).map some else none
  match fraction, power with
  | none, none =>
    let n : Int := digitsValue whole
    if whole.length ≤ mostDigits then some (.int (if negative then -n else n)) else none
  | _, _ =>
    let fraction := fraction.getD []
    return .real (.ofDecimal
      ⟨negative, digitsValue (whole ++ fraction), power.getD 0 - fraction.length⟩)

/-- The value of a bare word. -/
def word? (cs : List Char) : Option Value :=
  match String.ofList cs with
  | "null" => some .null
  | "true" => some (.bool true)
  | "false" => some (.bool false)
  | "NaN" => some (.real .nan)
  | "Infinity" => some (.real (.infinite false))
  | "-Infinity" => some (.real (.infinite true))
  | _ => number? cs

/-- Where the scanner is: between tokens, or inside one whose characters so far are kept in
reverse. -/
inductive Mode where
  | ground
  | word (chars : List Char)
  | text (units : List Nat)
  | escape (units : List Nat)
  | unicode (units : List Nat) (left value : Nat)

/-- The token of a punctuation character. -/
def punctuation? : Char → Option JsonToken
  | '\x7b' => some .openDict
  | '\x7d' => some .closeDict
  | '[' => some .openList
  | ']' => some .closeList
  | ':' => some .colon
  | ',' => some .comma
  | _ => none

/-- The character an escape stands for, if one letter says it all. -/
def escaped? : Char → Option Nat
  | '"' => some 0x22
  | '\\' => some 0x5C
  | '/' => some 0x2F
  | 'b' => some 0x08
  | 'f' => some 0x0C
  | 'n' => some 0x0A
  | 'r' => some 0x0D
  | 't' => some 0x09
  | _ => none

/-- One character between tokens. -/
def groundStep (tokens : List JsonToken) (c : Char) : Option (Mode × List JsonToken) :=
  if c == ' ' || c == '\t' || c == '\n' || c == '\r' then some (.ground, tokens)
  else if c == '"' then some (.text [], tokens)
  else match punctuation? c with
    | some t => some (.ground, t :: tokens)
    | none => some (.word [c], tokens)

/-- One character, wherever the scanner is. The tokens so far are kept in reverse. -/
def step (c : Char) : Mode × List JsonToken → Option (Mode × List JsonToken)
  | (.ground, tokens) => groundStep tokens c
  | (.word chars, tokens) =>
    if c.isAlphanum || c == '.' || c == '+' || c == '-' then some (.word (c :: chars), tokens)
    else do groundStep (.scalar (← word? chars.reverse) :: tokens) c
  | (.text units, tokens) =>
    if c == '"' then some (.ground, .text ((joinUnits [] units).map String.ofList) :: tokens)
    else if c == '\\' then some (.escape units, tokens)
    else if c.toNat < 0x20 then none
    else some (.text (c.toNat :: units), tokens)
  | (.escape units, tokens) =>
    if c == 'u' then some (.unicode units 4 0, tokens)
    else (escaped? c).map fun n => (.text (n :: units), tokens)
  | (.unicode units left value, tokens) => do
    let value := value * 16 + (← hexDigit? c)
    if left ≤ 1 then some (.text (value :: units), tokens)
    else some (.unicode units (left - 1) value, tokens)

/-- The tokens of a text. -/
def scan? (s : String) : Option (List JsonToken) := do
  let (mode, tokens) ← s.toList.foldlM (fun acc c => step c acc) (Mode.ground, [])
  match mode with
  | .ground => some tokens.reverse
  | .word chars => do return (JsonToken.scalar (← word? chars.reverse) :: tokens).reverse
  | _ => none

end JsonToken

end GoFlow
