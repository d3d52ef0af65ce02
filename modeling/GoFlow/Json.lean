import GoFlow.Decimal.Shortest
import GoFlow.Json.Token

/-!
# JSON

- `Json.parse?`: the value of a JSON text. The entries of an object keep their order; of two
  entries under one key the later wins and the earlier keeps its place.
- `Json.render`: a value as JSON on one line, in ASCII.
-/

namespace GoFlow

namespace Json

/-! ## Reading -/

/-- A container that is still open: the items so far in reverse, or the entries and the key that
waits for its value. -/
inductive Frame where
  | list (items : List Value)
  | dict (entries : Fields) (key : String)

/-- What may come next. -/
inductive Place where
  /-- A value, or the end of the list if none came yet. -/
  | value (mayClose : Bool)
  /-- A comma or the end of the container. -/
  | next
  /-- A key, or the end of the object if none came yet. -/
  | key (mayClose : Bool)
  | colon
  /-- Nothing: the text is complete. -/
  | done (v : Value)

/-- Hands a complete value to the container around it. -/
def deliver (v : Value) : List Frame → List Frame × Place
  | [] => ([], .done v)
  | .list items :: rest => (.list (v :: items) :: rest, .next)
  | .dict entries key :: rest => (.dict (entries.set key v) key :: rest, .next)

/-- Closes a list. -/
def closeList : List Frame → Option (List Frame × Place)
  | .list items :: rest => some (deliver (.list items.reverse) rest)
  | _ => none

/-- Closes an object. -/
def closeDict : List Frame → Option (List Frame × Place)
  | .dict entries _ :: rest => some (deliver (.dict entries) rest)
  | _ => none

/-- One token. -/
def step (state : List Frame × Place) (t : JsonToken) : Option (List Frame × Place) :=
  match state.2, t with
  | .value _, .text s => some (deliver (s.elim .torn .str) state.1)
  | .value _, .scalar v => some (deliver v state.1)
  | .value _, .openList => some (.list [] :: state.1, .value true)
  | .value _, .openDict => some (.dict [] "" :: state.1, .key true)
  | .value true, .closeList => closeList state.1
  | .next, .closeList => closeList state.1
  | .next, .closeDict => closeDict state.1
  | .next, .comma =>
    match state.1 with
    | .list items :: rest => some (.list items :: rest, .value false)
    | .dict entries key :: rest => some (.dict entries key :: rest, .key false)
    | [] => none
  | .key true, .closeDict => closeDict state.1
  | .key _, .text k =>
    match state.1 with
    | .dict entries _ :: rest => some (.dict entries (k.getD "\ufffd") :: rest, .colon)
    | _ => none
  | .colon, .colon => some (state.1, .value false)
  | _, _ => none

/-- The value of a JSON text. -/
def parse? (s : String) : Option Value := do
  let tokens ← JsonToken.scan? s
  match ← tokens.foldlM step ([], .value false) with
  | (_, .done v) => some v
  | _ => none

/-! ## Writing -/

/-- Four hexadecimal digits. -/
def hex4 (n : Nat) : List Char :=
  [n / 4096 % 16, n / 256 % 16, n / 16 % 16, n % 16].map Nat.digitChar

/-- A character inside a string. Outside ASCII, UTF-16 units are written in hexadecimal. -/
def escape (c : Char) : List Char :=
  match c with
  | '"' => ['\\', '"']
  | '\\' => ['\\', '\\']
  | '\n' => ['\\', 'n']
  | '\r' => ['\\', 'r']
  | '\t' => ['\\', 't']
  | _ =>
    let n := c.toNat
    if n = 0x08 then ['\\', 'b']
    else if n = 0x0C then ['\\', 'f']
    else if 0x20 ≤ n ∧ n < 0x7F then [c]
    else if n < 0x10000 then '\\' :: 'u' :: hex4 n
    else
      '\\' :: 'u' :: hex4 (0xD800 + (n - 0x10000) / 0x400)
        ++ '\\' :: 'u' :: hex4 (0xDC00 + (n - 0x10000) % 0x400)

/-- A string in quotes. -/
def quote (s : String) : String :=
  "\"" ++ String.ofList (s.toList.flatMap escape) ++ "\""

mutual

/-- A value on one line; lists and tuples look the same. -/
def render : Value → String
  | .null => "null"
  | .bool true => "true"
  | .bool false => "false"
  | .int n => toString n
  | .real x => NumberStyle.json.render x
  | .str s => quote s
  | .torn => quote "\ufffd"
  | .list items => "[" ++ ", ".intercalate (renderAll items) ++ "]"
  | .tuple items => "[" ++ ", ".intercalate (renderAll items) ++ "]"
  | .dict entries => "\x7b" ++ ", ".intercalate (renderEntries entries) ++ "\x7d"

def renderAll : List Value → List String
  | [] => []
  | v :: rest => render v :: renderAll rest

def renderEntries : List (String × Value) → List String
  | [] => []
  | (key, v) :: rest => (quote key ++ ": " ++ render v) :: renderEntries rest

end

end Json

end GoFlow
