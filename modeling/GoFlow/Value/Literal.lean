import GoFlow.Decimal.Shortest
import GoFlow.Text.Quoted
import GoFlow.Value

/-!
# Values as literals

How a value appears inside a message or a log line for people.
-/

namespace GoFlow

namespace Value

mutual

/-- A value in words: texts in quotes, a tuple of one with a comma behind it. -/
def literal : Value → String
  | .null => "None"
  | .bool true => "True"
  | .bool false => "False"
  | .int n => toString n
  | .real x => NumberStyle.message.render x
  | .str s => quoted s
  | .torn => quoted "\ufffd"
  | .list items => "[" ++ ", ".intercalate (literals items) ++ "]"
  | .tuple [item] => "(" ++ literal item ++ ",)"
  | .tuple items => "(" ++ ", ".intercalate (literals items) ++ ")"
  | .dict entries => "\x7b" ++ ", ".intercalate (literalEntries entries) ++ "\x7d"

def literals : List Value → List String
  | [] => []
  | v :: rest => literal v :: literals rest

def literalEntries : List (String × Value) → List String
  | [] => []
  | (key, v) :: rest => (quoted key ++ ": " ++ literal v) :: literalEntries rest

end

end Value

end GoFlow
