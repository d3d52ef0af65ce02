import GoFlow.Binary64

/-!
# Values

The values that settings files, log lines and the details of errors are made of.
-/

namespace GoFlow

/-- A value of a log field, a setting, or the details of an error. Entries of a dictionary keep
the order in which they were added. -/
inductive Value where
  | null
  | bool (b : Bool)
  | int (n : Int)
  | real (x : Binary64)
  | str (s : String)
  /-- A text with half of a surrogate pair in it, which no encoding can write. -/
  | torn
  | list (items : List Value)
  | tuple (items : List Value)
  | dict (entries : List (String × Value))
deriving Repr, Inhabited

/-- The entries of a dictionary, in the order in which they were added. -/
abbrev Fields := List (String × Value)

namespace Fields

/-- Sets an entry. A key that is already there keeps its place. -/
def set (fields : Fields) (key : String) (v : Value) : Fields :=
  if fields.any (·.1 == key) then fields.map fun e => if e.1 == key then (key, v) else e
  else fields ++ [(key, v)]

/-- Sets all entries of `more`, from left to right. -/
def setAll (fields more : Fields) : Fields :=
  more.foldl (fun acc e => acc.set e.1 e.2) fields

/-- The value under a key. -/
def get? (fields : Fields) (key : String) : Option Value := fields.lookup key

end Fields

namespace Value

/-- The entry of a dictionary under a key. -/
def field? : Value → String → Option Value
  | .dict entries, key => entries.lookup key
  | _, _ => none

end Value

end GoFlow
