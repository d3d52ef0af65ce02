/-!
# Paths

A path as it is shown: without empty steps and without steps that stay in place.
-/

namespace GoFlow

/-- A path, by its steps from the root or from the working directory. -/
structure Path where
  /-- What an absolute path starts with: one slash or two, nothing for a relative path. -/
  root : String
  steps : List String
deriving DecidableEq, Repr

namespace Path

/-- The start of an absolute path. Exactly two slashes stay two. -/
def rootOf : List Char → String
  | '/' :: '/' :: '/' :: _ => "/"
  | '/' :: '/' :: _ => "//"
  | '/' :: _ => "/"
  | _ => ""

/-- The parts of a text between slashes. `pending` holds the current part in reverse. -/
def splitSlashes (pending : List Char) : List Char → List String
  | [] => [String.ofList pending.reverse]
  | c :: rest =>
    if c == '/' then String.ofList pending.reverse :: splitSlashes [] rest
    else splitSlashes (c :: pending) rest

/-- Reads a path. Steps up stay as they are. -/
def ofString (s : String) : Path :=
  ⟨rootOf s.toList, (splitSlashes [] s.toList).filter fun step => step != "" && step != "."⟩

/-- The text of a path; the working directory itself is a point. -/
def render (p : Path) : String :=
  let text := p.root ++ "/".intercalate p.steps
  if text == "" then "." else text

/-- What a file name has from its last point on. -/
def nameSuffix (name : List Char) : List Char :=
  let behind := name.reverse.takeWhile (· != '.')
  let before := name.length - behind.length
  -- a point at either end of the name does not count
  if behind.isEmpty || before ≤ 1 then [] else '.' :: behind.reverse

/-- The suffix of the last step. -/
def suffix (p : Path) : String :=
  match p.steps.getLast? with
  | some name => String.ofList (nameSuffix name.toList)
  | none => ""

end Path

end GoFlow
