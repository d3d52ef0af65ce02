import GoFlow.Text.Blank
import GoFlow.Text.Lines

/-!
# Settings files

A settings file holds a variable on each line: `NAME=value`, perhaps behind `export`, with the name
or the value in quotes, and with comments. A line that cannot be read is skipped.

- `Dotenv.read`: the variables of a file as they are written.
- `Dotenv.expand`: the variables with references to others filled in.
-/

namespace GoFlow

namespace Dotenv

/-- Whether the character ends a line. -/
def isEnd (c : Char) : Bool := c == '\n' || c == '\r'

/-- A space within a line. -/
def isGap (c : Char) : Bool := isSpace c && !isEnd c

/-- Splits off what is between the quote that was just opened and the one that closes it. A
backslash goes with the character behind it, which is on the same line. `done` holds the characters
so far in reverse. -/
def untilQuote (quote : Char) (done : List Char) : List Char → Option (List Char × List Char)
  | [] => none
  | '\\' :: rest =>
    match rest with
    | c :: rest => if c == '\n' then none else untilQuote quote (c :: '\\' :: done) rest
    | [] => none
  | c :: rest => if c == quote then some (done.reverse, rest) else untilQuote quote (c :: done) rest

/-- The character that a backslash and a letter stand for inside double quotes. -/
def escaped? : Char → Option Char
  | '\\' => some '\\'
  | '\'' => some '\''
  | '"' => some '"'
  | 'a' => some '\x07'
  | 'b' => some '\x08'
  | 'f' => some '\x0c'
  | 'n' => some '\n'
  | 'r' => some '\r'
  | 't' => some '\t'
  | 'v' => some '\x0b'
  | _ => none

/-- Replaces the escapes that `known` has a meaning for; any other backslash stays. -/
def unescape (known : Char → Option Char) : List Char → List Char
  | '\\' :: c :: rest =>
    match known c with
    | some e => e :: unescape known rest
    | none => '\\' :: unescape known (c :: rest)
  | c :: rest => c :: unescape known rest
  | [] => []
termination_by s => s.length

/-- The escapes inside single quotes. -/
def escapedSingle? (c : Char) : Option Char :=
  if c == '\\' || c == '\'' then some c else none

/-- A value without quotes: what stands before a space with a number sign behind it. -/
def beforeComment : List Char → List Char
  | [] => []
  | c :: rest =>
    if isSpace c && (rest.dropWhile isSpace).head? == some '#' then []
    else c :: beforeComment rest

/-- The key at the start of a line; a comment has none. -/
def key? : List Char → Option (Option (List Char) × List Char)
  | '#' :: rest => some (none, '#' :: rest)
  | '\'' :: rest =>
    let name := rest.takeWhile (· != '\'')
    match rest.dropWhile (· != '\'') with
    | _ :: rest => if name.isEmpty then none else some (some name, rest)
    | [] => none
  | s =>
    let isName (c : Char) : Bool := c != '=' && c != '#' && !isSpace c
    let name := s.takeWhile isName
    if name.isEmpty then none else some (some name, s.dropWhile isName)

/-- The value behind an equals sign and its gap. -/
def value? (s : List Char) : Option (List Char × List Char) :=
  match s with
  | '\'' :: rest => (untilQuote '\'' [] rest).map fun (v, rest) => (unescape escapedSingle? v, rest)
  | '"' :: rest => (untilQuote '"' [] rest).map fun (v, rest) => (unescape escaped? v, rest)
  | s =>
    let line := s.takeWhile (!isEnd ·)
    some (trimEnd (beforeComment line), s.dropWhile (!isEnd ·))

/-- What is left after a comment, a gap and the end of the line; nothing else may be there. -/
def endOfLine? (s : List Char) : Option (List Char) :=
  let afterGap := s.dropWhile isGap
  let s := match afterGap with
    | '#' :: rest => rest.dropWhile (!isEnd ·)
    | _ => afterGap
  match s with
  | [] => some []
  | '\r' :: '\n' :: rest => some rest
  | c :: rest => if isEnd c then some rest else none

/-- Leaves out the word `export` and the gap behind it. -/
def skipExport (s : List Char) : List Char :=
  if "export".toList.isPrefixOf s && ((s.drop 6).head?.any isGap) then (s.drop 6).dropWhile isGap
  else s

/-- What was read from the start of a text: a variable or nothing, or how far it went before it
could not go on. -/
def binding (s : List Char) :
    Except (List Char) (Option (List Char × Option (List Char)) × List Char) :=
  let s := skipExport s
  match key? s with
  | none => .error s
  | some (name, rest) =>
    let rest := rest.dropWhile isGap
    match rest with
    | '=' :: behind =>
      let behind := behind.dropWhile isGap
      match value? behind with
      | none => .error behind
      | some (v, rest) =>
        match endOfLine? rest with
        | some next => .ok (name.map (·, some v), next)
        | none => .error rest
    | _ =>
      match endOfLine? rest with
      | some next => .ok (name.map (·, none), next)
      | none => .error rest

/-- What is left behind the end of the current line. -/
def nextLine (s : List Char) : List Char := (s.dropWhile (!isEnd ·)).drop 1

/-- The variables of a text, at most `fuel` of its lines. -/
def readLines : Nat → List Char → List (List Char × Option (List Char))
  | 0, _ => []
  | fuel + 1, s =>
    match s.dropWhile isSpace with
    | [] => []
    | s =>
      match binding s with
      | .error rest => readLines fuel (nextLine rest)
      | .ok (none, rest) => readLines fuel rest
      | .ok (some v, rest) => v :: readLines fuel rest

/-- A text without the byte order mark at its start and with every line ending written as a line
feed. -/
def unified (text : List Char) : List Char :=
  unifyNewlines (match text with
    | '\ufeff' :: rest => rest
    | text => text)

/-- The variables of a file as they are written, those without a value too. -/
def read (text : String) : List (String × Option String) :=
  (readLines (text.length + 1) (unified text.toList)).map fun (name, v) =>
    (String.ofList name, v.map String.ofList)

/-! ## References -/

/-- The value of a reference: of the variable, else the default, else nothing. -/
def lookUp (known : List (String × Option String)) (reference : List Char) : List Char :=
  let name := reference.takeWhile (· != ':')
  match known.lookup (String.ofList name) with
  | some v => (v.getD "").toList
  | none => (reference.dropWhile (· != ':')).drop 2

/-- Whether the text in braces is a reference: a name, then perhaps a colon, a dash and a
default. -/
def isReference (s : List Char) : Bool :=
  match s.dropWhile (· != ':') with
  | [] => true
  | ':' :: '-' :: _ => true
  | _ => false

/-- Fills in the references of a value. -/
def fill (known : List (String × Option String)) : List Char → List Char
  | '$' :: '\x7b' :: rest =>
    let body := rest.takeWhile (· != '\x7d')
    match _h : rest.dropWhile (· != '\x7d') with
    | _ :: behind =>
      if isReference body then lookUp known body ++ fill known behind
      else '$' :: fill known ('\x7b' :: rest)
    | [] => '$' :: fill known ('\x7b' :: rest)
  | c :: rest => c :: fill known rest
  | [] => []
termination_by s => s.length
decreasing_by
  all_goals simp_wf
  all_goals
    have := (List.dropWhile_suffix (l := rest) (· != '\x7d')).length_le
    simp_all
    try omega

/-- Sets a variable. One that is already there keeps its place. -/
def assign (vars : List (String × Option String)) (name : String) (v : Option String) :
    List (String × Option String) :=
  if vars.any (·.1 == name) then vars.map fun e => if e.1 == name then (name, v) else e
  else vars ++ [(name, v)]

/-- The variables with references filled in, from variables further up or else from the
environment. -/
def expand (environment : List (String × String)) (vars : List (String × Option String)) :
    List (String × Option String) :=
  vars.foldl (fun done (name, v) =>
    let known := done ++ environment.map fun e => (e.1, some e.2)
    assign done name (v.map fun v => String.ofList (fill known v.toList))) []

end Dotenv

end GoFlow
