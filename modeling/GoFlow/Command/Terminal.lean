import GoFlow.Command
import GoFlow.Command.Table
import GoFlow.Text.Escape

/-!
# A terminal

The terminal that the program is run on: options with one or two dashes, lines without escape
sequences, texts and tables with markup, all in a fixed number of columns.

- `readOptions`, `readFiles`: the words of a command line.
- `Terminal.ofWidth`: a terminal with so many columns.
-/

namespace GoFlow

/-! ## Words -/

/-- The value of an option that is written in one word. -/
def inlineValue? (option word : String) : Option String :=
  if word.startsWith (option ++ "=") then
    some (String.ofList (word.toList.drop (option.length + 1)))
  else none

/-- Whether a word is an option. A dash alone is not. -/
def isOption (word : String) : Bool := word.startsWith "-" && word.length > 1

/-- Reads the options in front of the command. The later of two counts, and the word behind an
option is its value whatever it looks like. -/
def readOptions (options : LogOptions) : List String → Option (LogOptions × List String)
  | "--" :: rest => some (options, rest)
  | "--log-level" :: value :: rest => readOptions { options with level := value } rest
  | "--log-format" :: value :: rest => readOptions { options with format := value } rest
  | word :: rest =>
    match inlineValue? "--log-level" word, inlineValue? "--log-format" word with
    | some value, _ => readOptions { options with level := value } rest
    | _, some value => readOptions { options with format := value } rest
    | none, none => if isOption word then none else some (options, word :: rest)
  | [] => some (options, [])

/-- The files among the arguments of a command, at least one. It has no options; behind two dashes
any word is a file. -/
def readFiles (arguments : List String) : Option (List String) :=
  let before := arguments.takeWhile (· != "--")
  let behind := (arguments.dropWhile (· != "--")).drop 1
  if before.any isOption || (before ++ behind).isEmpty then none else some (before ++ behind)

/-! ## Printing -/

/-- Text in lines of at most so many columns. -/
def wrapText (columns : Nat) (s : List Char) : String :=
  joinLines ((layout columns .fold .free s).map String.ofList)

/-- A terminal with so many columns. -/
def Terminal.ofWidth (columns : Nat) : Terminal where
  options := readOptions {}
  files := readFiles
  echo := dropEscapes
  print s := ((Markup.render s.toList).map (wrapText columns)).mapError MarkupFault.kindName
  table t := (t.render columns).mapError MarkupFault.kindName

end GoFlow
