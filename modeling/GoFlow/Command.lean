import GoFlow.Analysis
import GoFlow.Command.Summary
import GoFlow.Graph.Render
import GoFlow.Settings.Environment

/-!
# The command line

The program says what is printed and in which order. How words are told from options, and how texts
are laid out, is left to a terminal.

- `Terminal`, `World`: what the program works with.
- `Invocation.parse`: what the arguments ask for.
- `trials`: the analysis of each file in turn.
- `Invocation.run`: the exit code and the two outputs. Nothing is printed to the standard output
  unless every file has a graph.
-/

namespace GoFlow

/-- What is printed for each file. -/
inductive Command where
  /-- The blocks with their successors. -/
  | blocks
  /-- A table of the blocks. -/
  | summary
deriving DecidableEq, Repr

/-- The command of the name. -/
def Command.ofName? : String → Option Command
  | "blocks" => some .blocks
  | "summary" => some .summary
  | _ => none

/-- Options in front of the command. An empty one counts as not given. -/
structure LogOptions where
  level : String := ""
  format : String := ""
deriving DecidableEq, Repr

/-! ## Surroundings -/

/-- What takes a command line apart, and what prints. A text that cannot be printed gives the name
of a fault. -/
structure Terminal where
  /-- The options in front of the command, and the words from the command on. -/
  options : List String → Option (LogOptions × List String)
  /-- The words that name files, among those behind the command. -/
  files : List String → Option (List String)
  /-- A line as it is printed. -/
  echo : String → String
  /-- A text with markup as it is printed. -/
  print : String → Except String String
  /-- The lines of a table as they are printed. -/
  table : Table → Except String (List String)

/-- What the program works with. -/
structure World where
  frontEnd : FrontEnd
  languages : Languages := .go
  terminal : Terminal
  /-- What a path leads to. -/
  find : Path → Except FileFault Entry
  /-- Whether a word, taken as a path, leads to nothing or to something that may be read. -/
  mayRead : String → Bool
  sources : SettingsSources
  /-- The time on the lines of the log. -/
  time : String
  /-- The time that the walk of a file took. -/
  elapsed : Path → Duration

/-- The analysis of the file at a path. -/
def World.analyse (w : World) (settings : Settings) (p : Path) : Outcome Build :=
  analyseFile w.frontEnd w.languages settings.parsing p (w.find p)

/-! ## Trials -/

/-- The analysis of one file. -/
structure Trial where
  path : Path
  outcome : Outcome Build

/-- Lines as text. -/
def joinLines (ls : List String) : String := String.join (ls.map (· ++ "\n"))

/-- The report on a failure, as it is printed. It is markup. -/
def Terminal.complaint (terminal : Terminal) (p : Path) (f : Failure) : Except String String :=
  terminal.print ("[red]❌ " ++ p.render ++ ": " ++ f.message ++ "[/red]")

namespace Trial

/-- Whether the file has a graph. -/
def succeeded (t : Trial) : Bool := t.outcome.result.toBool

/-- The report on a failure that does not stop the program, and the name of the fault that
does: a text that cannot be read or written, or a report that cannot be printed. After any other
failure the next file is looked at. -/
def report (terminal : Terminal) (t : Trial) : String × Option String :=
  match t.outcome.result with
  | .ok _ => ("", none)
  | .error (.text fault) => ("", some fault.kindName)
  | .error f =>
    match terminal.complaint t.path f with
    | .ok text => (text, none)
    | .error fault => ("", some fault)

/-- Name of the fault that stops the program. -/
def stop? (terminal : Terminal) (t : Trial) : Option String := (t.report terminal).2

/-- The log of a file, then the report on its failure. -/
def errorText (w : World) (style : LogStyle) (t : Trial) : String :=
  String.join (t.outcome.events.map fun e => style.write w.time (e.record (w.elapsed t.path)))
    ++ (t.report w.terminal).1

/-- The lines on the graph of a file. -/
def lines (terminal : Terminal) (command : Command) (several : Bool) (t : Trial) :
    Except String (List String) :=
  match t.outcome.result with
  | .error _ => .ok []
  | .ok b =>
    match command with
    | .blocks =>
      let title := if several then ["# " ++ t.path.render] else []
      .ok ((title ++ b.graph.render b.listing).map terminal.echo)
    | .summary => terminal.table (b.graph.summary t.path.render b.listing)

end Trial

/-- Analyses files in turn, up to one that stops the program (`_analyze`). -/
def trials (terminal : Terminal) (analyse : Path → Outcome Build) : List Path → List Trial
  | [] => []
  | p :: rest =>
    let t : Trial := ⟨p, analyse p⟩
    t :: if (t.stop? terminal).isSome then [] else trials terminal analyse rest

/-! ## Runs -/

/-- How the program ended. -/
structure Exit where
  code : Nat
  out : String := ""
  err : String := ""
  /-- Name of the fault that stopped the program. -/
  fault : Option String := none
deriving DecidableEq, Repr

/-- The end of a program that could not make sense of its arguments. -/
def Exit.usage : Exit := { code := 2 }

/-- The end of a program that a fault stopped before its first file. -/
def Exit.stopped (fault : String) : Exit := { code := 1, fault := some fault }

/-- The end of a program that one of its files stopped before the first was tried: a name with the
character zero in it, or a file that is there and may not be read. The first of them decides. -/
def refusal? (mayRead : String → Bool) (names : List String) : Option Exit :=
  names.findSome? fun name =>
    if holdsZero name then some (.stopped FileFault.zeroCharacter.kindName)
    else if mayRead name then none
    else some .usage

/-- Prints texts in turn, up to one that cannot be printed. -/
def printAll : List (Except String (List String)) → String × Option String
  | [] => ("", none)
  | .error fault :: _ => ("", some fault)
  | .ok ls :: rest =>
    let (out, fault) := printAll rest
    (joinLines ls ++ out, fault)

/-- What a command line asks for. -/
structure Invocation where
  options : LogOptions := {}
  command : Command
  /-- The arguments of the command. -/
  arguments : List String
deriving DecidableEq, Repr

namespace Invocation

/-- What the arguments ask for, as far as the command. -/
def parse (terminal : Terminal) (words : List String) : Option Invocation := do
  let (options, rest) ← terminal.options words
  match rest with
  | [] => none
  | name :: arguments => return { options, command := ← Command.ofName? name, arguments }

/-- The style of the log: options come before settings. -/
def logStyle (i : Invocation) (settings : LogSettings) : Except LevelFault LogStyle :=
  LogStyle.ofNames (if i.options.level == "" then settings.level else i.options.level)
    (if i.options.format == "" then settings.format else i.options.format) true

/-- The end of the program after all its trials. -/
def conclude (i : Invocation) (w : World) (style : LogStyle) (several : Bool) (ts : List Trial) :
    Exit :=
  let err := String.join (ts.map (Trial.errorText w style))
  if ts.all Trial.succeeded then
    let (out, fault) := printAll (ts.map (Trial.lines w.terminal i.command several))
    { code := if fault.isSome then 1 else 0, out, err, fault }
  else { code := 1, err, fault := ts.findSome? (Trial.stop? w.terminal) }

/-- Runs the program. The settings are read, and the log is set up, before the arguments of the
command are looked at. -/
def run (i : Invocation) (w : World) : Exit :=
  match Settings.load w.sources with
  | .error fault => .stopped fault.kindName
  | .ok settings =>
    match i.logStyle settings.log, w.terminal.files i.arguments with
    | .error fault, _ => .stopped fault.kindName
    | _, none => .usage
    | .ok style, some names =>
      match refusal? w.mayRead names with
      | some exit => exit
      | none =>
        i.conclude w style (names.length > 1)
          (trials w.terminal (w.analyse settings) (names.map Path.ofString))

end Invocation

/-- The program from its arguments on. -/
def runCommand (words : List String) (w : World) : Exit :=
  match Invocation.parse w.terminal words with
  | none => .usage
  | some i => i.run w

end GoFlow
