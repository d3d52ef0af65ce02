import GoFlow.Clock
import GoFlow.Command.Terminal
import GoFlow.Go.FrontEnd

/-!
# The program

Reads the files that the arguments name and the variables that hold settings, runs the command, and
prints what it says.
-/

namespace GoFlow

/-! ## Files -/

/-- The number that the system has for a fault. It may come with its sign turned. -/
def systemCode (code : UInt32) : Nat :=
  if code < 0x80000000 then code.toNat else (0 - code).toNat

/-- The fault that reading a path ended in. -/
def FileFault.ofError (p : Path) : IO.Error → FileFault
  | .noFileOrDirectory _ _ _ => .missing p
  | .permissionDenied _ _ _ => .denied p
  | .inappropriateType _ code _ =>
    if systemCode code == 21 then .isDirectory p else .notDirectory p
  | .invalidArgument _ code words =>
    if systemCode code == 36 then .nameTooLong p else .other (systemCode code) words p
  | .resourceExhausted _ code words | .noSuchThing _ code words | .hardwareFault code words
  | .otherError code words => .other (systemCode code) words p
  | _ => .other 5 "Input/output error" p

/-- The bytes at a path. -/
def readBytes (p : Path) (text : String) : IO (Except FileFault (List UInt8)) := do
  if holdsZero text then return .error .zeroCharacter
  try
    return .ok (← IO.FS.readBinFile text).toList
  catch e => return .error (.ofError p e)

/-- What a path leads to on this machine. -/
def readEntry (p : Path) : IO (Except FileFault Entry) := do
  match ← readBytes p p.render with
  | .ok bytes => return .ok (.file bytes)
  | .error (.isDirectory _) => return .ok .directory
  | .error (.denied _) =>
    -- what is in a directory that may be entered is there, though it may not be read
    match ← readBytes p (p.render ++ "/..") with
    | .error (.denied _) => return .error (.denied p)
    | _ => return .ok (.locked 0)
  | .error fault => return .error fault

/-! ## Settings -/

/-- The variables that hold settings: one for each section, and one for each setting. -/
def settingVariables : List String :=
  sectionNames.flatMap fun s =>
    ("gocfg_" ++ s.name) :: s.settings.map fun setting => "gocfg_" ++ s.name ++ "__" ++ setting

/-- The variables that are set, in lower or upper case. -/
def readVariables : IO (List (String × String)) := do
  let names := settingVariables.flatMap fun name => [name, name.toUpper]
  names.filterMapM fun name => do return (← IO.getEnv name).map (name, ·)

/-- The bytes of the settings file in the working directory. -/
def readSettingsFile : IO (Option (List UInt8)) := do
  match ← readEntry (Path.ofString ".env") with
  | .ok (.file bytes) => return some bytes
  | _ => return none

/-- The columns of the terminal: what a variable says, or else eighty. -/
def readWidth : IO Nat := do
  return ((← IO.getEnv "COLUMNS").bind String.toNat?).getD 80

/-! ## Time -/

/-- The second in which the machine was started, counted from the start of 1970. -/
def readBootTime : IO Nat := do
  let isBootTime (words : List String) : Option Nat :=
    match words with
    | ["btime", seconds] => seconds.toNat?
    | _ => none
  try
    let lines := (← IO.FS.readFile "/proc/stat").splitOn "\n"
    return (lines.findSome? fun l => isBootTime (l.splitOn " ")).getD 0
  catch _ => return 0

/-- The time in microseconds since the start of 1970. -/
def readClock : IO Nat := do
  return (← readBootTime) * 1000000 + (← IO.monoNanosNow) / 1000

/-- A reading of the clock that walks are timed with, in seconds. -/
def readSeconds : IO Binary64 := do
  return .nearest false (← IO.monoNanosNow) 1000000000

/-- The time that the walk of a file takes, if it comes to one. -/
def timeWalk (w : World) (settings : Settings) (p : Path) : IO Duration := do
  let parsed : Except Failure (Source × Node) := do
    let entry ← (w.find p).mapError .file
    let source ← Source.ofFile p entry none settings.parsing.encoding
    return (source, ← (source.parse w.frontEnd w.languages).result)
  match parsed with
  | .error _ => return .zero
  | .ok (source, root) =>
    let start ← readSeconds
    let _ ← IO.lazyPure fun _ => (source.buildGraph root).events.length
    return .between start (← readSeconds)

/-- The words that name files, as far as the arguments can be read. -/
def namedFiles (terminal : Terminal) (words : List String) : List String :=
  ((Invocation.parse terminal words).bind fun i => terminal.files i.arguments).getD []

end GoFlow

open GoFlow in
/-- Runs the command line. -/
def main (words : List String) : IO UInt32 := do
  let terminal := Terminal.ofWidth (← readWidth)
  let paths := (namedFiles terminal words).map Path.ofString
  let entries ← paths.mapM fun p => do return (p, ← readEntry p)
  let find := fun p => (entries.lookup p).getD (.error (.missing p))
  let w : World :=
    { frontEnd := Go.frontEnd
      terminal
      find
      mayRead := isReadable find
      sources := { environment := ← readVariables, dotenv := ← readSettingsFile }
      time := isoTime (← readClock)
      elapsed := fun _ => .zero }
  let settings := (Settings.load w.sources).toOption.getD {}
  let times ← paths.mapM fun p => do return (p, ← timeWalk w settings p)
  let exit := runCommand words { w with elapsed := fun p => (times.lookup p).getD .zero }
  IO.print exit.out
  IO.eprint exit.err
  return exit.code.toUInt32
