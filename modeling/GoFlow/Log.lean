import GoFlow.Json
import GoFlow.Log.Level
import GoFlow.Value.Literal

/-!
# Log lines

A record says what happened and with which fields. It is written as one line, either for people or
as JSON.

- `Record.toJson`: the fields in the order in which they came, then level, logger, time and event.
- `Record.toConsole`: time, level, event and logger, then the fields sorted by name, then stack and
  exception on lines of their own.
- `LogStyle.write`: the line of a record, unless its level is too low.
- `LogStyle.fault?`: why the fields of a record cannot be written.
-/

namespace GoFlow

namespace Fields

/-- The entries without the one under a key. -/
def erase (fields : Fields) (key : String) : Fields := fields.filter (·.1 != key)

/-- Puts an entry in its place by key. -/
def insertSorted (e : String × Value) : Fields → Fields
  | [] => [e]
  | f :: rest => if e.1 < f.1 then e :: f :: rest else f :: insertSorted e rest

/-- The entries by ascending key. -/
def sorted (fields : Fields) : Fields := fields.foldr insertSorted []

end Fields

/-- Something that happened. -/
structure Record where
  logger : String
  level : Level
  event : String
  fields : Fields := []
deriving Repr

/-- `text` with blanks behind it up to the width. -/
def padRight (width : Nat) (text : String) : String :=
  text ++ String.ofList (List.replicate (width - text.length) ' ')

namespace Record

/-- All entries of a record. An entry of the record itself takes the place of a field of the same
name. A wish for the stack or the exception of this moment is left out: there is none. -/
def entries (r : Record) (time : Option String) : Fields :=
  let fields := ((r.fields.set "event" (.str r.event)).set "level" (.str r.level.name)).set
    "logger" (.str r.logger)
  let fields := match time with
    | some t => fields.set "timestamp" (.str t)
    | none => fields
  (fields.erase "stack_info").erase "exc_info"

/-- The record as JSON, with the event as its message. -/
def toJson (r : Record) (time : Option String) : String :=
  Json.render (.dict (((r.entries time).erase "event").set "message" (.str r.event)))

/-- Whether a text on a line for people needs quotes. -/
def needsQuotes (s : String) : Bool :=
  s.toList.any fun c =>
    c == ' ' || c == '\t' || c == '=' || c == '\r' || c == '\n' || c == '"' || c == '\''

/-- A value on a line for people. -/
def consoleValue : Value → String
  | .str s => if needsQuotes s then quoted s else s
  | v => v.literal

/-- A value as it is, without quotes. -/
def bareValue : Value → String
  | .str s => s
  | v => v.literal

/-- An entry of a line for people. -/
def consoleEntry (key : String) (v : Value) : String := key ++ "=" ++ consoleValue v

/-- The entries that come first on a line for people, in this order, and how each is shown. -/
def leading : List (String × (Value → String)) :=
  [("", consoleEntry ""),
   ("timestamp", bareValue),
   ("level", fun v => "[" ++ padRight 9 (bareValue v) ++ "]"),
   ("event", fun v => padRight 30 (bareValue v)),
   ("logger", fun v => "[" ++ bareValue v ++ "]"),
   ("logger_name", fun v => "[" ++ bareValue v ++ "]")]

/-- The entries that have lines of their own, below the line for people. -/
def trailing : List String := ["stack", "exception"]

/-- The text under a key, unless it is null. -/
def textOf? (fields : Fields) (key : String) : Option String :=
  match fields.get? key with
  | none | some .null => none
  | some v => some (bareValue v)

/-- The field that keeps a record for people from being written: stack and exception are texts. -/
def untextual? (r : Record) : Option Value :=
  trailing.findSome? fun key =>
    match r.fields.get? key with
    | none | some .null | some (.str _) | some .torn => none
    | some v => some v

/-- The record for people. A time that came as a field is shown as the time. -/
def toConsole (r : Record) (time : Option String) : String :=
  let all := r.entries time
  let first := leading.filterMap fun (key, shown) => (all.get? key).map shown
  let rest := all.filter fun e => !(leading.any (·.1 == e.1) || trailing.contains e.1)
  let line := " ".intercalate
    ((first ++ (Fields.sorted rest).map fun e => consoleEntry e.1 e.2).filter (· != ""))
  let stack := textOf? all "stack"
  let fault := textOf? all "exception"
  line ++ (stack.map ("\n" ++ ·)).getD ""
    ++ (if stack.isSome && fault.isSome
      then "\n\n" ++ String.ofList (List.replicate 79 '=') ++ "\n" else "")
    ++ (fault.map ("\n" ++ ·)).getD ""

end Record

/-- The name of a logger; one without a name is the root of all (`get_logger`). -/
def loggerName (name : Option String) : String :=
  match name with
  | none | some "" => "root"
  | some s => s

/-- How a log is written (`setup_logging`). -/
structure LogStyle where
  /-- Least severity of a line. -/
  threshold : Nat
  /-- Whether lines are JSON. -/
  json : Bool
  /-- Whether lines tell the time. -/
  timed : Bool := true
deriving DecidableEq, Repr

namespace LogStyle

/-- The style for a level and a format by name. Any format but JSON is for people. -/
def ofNames (level format : String) (timed : Bool) : Except LevelFault LogStyle :=
  (Level.threshold level).map fun threshold => ⟨threshold, format == "json", timed⟩

/-- The line of a record, or nothing if its level is too low. -/
def write (style : LogStyle) (time : String) (r : Record) : String :=
  if r.level.severity < style.threshold then ""
  else
    let stamp := if style.timed then some time else none
    (if style.json then r.toJson stamp else r.toConsole stamp) ++ "\n"

/-- Why the fields of a record cannot be written. -/
inductive Fault where
  /-- A field that stands for another record, whose logger it should name, is none. -/
  | noRecord (v : Value)
  /-- A field with lines of its own is no text. -/
  | noText (v : Value)

/-- The fault that keeps a record from being written. -/
def fault? (style : LogStyle) (r : Record) : Option Fault :=
  if r.level.severity < style.threshold then none
  else
    match r.fields.get? "_record" with
    | none | some .null => if style.json then none else r.untextual?.map .noText
    | some v => some (.noRecord v)

end LogStyle

end GoFlow
