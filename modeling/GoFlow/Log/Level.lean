import GoFlow.Text.Upper

/-!
# Levels of a log
-/

namespace GoFlow

/-- How much a log line matters. -/
inductive Level where
  | debug
  | info
  | warning
  | error
  | critical
deriving DecidableEq, Repr

namespace Level

/-- The name on a log line. -/
def name : Level → String
  | .debug => "debug"
  | .info => "info"
  | .warning => "warning"
  | .error => "error"
  | .critical => "critical"

/-- All levels, the least first. -/
def all : List Level := [.debug, .info, .warning, .error, .critical]

/-- The level of the name. Some levels have a second name, and an exception is an error. -/
def ofName? (s : String) : Option Level :=
  match s with
  | "warn" => some .warning
  | "fatal" => some .critical
  | "exception" => some .error
  | s => all.find? (·.name == s)

/-- The number that levels are compared by. -/
def severity : Level → Nat
  | .debug => 10
  | .info => 20
  | .warning => 30
  | .error => 40
  | .critical => 50

end Level

/-- Why a name cannot be the level of a log: it is taken for something that is no level. -/
inductive LevelFault where
  /-- The name of the usual layout of a line. -/
  | layout
  /-- The name of the table of layouts. -/
  | layouts
deriving DecidableEq, Repr

namespace LevelFault

/-- The name under which reports list the fault. -/
def kindName : LevelFault → String
  | .layout => "ValueError"
  | .layouts => "TypeError"

/-- The fault in words. -/
def message : LevelFault → String
  | .layout => "Unknown level: '%(levelname)s:%(name)s:%(message)s'"
  | .layouts =>
    "Level not an integer or a valid string: \x7b'%': (<class 'logging.PercentStyle'>, "
      ++ "'%(levelname)s:%(name)s:%(message)s'), "
      ++ "'\x7b': (<class 'logging.StrFormatStyle'>, '\x7blevelname\x7d:\x7bname\x7d:"
      ++ "\x7bmessage\x7d'), '$': (<class 'logging.StringTemplateStyle'>, "
      ++ "'$\x7blevelname\x7d:$\x7bname\x7d:$\x7bmessage\x7d')\x7d"

end LevelFault

/-- The least severity that a log with the given level lets through. Case does not count, some
levels have a second name, one name lets everything through, and any name without a meaning is
`info`. -/
def Level.threshold (s : String) : Except LevelFault Nat :=
  match upperText s with
  | "NOTSET" => .ok 0
  | "DEBUG" => .ok 10
  | "WARNING" | "WARN" => .ok 30
  | "ERROR" => .ok 40
  | "CRITICAL" | "FATAL" => .ok 50
  | "BASIC_FORMAT" => .error .layout
  | "_STYLES" => .error .layouts
  | _ => .ok 20

end GoFlow
