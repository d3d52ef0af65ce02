import GoFlow.Duration
import GoFlow.Log
import GoFlow.Report
import GoFlow.Walk

/-!
# Events

What an analysis reports while it runs, and how each event is logged.
-/

namespace GoFlow

/-- Something that an analysis reports. -/
inductive Event where
  /-- The grammar of a language is there. -/
  | languageLoaded (language : String) (aliases : List String)
  /-- The grammar of a language could not be loaded. -/
  | languageUnavailable (language : String) (reason : String)
  /-- The source is no Go in some places. -/
  | parseFailed (file : String) (places : List (Int × Int))
  /-- The walk of a function is complete. -/
  | functionWalked (progress : Progress)
  /-- The walk of a file is over, perhaps because of a fault. -/
  | walkEnded (file : String) (fault : Option String)
  /-- The graph of a file is complete. -/
  | graphBuilt (file : String) (blocks edges : Nat)
deriving DecidableEq, Repr

/-- The record of an operation that took some time (`log_performance`): a warning if it was slow. -/
def timingRecord (logger operation : String) (elapsed : Duration) (extra : Fields) : Record :=
  let fields : Fields :=
    Fields.setAll [("operation", .str operation), ("duration_ms", .real elapsed.rounded)] extra
  if elapsed.isSlow then
    ⟨logger, .warning, "slow_operation", fields.set "slow" (.bool true)⟩
  else ⟨logger, .debug, "operation_complete", fields⟩

/-- The further fields of an operation that may have ended in a fault (`LogPerformance`). -/
def timingExtra (extra : Fields) (fault : Option String) : Fields :=
  match fault with
  | some name => extra.set "error_type" (.str name)
  | none => extra

namespace Event

/-- The record of an event. `elapsed` is the time that the walk took. -/
def record (elapsed : Duration) : Event → Record
  | .languageLoaded language aliases =>
    ⟨"gocfg.parsing", .debug, "language_loaded",
      [("language", .str language), ("aliases", .list (aliases.map .str))]⟩
  | .languageUnavailable language reason =>
    ⟨"gocfg.parsing", .warning, "language_unavailable",
      [("language", .str language), ("error", .str reason)]⟩
  | .parseFailed file places =>
    ⟨"gocfg.parsing.ast_tree", .warning, "parse_failed",
      [("file", .str file), ("errors", Report.places places)]⟩
  | .functionWalked p =>
    ⟨"gocfg.bblock.builder", .debug, "function_walked",
      [("function", .str p.function), ("line", .int p.line), ("blocks", .int p.blocks)]⟩
  | .walkEnded file fault =>
    timingRecord "gocfg.bblock.pipeline" "cfg_build" elapsed
      (timingExtra [("file", .str file)] fault)
  | .graphBuilt file blocks edges =>
    ⟨"gocfg.bblock.pipeline", .info, "cfg_built",
      [("file", .str file), ("blocks", .int blocks), ("edges", .int edges)]⟩

end Event

end GoFlow
