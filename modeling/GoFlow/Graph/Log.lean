import GoFlow.Graph.Render
import GoFlow.Log

/-!
# Graphs in a log
-/

namespace GoFlow

/-- The lines of the listed blocks as records without fields (`log_blocks`). -/
def Graph.logRecords (g : Graph) (logger : Option String) (hs : List Handle) : List Record :=
  (g.render hs).map fun line => ⟨loggerName logger, .info, line, []⟩

end GoFlow
