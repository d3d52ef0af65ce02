import GoFlow.Graph

/-!
# The graph as text

Each block takes a line, and each of its successors an indented line below it, so that the text
has as many lines as the graph has blocks and edges.
-/

namespace GoFlow

namespace Block

/-- Kind, line and key of a block, as every line of a rendering ends. -/
def renderTail (b : Block) : String :=
  b.kind.name ++ " (EndLine: " ++ toString b.endLine ++ ") \x7b" ++ b.uid ++ "\x7d"

/-- The line of a block (`format_block`). -/
def render (b : Block) : String := toString b.number ++ ") " ++ b.renderTail

/-- The line of a block as a successor of another (`format_successor`). -/
def renderSuccessor (b : Block) : String := "\t-> (" ++ toString b.number ++ ") " ++ b.renderTail

end Block

namespace Graph

/-- The lines of one block: its own, then one for each successor. -/
def renderBlock (g : Graph) (h : Handle) : List String :=
  ((g.get? h).map Block.render).toList
    ++ (g.successors h).filterMap fun t => (g.get? t).map Block.renderSuccessor

/-- The lines of the listed blocks, in the order given (`render_blocks`). -/
def render (g : Graph) (hs : List Handle) : List String := hs.flatMap g.renderBlock

end Graph

end GoFlow
