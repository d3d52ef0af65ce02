import GoFlow.Graph

/-!
# Tables of blocks

A graph as a table with a title: one row for each block.
-/

namespace GoFlow

/-- A column of a table: its heading, and whether its cells are moved to the right. -/
structure Column where
  heading : String
  toRight : Bool := false
deriving DecidableEq, Repr

/-- A table for a terminal. -/
structure Table where
  title : String
  columns : List Column
  /-- One cell for each column. -/
  rows : List (List String)
deriving DecidableEq, Repr

/-- The row of a block. -/
def Graph.summaryRow (g : Graph) (h : Handle) : List String :=
  match g.get? h with
  | none => []
  | some b =>
    [toString b.number, b.kind.name, toString b.endLine, b.owner,
     ", ".intercalate ((g.successors h).filterMap fun t => (g.get? t).map (toString ·.number))]

/-- The listed blocks as a table. -/
def Graph.summary (g : Graph) (title : String) (hs : List Handle) : Table where
  title
  columns := [⟨"#", true⟩, ⟨"Kind", false⟩, ⟨"EndLine", true⟩, ⟨"Function", false⟩,
    ⟨"Successors", false⟩]
  rows := hs.map g.summaryRow

end GoFlow
