import GoFlow.Block.Kind

/-!
# Basic blocks

A block holds the kind of its construct, the line the construct ends on, the function that owns
it, and its outgoing edges.

- `Handle`: how a graph tells its blocks apart.
- `Edge`: a target under the key that the target had when the edge was added.
- `Block.addEdge`: edges are kept by ascending key, one for each key.
-/

namespace GoFlow

/-- Tells the blocks of one graph apart: a registered block is known by its line, which it keeps
for good, and a loose one by its serial number. -/
inductive Handle where
  | line (l : Int)
  | loose (serial : Nat)
deriving DecidableEq, Repr

/-- An outgoing edge. The key is the one its target had when the edge was added; the target may
have turned into or out of a marker since. -/
structure Edge where
  key : Int
  target : Handle
deriving DecidableEq, Repr

/-- A node of the control-flow graph (`BasicBlock`). -/
structure Block where
  kind : BlockKind
  /-- Line on which the construct ends. -/
  endLine : Int
  /-- Rank in the listing of the graph, -1 before the first listing. -/
  number : Int := -1
  /-- Name of the function that holds the construct, empty outside functions. -/
  owner : String := ""
  /-- Outgoing edges by ascending key. -/
  edges : List Edge := []
  /-- Target of the edge added last. -/
  newest : Option Handle := none
deriving DecidableEq, Repr

/-- Puts an edge in its place by key. An edge under the same key gives way. -/
def insertEdge (e : Edge) : List Edge → List Edge
  | [] => [e]
  | f :: rest =>
    if e.key < f.key then e :: f :: rest
    else if e.key = f.key then e :: rest
    else f :: insertEdge e rest

namespace Block

/-- The order of blocks (`BasicBlock.key`): a marker comes at minus its ordinal, any other block at
its line. -/
def key (b : Block) : Int :=
  if b.kind.isMarker then -(b.kind.ordinal : Int) else b.endLine

/-- The key as text (`BasicBlock.uid`). -/
def uid (b : Block) : String := toString b.key

/-- The block in words. -/
def describe (b : Block) : String :=
  if b.kind.isMarker then b.kind.name
  else "BLOCK NR." ++ toString b.number ++ " (" ++ b.kind.name ++ ") (EndLine: "
    ++ toString b.endLine ++ ")"

/-- Links a block to a target with the given key (`add_successor`). -/
def addEdge (b : Block) (key : Int) (target : Handle) : Block :=
  { b with edges := insertEdge ⟨key, target⟩ b.edges, newest := some target }

/-- A newer construct on the same line takes the block over (`update_from`): the edges are gone,
line and number stay. -/
def overwrite (b : Block) (kind : BlockKind) (owner : String) : Block :=
  { b with kind, owner, edges := [], newest := none }

/-- Takes kind, owner and edges of another block; line and number stay (`update_from`). -/
def adopt (b other : Block) : Block :=
  { b with kind := other.kind, owner := other.owner, edges := other.edges, newest := other.newest }

/-- An anchor outside the source, for the two kinds that are one (`BasicBlock.marker`). -/
def marker? (kind : BlockKind) : Option Block :=
  if kind.isMarker then some { kind, endLine := 0 } else none

end Block

theorem mem_of_mem_insertEdge {e f : Edge} {es : List Edge} (h : f ∈ insertEdge e es) :
    f = e ∨ f ∈ es := by
  induction es with
  | nil => simpa [insertEdge] using h
  | cons g rest ih =>
    unfold insertEdge at h
    grind

/-- Edges stay in strictly ascending order of their keys. -/
theorem insertEdge_pairwise (e : Edge) {es : List Edge}
    (h : es.Pairwise (·.key < ·.key)) : (insertEdge e es).Pairwise (·.key < ·.key) := by
  induction es with
  | nil => simp [insertEdge]
  | cons f rest ih =>
    obtain ⟨hf, hrest⟩ := List.pairwise_cons.1 h
    unfold insertEdge
    split
    · -- in front of everything
      refine List.pairwise_cons.2 ⟨fun g hg => ?_, h⟩
      rcases List.mem_cons.1 hg with rfl | hg
      · assumption
      · have := hf g hg; omega
    · split
      · -- in place of the edge under the same key
        exact List.pairwise_cons.2 ⟨fun g hg => by have := hf g hg; omega, hrest⟩
      · -- further down
        refine List.pairwise_cons.2 ⟨fun g hg => ?_, ih hrest⟩
        rcases mem_of_mem_insertEdge hg with rfl | hg
        · omega
        · exact hf g hg

end GoFlow
