import GoFlow.Block

/-!
# Graphs of basic blocks

A graph holds one registered block for each line that a construct ended on, and any number of
loose blocks beside them.

- `Graph.register`: a line keeps its block for good; a newer construct on the line takes the block
  over and drops its edges, while edges that lead to it stay.
- `Graph.link`, `Graph.adopt`: the other changes to a single block.
- `Graph.listing`, `Graph.numbered`: the registered blocks by ascending key, and their ranks.
- `Graph.linkFallthrough`: the default edge from each block to the one below it.
-/

namespace GoFlow

/-- Puts an item in front of the first item whose key is not smaller. -/
def insertByKey {α : Type} (x : Int × α) : List (Int × α) → List (Int × α)
  | [] => [x]
  | y :: rest => if x.1 ≤ y.1 then x :: y :: rest else y :: insertByKey x rest

/-- Sorts by ascending key. Items with equal keys keep their order. -/
def sortByKey {α : Type} (xs : List (Int × α)) : List (Int × α) :=
  xs.foldr insertByKey []

/-- The blocks of one compilation unit (`BlockRegistry`). -/
structure Graph where
  /-- Registered blocks by line, in order of first registration. -/
  lines : List (Int × Block) := []
  /-- Loose blocks by serial number. -/
  loose : List Block := []
  /-- Line of the latest registration. -/
  newest : Option Int := none
deriving DecidableEq, Repr

namespace Graph

/-- The block a handle stands for (`BlockRegistry.get`). -/
def get? (g : Graph) : Handle → Option Block
  | .line l => g.lines.lookup l
  | .loose n => g.loose[n]?

/-- The number of registered lines. -/
def size (g : Graph) : Nat := g.lines.length

/-- Whether a construct was registered on the line. -/
def contains (g : Graph) (line : Int) : Bool := (g.get? (.line line)).isSome

/-- Kind of a block. -/
def kind? (g : Graph) (h : Handle) : Option BlockKind := (g.get? h).map Block.kind

/-- Key of a block, zero for a handle of no block. -/
def keyOf (g : Graph) (h : Handle) : Int := (g.get? h).elim 0 Block.key

/-- Targets of a block's edges, by ascending key at the time each edge was added
(`BasicBlock.successors`). -/
def successors (g : Graph) (h : Handle) : List Handle :=
  (g.get? h).elim [] fun b => b.edges.map Edge.target

/-- Whether some edge of the block leads to a block of the kind (`has_successor_of_kind`). -/
def hasSuccessorOfKind (g : Graph) (h : Handle) (kind : BlockKind) : Bool :=
  (g.successors h).any fun t => g.kind? t == some kind

/-- Number of edges that leave the listed blocks (`count_edges`). -/
def edgeCount (g : Graph) (hs : List Handle) : Nat :=
  hs.foldr (fun h n => (g.successors h).length + n) 0

/-! ## Changes to single blocks -/

/-- Changes one block in place. -/
def modify (g : Graph) (h : Handle) (f : Block → Block) : Graph :=
  match h with
  | .line l => { g with lines := g.lines.map fun (k, b) => if k = l then (k, f b) else (k, b) }
  | .loose n => { g with loose := g.loose.modify n f }

/-- Registers a construct that ends on the line (`get_or_create`). A block already there is taken
over in place. -/
def register (g : Graph) (line : Int) (kind : BlockKind) (owner : String) : Graph :=
  if g.contains line then
    { g.modify (.line line) (·.overwrite kind owner) with newest := some line }
  else
    { g with lines := g.lines ++ [(line, { kind, endLine := line, owner })], newest := some line }

/-- Registers a construct that ends on the line, and says how its block is known (`get_or_create`):
by the line under which it was found, or else by the one under which it was put. -/
def getOrCreate (g : Graph) (line : Int) (kind : BlockKind) (owner : String) : Graph × Handle :=
  match g.lines.find? (line == ·.1) with
  | some (found, _) =>
    ({ g.modify (.line found) (·.overwrite kind owner) with newest := some found }, .line found)
  | none =>
    ({ g with lines := g.lines ++ [(line, { kind, endLine := line, owner })], newest := some line },
      .line line)

/-- Both ways to register a construct leave the same graph, and any construct on a line has the
handle of the line. -/
theorem getOrCreate_eq (g : Graph) (line : Int) (kind : BlockKind) (owner : String) :
    g.getOrCreate line kind owner = (g.register line kind owner, .line line) := by
  have hcontains : g.contains line = (g.lines.find? (line == ·.1)).isSome := by
    unfold contains get?
    dsimp only
    generalize g.lines = ls
    induction ls with
    | nil => rfl
    | cons e rest ih =>
      rw [List.lookup_cons, List.find?_cons]
      split
      next => simp
      next => simp [ih]
  unfold getOrCreate register
  rw [hcontains]
  cases hfind : g.lines.find? (line == ·.1) with
  | none => rfl
  | some e =>
    obtain ⟨found, b⟩ := e
    have hfound : line = found := by simpa using List.find?_some hfind
    subst hfound
    rfl

/-- Adds a loose block and says how it is known. -/
def addLoose (g : Graph) (b : Block) : Graph × Handle :=
  ({ g with loose := g.loose ++ [b] }, .loose g.loose.length)

/-- Adds an edge, keyed by what the target is now (`add_successor`). -/
def link (g : Graph) (source target : Handle) : Graph :=
  match g.get? target with
  | some b => g.modify source (·.addEdge b.key target)
  | none => g

/-- Lets a block take kind, owner and edges of another (`update_from`). -/
def adopt (g : Graph) (h other : Handle) : Graph :=
  match g.get? other with
  | some b => g.modify h (·.adopt b)
  | none => g

/-! ## The graph as a list -/

/-- Blocks by ascending key; blocks with equal keys keep their order (`sort_blocks`). -/
def sort (g : Graph) (hs : List Handle) : List Handle :=
  (sortByKey (hs.map fun h => (g.keyOf h, h))).map Prod.snd

/-- The registered blocks by ascending key. -/
def listing (g : Graph) : List Handle :=
  g.sort (g.lines.map fun e => .line e.1)

/-- Numbers the listed blocks from `i` on. -/
def numberFrom (g : Graph) (i : Nat) : List Handle → Graph
  | [] => g
  | h :: hs => (g.modify h ({ · with number := i })).numberFrom (i + 1) hs

/-- Gives every registered block its rank in the listing (`finalize`). -/
def numbered (g : Graph) : Graph := g.numberFrom 0 g.listing

/-- Adds the default edge from each listed block to the next, for kinds that fall through
(`link_fallthrough`). -/
def linkFallthrough (g : Graph) : List Handle → Graph
  | h :: next :: rest =>
    let g' := if (g.kind? h).any BlockKind.fallsThrough then g.link h next else g
    g'.linkFallthrough (next :: rest)
  | _ => g

end Graph

end GoFlow
