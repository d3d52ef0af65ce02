import GoFlow.Proofs.Integrity
import GoFlow.Proofs.Ranks

/-!
# The fall-through pass

The pass over a list of blocks draws an edge from each block that falls through to the next of the
list. The list may name a block more than once, and different blocks may have the same key, so that
an edge of the pass may give way to a later one.

- `Block.addEdges`: edges added one after the other. Adding them all once more changes nothing
  (`Block.addEdges_addEdges`), as of the edges under one key the last one wins both times.
- `Graph.defaultEdges`: the edges that the pass draws from one block.
- `Graph.linkFallthrough_eq`: the pass adds these edges to every block and does nothing else.
- `Build.FallsThrough`: what the pass adds to the graph that a walk leaves.
-/

namespace GoFlow

/-! ## Edges added one after the other -/

/-- Of two edges under one key the later one stays. -/
theorem insertEdge_insertEdge {e f : Edge} (h : e.key = f.key) (es : List Edge) :
    insertEdge e (insertEdge f es) = insertEdge e es := by
  induction es with
  | nil => simp [insertEdge, h]
  | cons g rest ih =>
    simp only [insertEdge]
    grind [insertEdge]

/-- Edges under different keys may be added in either order. -/
theorem insertEdge_comm {e f : Edge} (h : e.key ≠ f.key) (es : List Edge) :
    insertEdge e (insertEdge f es) = insertEdge f (insertEdge e es) := by
  induction es with
  | nil =>
    simp only [insertEdge]
    grind
  | cons g rest ih =>
    simp only [insertEdge]
    grind [insertEdge]

/-- Puts edges in their places, from left to right. -/
def insertEdges (new es : List Edge) : List Edge := new.foldl (fun es e => insertEdge e es) es

theorem insertEdges_append (new more es : List Edge) :
    insertEdges (new ++ more) es = insertEdges more (insertEdges new es) := List.foldl_append

/-- An edge that is added again later need not be added now. -/
theorem insertEdge_insertEdges_insertEdge (e : Edge) (new : List Edge) :
    ∀ es, insertEdge e (insertEdges new (insertEdge e es)) = insertEdge e (insertEdges new es) := by
  induction new with
  | nil => exact insertEdge_insertEdge rfl
  | cons f new ih =>
    intro es
    show insertEdge e (insertEdges new (insertEdge f (insertEdge e es)))
      = insertEdge e (insertEdges new (insertEdge f es))
    by_cases hkey : e.key = f.key
    · -- it gives way to an edge under its key before it is added again
      rw [insertEdge_insertEdge hkey.symm]
    · rw [insertEdge_comm (Ne.symm hkey), ih]

/-- **The last edge under a key wins**, also if all edges are added a second time. By induction on
the number of edges, from the last one on: it is added at the end of both rounds. -/
theorem insertEdges_insertEdges (new es : List Edge) :
    insertEdges new (insertEdges new es) = insertEdges new es := by
  induction hlength : new.length generalizing new with
  | zero =>
    rw [List.length_eq_zero_iff.1 hlength]
    rfl
  | succ n ih =>
    obtain ⟨init, e, rfl⟩ : ∃ init e, new = init ++ [e] :=
      ⟨_, _, (List.dropLast_append_getLast (List.ne_nil_of_length_eq_add_one hlength)).symm⟩
    have hinit : init.length = n := by simpa using hlength
    rw [insertEdges_append, insertEdges_append]
    show insertEdge e (insertEdges init (insertEdge e (insertEdges init es)))
      = insertEdge e (insertEdges init es)
    rw [insertEdge_insertEdges_insertEdge, ih init hinit]

namespace Block

/-- Adds edges from left to right. -/
def addEdges (b : Block) (new : List Edge) : Block :=
  new.foldl (fun b e => b.addEdge e.key e.target) b

theorem addEdges_append (b : Block) (new more : List Edge) :
    b.addEdges (new ++ more) = (b.addEdges new).addEdges more := List.foldl_append

/-- The edges are put in their places, the last of them becomes the newest, and nothing else
changes. -/
theorem addEdges_eq (new : List Edge) :
    ∀ b : Block, b.addEdges new
      = { b with
          edges := insertEdges new b.edges
          newest := (new.getLast?.map Edge.target).or b.newest } := by
  induction new with
  | nil => exact fun b => rfl
  | cons e new ih =>
    intro b
    show (b.addEdge e.key e.target).addEdges new = _
    rw [ih, List.getLast?_cons]
    cases new.getLast? <;> rfl

/-- A second round of the same edges changes nothing. -/
theorem addEdges_addEdges (b : Block) (new : List Edge) :
    (b.addEdges new).addEdges new = b.addEdges new := by
  rw [addEdges_eq new (b.addEdges new), addEdges_eq new b, insertEdges_insertEdges]
  cases new.getLast? <;> rfl

@[simp] theorem kind_addEdges (b : Block) (new : List Edge) :
    (b.addEdges new).kind = b.kind := by
  rw [addEdges_eq]

@[simp] theorem key_addEdges (b : Block) (new : List Edge) : (b.addEdges new).key = b.key := by
  rw [addEdges_eq]
  rfl

end Block

/-! ## The pass over any list -/

namespace Graph

/-- The edge that the pass draws from a block to the next of the list, if it does. -/
def defaultEdge (g : Graph) (h next : Handle) : List Edge :=
  if (g.kind? h).any BlockKind.fallsThrough then
    ((g.get? next).map fun b => (⟨b.key, next⟩ : Edge)).toList
  else []

/-- The edges that the pass over a list draws from a block, from first to last: one for each place
of the list where the block stands. -/
def defaultEdges (g : Graph) (h : Handle) : List Handle → List Edge
  | a :: next :: rest =>
    (if h = a then g.defaultEdge a next else []) ++ g.defaultEdges h (next :: rest)
  | _ => []

/-- One step of the pass adds an edge to one block. -/
theorem step_eq_mapBlocks (g : Graph) (a next : Handle) :
    (if (g.kind? a).any BlockKind.fallsThrough then g.link a next else g)
      = g.mapBlocks fun h b => b.addEdges (if h = a then g.defaultEdge a next else []) := by
  have hidle : g = g.mapBlocks fun h b => b.addEdges (if h = a then [] else []) := by
    simp only [ite_self]
    exact g.mapBlocks_id.symm
  by_cases hany : (g.kind? a).any BlockKind.fallsThrough
  · rw [if_pos hany, defaultEdge, if_pos hany, link]
    cases g.get? next with
    | none => exact hidle
    | some x =>
      show g.modify a (·.addEdge x.key next) = _
      rw [modify_eq_mapBlocks]
      congr 1
      funext h b
      by_cases hh : h = a
      · rw [if_pos hh, if_pos hh]
        rfl
      · rw [if_neg hh, if_neg hh]
        rfl
  · rw [if_neg hany, defaultEdge, if_neg hany]
    exact hidle

/-- Edges change neither kinds nor keys, so the pass draws the same edges behind them. -/
theorem defaultEdges_mapBlocks (g : Graph) (new : Handle → List Edge) (h : Handle)
    (hs : List Handle) :
    (g.mapBlocks fun k b => b.addEdges (new k)).defaultEdges h hs = g.defaultEdges h hs := by
  have hedge : ∀ a next, (g.mapBlocks fun k b => b.addEdges (new k)).defaultEdge a next
      = g.defaultEdge a next := by
    intro a next
    unfold defaultEdge kind?
    rw [get?_mapBlocks, get?_mapBlocks, Option.map_map, Option.map_map]
    simp only [Function.comp_def, Block.kind_addEdges, Block.key_addEdges]
  induction hs with
  | nil => rfl
  | cons a rest ih =>
    cases rest with
    | nil => rfl
    | cons next rest => rw [defaultEdges, defaultEdges, hedge, ih]

/-- **The pass over any list** adds to every block its default edges, from first to last. -/
theorem linkFallthrough_eq (hs : List Handle) :
    ∀ g : Graph, g.linkFallthrough hs
      = g.mapBlocks fun h b => b.addEdges (g.defaultEdges h hs) := by
  induction hs with
  | nil => exact fun g => g.mapBlocks_id.symm
  | cons a rest ih =>
    intro g
    cases rest with
    | nil => exact g.mapBlocks_id.symm
    | cons next rest =>
      rw [linkFallthrough, step_eq_mapBlocks, ih, mapBlocks_mapBlocks]
      congr 1
      funext h b
      rw [defaultEdges_mapBlocks, ← Block.addEdges_append, ← defaultEdges]

/-- A second pass draws the edges of the first, which are there. -/
theorem linkFallthrough_linkFallthrough (g : Graph) (hs : List Handle) :
    (g.linkFallthrough hs).linkFallthrough hs = g.linkFallthrough hs := by
  rw [linkFallthrough_eq hs (g.linkFallthrough hs), linkFallthrough_eq hs g, mapBlocks_mapBlocks]
  congr 1
  funext h b
  rw [defaultEdges_mapBlocks, Block.addEdges_addEdges]

end Graph

/-- An entry and two returns on one line. The entry stands twice in the list, in front of either
return, and the edge to the second takes the place of the edge to the first. -/
example :
    let g : Graph := { loose := [⟨.functionEntry, 1, 0, "f", [], none⟩,
      ⟨.returnStatement, 4, 1, "f", [], none⟩, ⟨.returnStatement, 4, 2, "f", [], none⟩] }
    (g.linkFallthrough [.loose 0, .loose 1, .loose 0, .loose 2]).successors (.loose 0)
      = [.loose 2] := by
  decide

/-! ## The pass behind a walk -/

/-- In a list without repetitions, what follows an element is the next one. -/
theorem following_getElem? {ls : List Int} (hls : ls.Nodup) {i : Nat} {l : Int}
    (hl : ls[i]? = some l) : following ls l = ls[i + 1]? := by
  obtain ⟨hi, rfl⟩ := List.getElem?_eq_some_iff.1 hl
  have hsplit : ls = ls.take i ++ ls[i] :: ls.drop (i + 1) := by
    rw [List.getElem_cons_drop, List.take_append_drop]
  have hfirst : ls[i] ∉ ls.take i := by
    intro hmem
    rw [hsplit, List.nodup_append] at hls
    exact hls.2.2 _ hmem _ List.mem_cons_self rfl
  calc following ls ls[i]
      = following (ls.take i ++ ls[i] :: ls.drop (i + 1)) ls[i] := by rw [← hsplit]
    _ = (ls.drop (i + 1)).head? := following_append hfirst
    _ = ls[i + 1]? := List.head?_drop

namespace Graph

/-- The line on which a block ends. -/
def lineOf? (g : Graph) (h : Handle) : Option Int := (g.get? h).map Block.endLine

/-- The lines that the edges of a block lead to. -/
def successorLines (g : Graph) (h : Handle) : List Int := (g.successors h).filterMap g.lineOf?

variable {g : Graph}

/-- In a sound graph, the block of a line ends on that line. -/
theorem Sound.lineOf? (hg : g.Sound) {l : Int} (hl : g.contains l) :
    g.lineOf? (.line l) = some l := by
  obtain ⟨b, hb⟩ := contains_iff.1 hl
  rw [Graph.lineOf?, hb, Option.map_some, (hg.block hb).endLine]

/-- In a sound graph, the lines that a block leads to are the keys of its edges. -/
theorem Sound.mem_successorLines (hg : g.Sound) {l t : Int} {b : Block}
    (hb : g.get? (.line l) = some b) : t ∈ g.successorLines (.line l) ↔ b.LeadsTo t := by
  have hblock := hg.block hb
  have htarget : ∀ {m : Int}, b.LeadsTo m → g.contains m := fun h => (hblock.edges _ h).2
  rw [successorLines, successors, hb, Option.elim_some, List.mem_filterMap]
  constructor
  · rintro ⟨h, hmem, hline⟩
    obtain ⟨m, rfl, hm⟩ := hblock.mem_targets_iff.1 hmem
    rw [hg.lineOf? (htarget hm)] at hline
    exact Option.some.inj hline ▸ hm
  · intro ht
    exact ⟨.line t, hblock.leadsTo_iff.1 ht, hg.lineOf? (htarget ht)⟩

end Graph

namespace Build

/-- What the pass adds to the graph that a walk leaves, once the blocks have their ranks. -/
structure FallsThrough (b : Build) (w : Walk) : Prop where
  /-- The pass goes over the listing of the walk. -/
  listing_eq : b.listing = w.graph.listing
  /-- A block leads where it led behind the walk, and to the next block of the listing if there is
  one and the block falls through. -/
  successors : ∀ i h, b.listing[i]? = some h → ∀ l, l ∈ b.graph.successorLines h ↔
    l ∈ w.graph.successorLines h ∨
      ((w.graph.kind? h).any BlockKind.fallsThrough ∧
        b.listing[i + 1]?.bind w.graph.lineOf? = some l)
  /-- Kinds, lines, owners and numbers are those from before the pass. -/
  keeps : ∀ h, (b.graph.get? h).map (fun x => (x.kind, x.endLine, x.owner, x.number))
    = (w.graph.numbered.get? h).map fun x => (x.kind, x.endLine, x.owner, x.number)

/-- A block keeps kind, line, owner and number when edges are added to it. -/
theorem keeps_linkFallthrough (g : Graph) (hs : List Handle) (h : Handle) :
    ((g.linkFallthrough hs).get? h).map (fun x => (x.kind, x.endLine, x.owner, x.number))
      = (g.get? h).map fun x => (x.kind, x.endLine, x.owner, x.number) := by
  rw [Graph.linkFallthrough_eq, Graph.get?_mapBlocks, Option.map_map]
  simp only [Function.comp_def, Block.addEdges_eq]

/-- **The pass over the listing** adds the default edges of a finished walk, and no others. -/
theorem fallsThrough_finish {w : Walk} {ls : List Int} (h : w.finish.Finishes w.graph ls) :
    w.finish.FallsThrough w where
  listing_eq := rfl
  keeps := keeps_linkFallthrough w.graph.numbered w.graph.listing
  successors i hd hi t := by
    have hline : ∀ {j k}, ls[j]? = some k → w.graph.contains k :=
      fun hj => (h.mem_lines _).1 (List.mem_of_getElem? hj)
    rw [h.listing_eq, List.getElem?_map] at hi ⊢
    obtain ⟨l, hl, rfl⟩ := Option.map_eq_some_iff.1 hi
    obtain ⟨x, hx, hx'⟩ := h.exists_block (List.mem_of_getElem? hl)
    have hnext : (ls[i + 1]?.map Handle.line).bind w.graph.lineOf? = ls[i + 1]? := by
      cases hm : ls[i + 1]? with
      | none => rfl
      | some m => exact h.walked.lineOf? (hline hm)
    rw [h.sound.mem_successorLines hx', h.walked.mem_successorLines hx, Block.leadsTo_fallInto,
      following_getElem? h.ascending.nodup hl, hnext, Graph.kind?, hx, or_comm]
    rfl

end Build

/-- **The pass is exact and idempotent**: behind any build, a block leads to the lines that it led
to at the end of the walk and, if it falls through, to the line of the block listed below it; kinds,
owners and numbers are as they were. A second pass over the same list, whatever the graph and the
list, changes no block. -/
theorem fallthrough_exact {ε : Type} {decode : List UInt8 → Except ε String} {root : Node}
    {start : Graph} {b : Build} (hstart : start.Grown) (hb : build decode root start = .ok b) :
    (∃ w, Walk.items decode (Outline.inside root.children) { graph := start } = .ok w ∧
      b.FallsThrough w) ∧
      ∀ (g : Graph) (hs : List Handle),
        (g.linkFallthrough hs).linkFallthrough hs = g.linkFallthrough hs := by
  refine ⟨?_, Graph.linkFallthrough_linkFallthrough⟩
  obtain ⟨cs, w, hvisit, rfl⟩ := build_eq_ok_iff.1 hb
  obtain ⟨-, ls, hfinish⟩ := hvisit.finishes hstart.sound
  have hgraph : w.graph = start.replay cs := hvisit.graph_eq
  rw [← hgraph] at hfinish
  refine ⟨w, ?_, Build.fallsThrough_finish hfinish⟩
  rw [Outline.inside_eq]
  exact visits_nodes_iff.1 ⟨cs, hvisit⟩

/-- A tree with its lines out of order, on top of two lines of unknown kind: the pass draws the
edges from line 5 to line 6 and from there to line 7, and no other. -/
theorem fallthrough_exact_crossed :
    unsettledGraph.Grown ∧
      ∃ b w, build (fun _ => (.ok "" : Except Empty String)) crossedTree unsettledGraph = .ok b ∧
        Walk.items (fun _ => (.ok "" : Except Empty String))
          (Outline.inside crossedTree.children) { graph := unsettledGraph } = .ok w ∧
        b.FallsThrough w ∧ b.listing = [2, 3, 5, 6, 7, 9].map .line ∧
        b.listing.map w.graph.successorLines = [[], [5], [3], [], [5], [2]] ∧
        b.listing.map b.graph.successorLines = [[], [5], [3, 6], [7], [5], [2]] := by
  have hstart : unsettledGraph.Grown :=
    .link (.register (.register .empty 9 rfl "") 2 rfl "") rfl rfl
  have hbuild : ∃ b w,
      build (fun _ => (.ok "" : Except Empty String)) crossedTree unsettledGraph = .ok b ∧
      Walk.items (fun _ => (.ok "" : Except Empty String))
        (Outline.inside crossedTree.children) { graph := unsettledGraph } = .ok w ∧
      b.listing = [2, 3, 5, 6, 7, 9].map .line ∧
      b.listing.map w.graph.successorLines = [[], [5], [3], [], [5], [2]] ∧
      b.listing.map b.graph.successorLines = [[], [5], [3, 6], [7], [5], [2]] :=
    ⟨_, _, rfl, rfl, by decide, by decide, by decide⟩
  obtain ⟨b, w, hb, hw, hfacts⟩ := hbuild
  obtain ⟨⟨w', hw', hfalls⟩, -⟩ := fallthrough_exact hstart hb
  obtain rfl : w' = w := Except.ok.inj (hw'.symm.trans hw)
  exact ⟨hstart, b, w', hb, hw, hfalls, hfacts⟩

end GoFlow
