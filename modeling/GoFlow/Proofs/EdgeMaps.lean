import GoFlow.Proofs.Fallthrough

/-!
# Edge maps

An edge is kept under the key that its target had when the edge was added. Blocks are changed in
place, take over the edges of others, and may be the targets of any number of edges, their own
included. As long as no block becomes a marker or stops being one, its key stays the same, and so
the keys of all edges stay true.

- `BlockKind.SameAnchor`: two kinds are the same marker, or both are none.
- `Operation`: all that can be done to the blocks of a graph, and `Graph.Permits`, which leaves out
  changes between markers and other kinds.
- `Graph.Keyed`: the edges of every block are kept under the keys that their targets have now. Every
  operation keeps this (`Graph.Keyed.operate`), and so does a run of them.
- `Graph.Mapped`: what follows for the successors of blocks.
-/

namespace GoFlow

/-- Two kinds are the same marker, or both are none. -/
def BlockKind.SameAnchor (j k : BlockKind) : Prop := j.isMarker ∨ k.isMarker → j = k

instance (j k : BlockKind) : Decidable (j.SameAnchor k) := inferInstanceAs (Decidable (_ → _))

/-- A change of kind that makes or unmakes no marker leaves the key of a block as it is. -/
theorem Block.key_of_sameAnchor {b c : Block} (hkind : b.kind.SameAnchor c.kind)
    (hline : c.endLine = b.endLine) : c.key = b.key := by
  unfold Block.key
  by_cases hmarker : b.kind.isMarker ∨ c.kind.isMarker
  · rw [hkind hmarker, hline]
  · -- neither is a marker, so that both have their line for a key
    rw [not_or] at hmarker
    rw [if_neg hmarker.1, if_neg hmarker.2, hline]

/-! ## One edge more -/

theorem mem_insertEdge_self (e : Edge) (es : List Edge) : e ∈ insertEdge e es := by
  induction es with
  | nil => simp [insertEdge]
  | cons f rest ih =>
    unfold insertEdge
    grind

/-- Putting an edge in its place adds its key, and no other. -/
theorem mem_keys_insertEdge {e : Edge} {es : List Edge} {k : Int} :
    k ∈ (insertEdge e es).map Edge.key ↔ k ∈ es.map Edge.key ∨ k = e.key := by
  induction es with
  | nil => simp [insertEdge]
  | cons f rest ih =>
    unfold insertEdge
    split
    · grind
    · split
      · grind
      · grind

/-! ## Operations -/

/-- What can be done to the blocks of a graph. -/
inductive Operation where
  /-- A new block outside the registered lines. -/
  | create (kind : BlockKind) (line number : Int) (owner : String)
  /-- A new anchor. Only markers make one. -/
  | anchor (kind : BlockKind)
  | register (line : Int) (kind : BlockKind) (owner : String)
  | link (source : Handle) (targets : List Handle)
  /-- Lets a block take kind, owner and edges of another. -/
  | adopt (block other : Handle)
  /-- The fall-through pass over a list of blocks. -/
  | fallThrough (blocks : List Handle)
deriving DecidableEq, Repr

namespace Graph

/-- Adds the targets as successors, from first to last. -/
def linkAll (g : Graph) (source : Handle) (targets : List Handle) : Graph :=
  targets.foldl (fun g target => g.link source target) g

/-- Carries out an operation. -/
def operate (g : Graph) : Operation → Graph
  | .create kind line number owner => (g.addLoose { kind, endLine := line, number, owner }).1
  | .anchor kind => (Block.marker? kind).elim g fun b => (g.addLoose b).1
  | .register line kind owner => g.register line kind owner
  | .link source targets => g.linkAll source targets
  | .adopt block other => g.adopt block other
  | .fallThrough blocks => g.linkFallthrough blocks

/-- Carries out operations from left to right. -/
def operateAll (g : Graph) (os : List Operation) : Graph := os.foldl operate g

/-- Whether the operation turns no block into a marker, out of one, or from one into the other. -/
def KeepsMarkers (g : Graph) : Operation → Prop
  | .register line kind _ => ∀ b ∈ g.get? (.line line), b.kind.SameAnchor kind
  | .adopt block other => ∀ b ∈ g.get? block, ∀ c ∈ g.get? other, b.kind.SameAnchor c.kind
  | _ => True

/-- Whether none of the operations does so when its turn comes. -/
def KeepsMarkersAll (g : Graph) : List Operation → Prop
  | [] => True
  | o :: os => g.KeepsMarkers o ∧ (g.operate o).KeepsMarkersAll os

instance (g : Graph) : (o : Operation) → Decidable (g.KeepsMarkers o)
  | .register line kind _ =>
    inferInstanceAs (Decidable (∀ b ∈ g.get? (.line line), b.kind.SameAnchor kind))
  | .adopt block other =>
    inferInstanceAs (Decidable (∀ b ∈ g.get? block, ∀ c ∈ g.get? other, b.kind.SameAnchor c.kind))
  | .create .. | .anchor _ | .link .. | .fallThrough _ => .isTrue trivial

instance decidableKeepsMarkersAll :
    (os : List Operation) → (g : Graph) → Decidable (g.KeepsMarkersAll os)
  | [], _ => .isTrue trivial
  | o :: os, g =>
    have := decidableKeepsMarkersAll os (g.operate o)
    inferInstanceAs (Decidable (g.KeepsMarkers o ∧ (g.operate o).KeepsMarkersAll os))

/-! ## Blocks by handle -/

section

variable (g : Graph)

/-- Only the block behind the handle is modified. -/
theorem get?_modifyAt (h : Handle) (f : Block → Block) (k : Handle) :
    (g.modify h f).get? k = if k = h then (g.get? h).map f else g.get? k := by
  rw [modify_eq_mapBlocks, get?_mapBlocks]
  by_cases hk : k = h
  · simp [hk]
  · simp [hk]

/-- A new block gets a handle of its own. -/
theorem get?_addLoose (b : Block) (k : Handle) :
    (g.addLoose b).1.get? k = if k = .loose g.loose.length then some b else g.get? k := by
  cases k with
  | line l => rfl
  | loose n =>
    show (g.loose ++ [b])[n]?
      = if Handle.loose n = .loose g.loose.length then some b else g.loose[n]?
    by_cases hn : n < g.loose.length
    · rw [List.getElem?_append_left hn, if_neg (by simp; omega)]
    · rw [List.getElem?_append_right (by omega), List.getElem?_singleton]
      grind

/-- Registering a line touches the block of that line only. A block that is there keeps its edges.
-/
theorem get?_registerAt (l : Int) (kind : BlockKind) (owner : String) (k : Handle) :
    (g.register l kind owner).get? k
      = if k = .line l then
          some ((g.get? (.line l)).elim { kind, endLine := l, owner } (·.overwrite kind owner))
        else g.get? k := by
  cases k with
  | line m =>
    rw [get?_register]
    by_cases hm : m = l
    · simp [hm]
    · simp [hm]
  | loose n =>
    unfold register
    split <;> rfl

end

/-! ## True keys -/

/-- Every block stays, with the key that it has. -/
def KeysKept (g g' : Graph) : Prop :=
  ∀ h b, g.get? h = some b → ∃ b', g'.get? h = some b' ∧ b'.key = b.key

end Graph

namespace Block

/-- The edges of a block lead to blocks of the graph, by strictly ascending keys, which are the keys
of those blocks now. The newest target is among the targets. -/
structure Keyed (g : Graph) (b : Block) : Prop where
  ascending : b.edges.Pairwise (·.key < ·.key)
  current : ∀ e ∈ b.edges, ∃ t, g.get? e.target = some t ∧ t.key = e.key
  newest_eq_none : b.newest = none ↔ b.edges = []
  newest_mem : ∀ t ∈ b.newest, ∃ e ∈ b.edges, e.target = t

variable {g g' : Graph} {b : Block}

/-- A block without edges has no keys that could be wrong. -/
theorem keyed_of_edges_eq_nil (hedges : b.edges = []) (hnewest : b.newest = none) : b.Keyed g where
  ascending := hedges ▸ .nil
  current := by simp [hedges]
  newest_eq_none := by simp [hedges, hnewest]
  newest_mem := by simp [hnewest]

/-- Where every block keeps its key, edges stay under true keys. -/
theorem Keyed.mono (hb : b.Keyed g) (hkept : g.KeysKept g') : b.Keyed g' :=
  { hb with
    current := by
      intro e he
      obtain ⟨t, ht, hkey⟩ := hb.current e he
      obtain ⟨t', ht', hkey'⟩ := hkept e.target t ht
      exact ⟨t', ht', hkey'.trans hkey⟩ }

/-- The edges of another block are as true as they were there. -/
theorem Keyed.adopt {c : Block} (hc : c.Keyed g) (b : Block) : (b.adopt c).Keyed g := { hc with }

/-- An edge that is added under the key of its target is under a true key. -/
theorem Keyed.addEdge (hb : b.Keyed g) {h : Handle} {t : Block} (ht : g.get? h = some t) :
    (b.addEdge t.key h).Keyed g := by
  have hmem : ⟨t.key, h⟩ ∈ insertEdge ⟨t.key, h⟩ b.edges := mem_insertEdge_self _ _
  constructor
  · exact insertEdge_pairwise _ hb.ascending
  · intro e he
    rcases mem_of_mem_insertEdge he with rfl | he
    · exact ⟨t, ht, rfl⟩
    · exact hb.current e he
  · show some h = none ↔ insertEdge ⟨t.key, h⟩ b.edges = []
    constructor
    · intro hnone
      cases hnone
    · intro hnil
      rw [hnil] at hmem
      cases hmem
  · rintro k hk
    cases hk
    exact ⟨_, hmem, rfl⟩

end Block

namespace Graph

/-- All edges of the graph are kept under the keys that their targets have now. -/
def Keyed (g : Graph) : Prop := ∀ h b, g.get? h = some b → b.Keyed g

theorem keyed_empty : ({} : Graph).Keyed := by
  intro h b hb
  cases h <;> cases hb

namespace Keyed

variable {g : Graph}

/-- A change at one handle keeps the keys true if the block there keeps its key and has edges that
are true. Where there was no block, one may come. -/
theorem of_change (hg : g.Keyed) {g' : Graph} {h : Handle} {c : Option Block}
    (hget : ∀ k, g'.get? k = if k = h then c else g.get? k)
    (hkey : ∀ b, g.get? h = some b → ∃ b', c = some b' ∧ b'.key = b.key)
    (hc : ∀ b', c = some b' → b'.Keyed g) : g'.Keyed := by
  -- edges are judged by the graph before the change, which has all keys that the new one has
  have hkept : g.KeysKept g' := by
    intro k b hb
    rw [hget]
    by_cases hk : k = h
    · rw [if_pos hk]
      exact hkey b (hk ▸ hb)
    · rw [if_neg hk]
      exact ⟨b, hb, rfl⟩
  intro k b hb
  rw [hget] at hb
  by_cases hk : k = h
  · rw [if_pos hk] at hb
    exact (hc b hb).mono hkept
  · rw [if_neg hk] at hb
    exact (hg k b hb).mono hkept

/-- A modification that leaves the key of the block and has true keys itself keeps all keys true. -/
theorem modify (hg : g.Keyed) {h : Handle} {f : Block → Block}
    (hf : ∀ b, g.get? h = some b → (f b).key = b.key ∧ (f b).Keyed g) : (g.modify h f).Keyed := by
  refine hg.of_change (get?_modifyAt g h f) ?_ ?_
  · intro b hb
    exact ⟨f b, by rw [hb]; rfl, (hf b hb).1⟩
  · intro b' hb'
    obtain ⟨b, hb, rfl⟩ := Option.map_eq_some_iff.1 hb'
    exact (hf b hb).2

/-- A new block without edges keeps all keys true. -/
theorem addLoose (hg : g.Keyed) {b : Block} (hedges : b.edges = []) (hnewest : b.newest = none) :
    (g.addLoose b).1.Keyed := by
  refine hg.of_change (get?_addLoose g b) ?_ ?_
  · intro c hc
    -- the serial number is the next one, so no block has it yet
    simp [get?] at hc
  · rintro c ⟨⟩
    exact Block.keyed_of_edges_eq_nil hedges hnewest

/-- So does a registration that makes and unmakes no marker: only markers have keys of their own. -/
theorem register (hg : g.Keyed) {line : Int} {kind : BlockKind} {owner : String}
    (hkind : ∀ b ∈ g.get? (.line line), b.kind.SameAnchor kind) :
    (g.register line kind owner).Keyed := by
  refine hg.of_change (get?_registerAt g line kind owner) ?_ ?_
  · intro b hb
    refine ⟨b.overwrite kind owner, by rw [hb]; rfl, ?_⟩
    exact Block.key_of_sameAnchor (hkind b hb) rfl
  · rintro b' ⟨⟩
    cases g.get? (.line line) with
    | none => exact Block.keyed_of_edges_eq_nil rfl rfl
    | some b => exact Block.keyed_of_edges_eq_nil rfl rfl

/-- So does a link, whose key is that of its target. -/
theorem link (hg : g.Keyed) (source target : Handle) : (g.link source target).Keyed := by
  unfold Graph.link
  cases ht : g.get? target with
  | none => exact hg
  | some t => exact hg.modify fun b hb => ⟨rfl, (hg source b hb).addEdge ht⟩

/-- So does a block that takes over another of the same sort. -/
theorem adopt (hg : g.Keyed) {block other : Handle}
    (hkind : ∀ b ∈ g.get? block, ∀ c ∈ g.get? other, b.kind.SameAnchor c.kind) :
    (g.adopt block other).Keyed := by
  unfold Graph.adopt
  cases hc : g.get? other with
  | none => exact hg
  | some c =>
    refine hg.modify fun b hb => ⟨?_, (hg other c hc).adopt b⟩
    exact Block.key_of_sameAnchor (hkind b hb c hc) rfl

theorem linkFallthrough {hs : List Handle} :
    ∀ {g : Graph}, g.Keyed → (g.linkFallthrough hs).Keyed := by
  induction hs with
  | nil => exact fun hg => hg
  | cons h hs ih =>
    intro g hg
    -- the pass looks at two neighbours at a time
    cases hs with
    | nil => exact hg
    | cons next rest =>
      unfold Graph.linkFallthrough
      split
      · exact ih (hg.link h next)
      · exact ih hg

theorem linkAll {source : Handle} {targets : List Handle} :
    ∀ {g : Graph}, g.Keyed → (g.linkAll source targets).Keyed := by
  induction targets with
  | nil => exact fun hg => hg
  | cons t targets ih => exact fun hg => ih (hg.link source t)

/-- **One operation** keeps the keys true. -/
theorem operate (hg : g.Keyed) {o : Operation} (ho : g.KeepsMarkers o) : (g.operate o).Keyed := by
  cases o with
  | create kind line number owner => exact hg.addLoose rfl rfl
  | anchor kind =>
    show ((Block.marker? kind).elim g fun b => (g.addLoose b).1).Keyed
    unfold Block.marker?
    split
    · exact hg.addLoose rfl rfl
    · exact hg
  | register line kind owner => exact hg.register ho
  | link source targets => exact hg.linkAll
  | adopt block other => exact hg.adopt ho
  | fallThrough blocks => exact hg.linkFallthrough

/-- **A run** keeps them true. -/
theorem operateAll {os : List Operation} :
    ∀ {g : Graph}, g.Keyed → g.KeepsMarkersAll os → (g.operateAll os).Keyed := by
  induction os with
  | nil => exact fun hg _ => hg
  | cons o os ih => exact fun hg hos => ih (hg.operate hos.1) hos.2

/-- The keys of the successors are those that the edges are kept under. -/
theorem map_keyOf_successors (hg : g.Keyed) {h : Handle} {b : Block} (hb : g.get? h = some b) :
    (g.successors h).map g.keyOf = b.edges.map Edge.key := by
  unfold successors
  rw [hb, Option.elim_some, List.map_map]
  refine List.map_congr_left fun e he => ?_
  obtain ⟨t, ht, hkey⟩ := (hg h b hb).current e he
  show (g.get? e.target).elim 0 Block.key = e.key
  rw [ht, Option.elim_some, hkey]

end Keyed

/-! ## Linking -/

section

variable (g : Graph) (source target : Handle)

theorem get?_link_of_ne {k : Handle} (hk : k ≠ source) :
    (g.link source target).get? k = g.get? k := by
  unfold link
  split
  · rw [get?_modifyAt, if_neg hk]
  · rfl

/-- A link adds one edge to its source, under the key of the target. -/
theorem get?_link_source {c : Block} (hc : g.get? target = some c) :
    (g.link source target).get? source = (g.get? source).map (·.addEdge c.key target) := by
  unfold link
  rw [hc]
  show (g.modify source _).get? source = _
  rw [get?_modifyAt, if_pos rfl]

/-- A link to a block that is not there does nothing. -/
theorem link_of_missing (ht : g.get? target = none) : g.link source target = g := by
  unfold link
  rw [ht]

/-- Links change no key. -/
theorem key?_link (k : Handle) :
    ((g.link source target).get? k).map Block.key = (g.get? k).map Block.key := by
  cases ht : g.get? target with
  | none => rw [link_of_missing g source target ht]
  | some c =>
    by_cases hk : k = source
    · rw [hk, get?_link_source g source target ht, Option.map_map]
      rfl
    · rw [get?_link_of_ne g source target hk]

theorem get?_linkAll_of_ne {k : Handle} (hk : k ≠ source) (targets : List Handle) :
    (g.linkAll source targets).get? k = g.get? k := by
  induction targets generalizing g with
  | nil => rfl
  | cons t targets ih => exact (ih (g.link source t)).trans (get?_link_of_ne g source t hk)

/-- A link adds its target to the successors, and nothing else. -/
theorem mem_successors_link {t : Handle} (ht : t ∈ (g.link source target).successors source) :
    t ∈ g.successors source ∨ t = target := by
  unfold successors at ht ⊢
  cases hc : g.get? target with
  | none =>
    rw [link_of_missing g source target hc] at ht
    exact .inl ht
  | some c =>
    rw [get?_link_source g source target hc] at ht
    cases hb : g.get? source with
    | none =>
      rw [hb] at ht
      cases ht
    | some b =>
      rw [hb, Option.map_some, Option.elim_some] at ht
      obtain ⟨e, he, rfl⟩ := List.mem_map.1 ht
      rcases mem_of_mem_insertEdge he with rfl | he
      · exact .inr rfl
      · exact .inl (List.mem_map_of_mem he)

/-- So does a row of links with its targets. -/
theorem mem_successors_linkAll {targets : List Handle} {t : Handle}
    (ht : t ∈ (g.linkAll source targets).successors source) :
    t ∈ g.successors source ∨ t ∈ targets := by
  induction targets generalizing g with
  | nil => exact .inl ht
  | cons u targets ih =>
    rcases ih (g.link source u) ht with ht | ht
    · rcases mem_successors_link g source u ht with ht | rfl
      · exact .inl ht
      · exact .inr List.mem_cons_self
    · exact .inr (List.mem_cons_of_mem u ht)

end

variable {g : Graph}

/-- A link adds the key of the target and loses none, whichever target stays under it. -/
theorem Keyed.mem_keys_link (hg : g.Keyed) {source target : Handle}
    (hsource : (g.get? source).isSome) {k : Int} :
    k ∈ ((g.link source target).successors source).map (g.link source target).keyOf
      ↔ k ∈ (g.successors source).map g.keyOf ∨ k ∈ (g.get? target).map Block.key := by
  obtain ⟨b, hb⟩ := Option.isSome_iff_exists.1 hsource
  cases hc : g.get? target with
  | none =>
    rw [link_of_missing g source target hc]
    simp
  | some c =>
    have hb' := get?_link_source g source target hc
    rw [hb, Option.map_some] at hb'
    rw [(hg.link source target).map_keyOf_successors hb', hg.map_keyOf_successors hb]
    show k ∈ (insertEdge ⟨c.key, target⟩ b.edges).map Edge.key ↔ _
    rw [mem_keys_insertEdge]
    simp [eq_comm]

/-- By their keys, the successors after a row of links are those from before and the targets. -/
theorem Keyed.mem_keys_linkAll {source : Handle} {k : Int} {targets : List Handle} :
    ∀ {g : Graph}, g.Keyed → (g.get? source).isSome →
      (k ∈ ((g.linkAll source targets).successors source).map (g.linkAll source targets).keyOf
        ↔ k ∈ (g.successors source).map g.keyOf ∨ ∃ t ∈ targets, k ∈ (g.get? t).map Block.key) := by
  induction targets with
  | nil =>
    intro g _ _
    show k ∈ (g.successors source).map g.keyOf ↔ _
    simp
  | cons t targets ih =>
    intro g hg hsource
    have hsource' : ((g.link source t).get? source).isSome := by
      rw [← Option.isSome_map (f := Block.key), key?_link, Option.isSome_map]
      exact hsource
    show k ∈ (((g.link source t).linkAll source targets).successors source).map
      ((g.link source t).linkAll source targets).keyOf ↔ _
    -- the keys of the targets still to come are what they were before the first link
    rw [ih (hg.link source t) hsource', hg.mem_keys_link hsource]
    simp only [key?_link, List.exists_mem_cons_iff, or_assoc]

/-! ## Successors -/

/-- What becomes of a graph when successors are added to one block. -/
structure Links (g g' : Graph) (source : Handle) (targets : List Handle) : Prop where
  /-- No other block is changed. -/
  apart : ∀ h ≠ source, g'.get? h = g.get? h
  /-- The block has no successors but the old ones and the new, -/
  only : ∀ t ∈ g'.successors source, t ∈ g.successors source ∨ t ∈ targets
  /-- and one for each key that either of them has. -/
  keys : (g.get? source).isSome → ∀ k, k ∈ (g'.successors source).map g'.keyOf ↔
    k ∈ (g.successors source).map g.keyOf ∨ ∃ t ∈ targets, k ∈ (g.get? t).map Block.key

/-- The edges of the blocks are a map from keys to blocks, and no two blocks share it. -/
structure Mapped (g : Graph) : Prop where
  /-- Successors are blocks of the graph, and the keys that they have now strictly ascend. -/
  present : ∀ h, ∀ t ∈ g.successors h, (g.get? t).isSome
  ascending : ∀ h, ((g.successors h).map g.keyOf).Pairwise (· < ·)
  /-- The newest successor is missing where there is none, and is one of them otherwise. -/
  newest_eq_none : ∀ h b, g.get? h = some b → (b.newest = none ↔ g.successors h = [])
  newest_mem : ∀ h b, g.get? h = some b → ∀ t ∈ b.newest, t ∈ g.successors h
  /-- Successors can be added to one block without a change to any other, -/
  links : ∀ source targets, g.Links (g.operate (.link source targets)) source targets
  /-- also right after one has taken over the edges of the other. -/
  copies : ∀ h other, h ≠ other → (g.get? h).isSome → (g.get? other).isSome →
    (g.operate (.adopt h other)).successors h = g.successors other ∧
    (∀ targets, ((g.operate (.adopt h other)).operate (.link h targets)).successors other
      = g.successors other) ∧
    ∀ targets, ((g.operate (.adopt h other)).operate (.link other targets)).successors h
      = g.successors other

theorem successors_congr {g' : Graph} {h k : Handle} (hget : g'.get? h = g.get? k) :
    g'.successors h = g.successors k := by
  unfold successors
  rw [hget]

/-- Only the block that takes over is changed. -/
theorem get?_adopt {h other : Handle} {b c : Block} (hb : g.get? h = some b)
    (hc : g.get? other = some c) (k : Handle) :
    (g.adopt h other).get? k = if k = h then some (b.adopt c) else g.get? k := by
  unfold adopt
  rw [hc]
  show (g.modify h _).get? k = _
  rw [get?_modifyAt, hb, Option.map_some]

/-- **True keys make edges a map**: at most one successor for each key. -/
theorem Keyed.mapped (hg : g.Keyed) : g.Mapped := by
  constructor
  · intro h t ht
    cases hb : g.get? h with
    | none => simp [successors, hb] at ht
    | some b =>
      rw [successors, hb, Option.elim_some] at ht
      obtain ⟨e, he, rfl⟩ := List.mem_map.1 ht
      obtain ⟨t, ht, -⟩ := (hg h b hb).current e he
      rw [ht]
      rfl
  · intro h
    cases hb : g.get? h with
    | none => simp [successors, hb]
    | some b =>
      rw [hg.map_keyOf_successors hb, List.pairwise_map]
      exact (hg h b hb).ascending
  · intro h b hb
    rw [(hg h b hb).newest_eq_none, successors, hb, Option.elim_some, List.map_eq_nil_iff]
  · intro h b hb t ht
    obtain ⟨e, he, rfl⟩ := (hg h b hb).newest_mem t ht
    rw [successors, hb, Option.elim_some]
    exact List.mem_map_of_mem he
  · intro source targets
    constructor
    · exact fun h hh => get?_linkAll_of_ne g source hh targets
    · exact fun t ht => mem_successors_linkAll g source ht
    · exact fun hsource k => hg.mem_keys_linkAll hsource
  · intro h other hne hh hother
    obtain ⟨b, hb⟩ := Option.isSome_iff_exists.1 hh
    obtain ⟨c, hc⟩ := Option.isSome_iff_exists.1 hother
    have hget := get?_adopt hb hc
    have hcopy : (g.adopt h other).successors h = g.successors other := by
      rw [successors, successors, hget, if_pos rfl, hc]
      rfl
    -- each of the two has edges of its own now, and a link changes one block only
    refine ⟨hcopy, fun targets => ?_, fun targets => ?_⟩
    · refine successors_congr ((get?_linkAll_of_ne _ h hne.symm targets).trans ?_)
      exact (hget other).trans (if_neg hne.symm)
    · exact (successors_congr (get?_linkAll_of_ne _ other hne targets)).trans hcopy

end Graph

/-- **Edges are a map**: whatever blocks are made, registered, linked and copied, as long as none
becomes or stops being a marker, the successors of every block have strictly ascending keys, the
newest is one of them, and no block shares its edges with another. -/
theorem mapped_of_operations {os : List Operation} (hos : ({} : Graph).KeepsMarkersAll os) :
    (({} : Graph).operateAll os).Mapped :=
  (Graph.keyed_empty.operateAll hos).mapped

/-- Two lines and a loose block with the key of one of them, which all lead to themselves or each
other. One takes over the edges of another, which then loses its own. -/
def tangledOperations : List Operation :=
  [.anchor .start, .anchor .exit, .register 5 .forStatement "f", .register 9 .ifCondition "f",
   .create .forBody 5 7 "g", .link (.line 9) [.line 5, .line 9, .loose 1, .loose 2],
   .adopt (.line 5) (.line 9), .link (.line 5) [.loose 0, .line 5],
   .register 9 .returnStatement "f", .fallThrough [.line 5, .line 9, .loose 2]]

/-- The loose block has given way to the line with its key in one map only. -/
theorem mapped_of_operations_tangled :
    ({} : Graph).KeepsMarkersAll tangledOperations ∧
      (({} : Graph).operateAll tangledOperations).Mapped ∧
      (({} : Graph).operateAll tangledOperations).successors (.line 5)
        = [.loose 1, .loose 0, .line 5, .line 9] ∧
      (({} : Graph).operateAll tangledOperations).successors (.line 9) = [] := by
  have hkeeps : ({} : Graph).KeepsMarkersAll tangledOperations := by decide
  exact ⟨hkeeps, mapped_of_operations hkeeps, by decide, by decide⟩

end GoFlow
