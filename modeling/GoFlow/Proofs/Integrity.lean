import GoFlow.Proofs.Anchored
import GoFlow.Proofs.Listing

/-!
# Integrity of finished graphs

What every build leaves behind, whatever the tree: one block for each line, listed and numbered by
ascending line, whose edges lead to listed blocks.

- `Build.Finishes`: how a finished graph comes from the graph that the walk left, line by line.
  `finishes_of_build` opens a build into its visit and its finish.
- `Build.Finishes.mem_successors_iff`: the edges of a finished graph are those that the walk drew
  and the default edges.
- `Graph.Grown`: the graphs that builds, registrations and edges make.
- `Build.Intact`: the integrity of a finished graph, relative to the graph it was built on. Every
  build on top of a grown graph has it.
-/

namespace GoFlow

/-! ## A build, line by line -/

/-- A build finishes a sound graph whose lines, by ascending order, are `ls`. -/
structure Build.Finishes (b : Build) (g : Graph) (ls : List Int) : Prop where
  walked : g.Sound
  sound : b.graph.Sound
  listing_eq : b.listing = ls.map .line
  ascending : ls.Pairwise (· < ·)
  mem_lines : ∀ l, l ∈ ls ↔ g.contains l
  /-- Rank and default edge are all that the passes behind the walk add to a block. -/
  get?_eq : ∀ l, b.graph.get? (.line l) = (g.get? (.line l)).map fun x =>
    ({ x with number := (ls.idxOf l : Nat) } : Block).fallInto (following ls l)

namespace Build.Finishes

variable {b : Build} {g : Graph} {ls : List Int} {l : Int}

/-- The lines of a finished graph are those of the listing. -/
theorem contains_iff (h : b.Finishes g ls) : b.graph.contains l ↔ l ∈ ls := by
  rw [h.mem_lines, Graph.contains, Graph.contains, h.get?_eq, Option.isSome_map]

theorem mem_listing (h : b.Finishes g ls) : .line l ∈ b.listing ↔ l ∈ ls := by
  simp [h.listing_eq]

/-- The block on a listed line, before and after the passes. -/
theorem exists_block (h : b.Finishes g ls) (hl : l ∈ ls) :
    ∃ x, g.get? (.line l) = some x ∧ b.graph.get? (.line l)
      = some (({ x with number := (ls.idxOf l : Nat) } : Block).fallInto (following ls l)) := by
  obtain ⟨x, hx⟩ := Graph.contains_iff.1 ((h.mem_lines l).1 hl)
  exact ⟨x, hx, by rw [h.get?_eq, hx]; rfl⟩

/-- The block on a line keeps its kind behind the walk and gets the default edge at most. -/
theorem exists_walked (h : b.Finishes g ls) {x : Block} (hx : b.graph.get? (.line l) = some x) :
    ∃ y, g.get? (.line l) = some y ∧ x.kind = y.kind ∧
      ∀ t, x.LeadsTo t ↔ (x.kind.fallsThrough ∧ following ls l = some t) ∨ y.LeadsTo t := by
  obtain ⟨y, hy, hy'⟩ := h.exists_block (h.contains_iff.1 (Graph.contains_iff.2 ⟨x, hx⟩))
  obtain rfl := Option.some.inj (hy'.symm.trans hx)
  rw [Block.kind_fallInto]
  exact ⟨y, hy, rfl, fun t => Block.leadsTo_fallInto⟩

/-- **The last registration of a line** decides about the block that a build leaves there, with the
edges that are drawn from the line behind it, and the default edge. -/
theorem of_last_register {start : Graph} {pre post : List Change} {kind : BlockKind}
    {owner : String} (h : b.Finishes (start.replay (pre ++ .register l kind owner :: post)) ls)
    (hstart : start.Sound) (hcs : start.AdmitsAll (pre ++ .register l kind owner :: post))
    (hpost : l ∉ registeredBy post) {x : Block} (hx : b.graph.get? (.line l) = some x) :
    x.kind = kind ∧ x.owner = owner ∧
      ∀ t, x.LeadsTo t ↔ (kind.fallsThrough ∧ following ls l = some t) ∨ .link l t ∈ post := by
  obtain ⟨y, hy, hy'⟩ := h.exists_block (h.contains_iff.1 (Graph.contains_iff.2 ⟨x, hx⟩))
  obtain ⟨hkind, howner, hleads⟩ := Graph.last_replay hstart hcs hpost hy
  obtain rfl := Option.some.inj (hy'.symm.trans hx)
  refine ⟨by rw [Block.kind_fallInto, hkind], by rw [Block.owner_fallInto, howner], fun t => ?_⟩
  rw [Block.leadsTo_fallInto, hkind, ← hleads]
  rfl

/-- The neighbours in the listing are those lines of which one follows the other. -/
theorem infix_listing_iff (h : b.Finishes g ls) {t : Int} :
    [.line l, .line t] <:+: b.listing ↔ following ls l = some t := by
  have hinj : Function.Injective Handle.line := fun _ _ heq => Handle.line.inj heq
  rw [following_iff h.ascending.nodup, h.listing_eq, List.infix_map_iff]
  constructor
  · rintro ⟨ks, hks, heq⟩
    obtain rfl : [l, t] = ks := List.map_injective_iff.2 hinj heq
    exact hks
  · intro hlt
    exact ⟨[l, t], hlt, rfl⟩

/-- **The edges of a finished graph**: those that the walk drew, and the default edges between
neighbours in the listing. -/
theorem mem_successors_iff (h : b.Finishes g ls) {t : Int} :
    .line t ∈ b.graph.successors (.line l) ↔
      (∃ x, g.get? (.line l) = some x ∧ x.LeadsTo t) ∨
      ((b.graph.kind? (.line l)).any BlockKind.fallsThrough ∧
        [.line l, .line t] <:+: b.listing) := by
  rw [h.infix_listing_iff, Graph.successors, Graph.kind?]
  by_cases hl : l ∈ ls
  · obtain ⟨x, hx, hy⟩ := h.exists_block hl
    have hedges := (h.sound.block hy).leadsTo_iff (t := t)
    rw [Block.leadsTo_fallInto] at hedges
    rw [hy, hx, Option.elim_some, ← hedges, or_comm]
    simp [Block.LeadsTo]
  · have hx : g.get? (.line l) = none := by simpa [Graph.contains] using mt (h.mem_lines l).2 hl
    simp [h.get?_eq, hx]

end Build.Finishes

section

variable {ε : Type} {decode : List UInt8 → Except ε String} {root : Node} {start : Graph}

/-- A visit to the children of the root makes admitted changes, and the passes finish their
replay. -/
theorem Visits.finishes (hstart : start.Sound) {cs : List Change} {w : Walk}
    (h : Visits decode (.nodes root.named) { graph := start } cs w) :
    start.AdmitsAll cs ∧ ∃ ls, w.finish.Finishes (start.replay cs) ls := by
  obtain ⟨hcs, -⟩ := h.admitted (Walk.anchored_start start)
  have hgraph : w.graph = start.replay cs := h.graph_eq
  have hsound := hstart.replay hcs
  rw [← hgraph] at hsound ⊢
  obtain ⟨ls, hlisting, hls, hmem⟩ := hsound.exists_listing
  obtain ⟨hfinal, -, hget⟩ := hsound.finished hlisting hls.nodup hmem
  exact ⟨hcs, ls, hsound, hfinal, hlisting, hls, hmem, hget⟩

/-- **A build opened**: its visit makes admitted changes, and the passes finish their replay. -/
theorem finishes_of_build (hstart : start.Sound) {b : Build}
    (hb : build decode root start = .ok b) :
    ∃ cs w ls, Visits decode (.nodes root.named) { graph := start } cs w ∧ start.AdmitsAll cs ∧
      b.Finishes (start.replay cs) ls := by
  obtain ⟨cs, w, hvisit, rfl⟩ := build_eq_ok_iff.1 hb
  obtain ⟨hcs, ls, hfinish⟩ := hvisit.finishes hstart
  exact ⟨cs, w, ls, hvisit, hcs, hfinish⟩

end

/-! ## Integrity -/

/-- Graphs that were filled by builds, by registering lines and by linking registered lines. -/
inductive Graph.Grown : Graph → Prop where
  | empty : Grown {}
  | register {g} (grown : Grown g) (line : Int) {kind : BlockKind} (hkind : kind.isMarker = false)
      (owner : String) : Grown (g.register line kind owner)
  | link {g s t} (grown : Grown g) (hs : g.contains s) (ht : g.contains t) :
      Grown (g.link (.line s) (.line t))
  | build {g} (grown : Grown g) {ε : Type} {decode : List UInt8 → Except ε String} {root : Node}
      {b : Build} (hb : build decode root g = .ok b) : Grown b.graph

namespace Build

/-- The listed blocks. -/
def blocks (b : Build) : List Block := b.listing.filterMap b.graph.get?

/-- The integrity of a graph built on top of `start`. -/
structure Intact (start : Graph) (b : Build) : Prop where
  /-- The listing names each block by the line that the block is registered on and ends on. -/
  listing_eq : b.listing = b.blocks.map fun x => .line x.endLine
  /-- Every registered line is listed. -/
  complete : ∀ l, b.graph.contains l → .line l ∈ b.listing
  ascending : b.blocks.Pairwise (·.endLine < ·.endLine)
  number_eq : b.blocks.map Block.number = (List.range b.blocks.length).map Int.ofNat
  /-- Neither markers nor, unless it was there before, a block of unknown kind. -/
  kinds : ∀ x ∈ b.blocks, x.kind ≠ .start ∧ x.kind ≠ .exit ∧
    (x.kind = .unknown → start.kind? (.line x.endLine) = some .unknown)
  /-- An edge leads to the listed block on the line that is its key. -/
  edges : ∀ x ∈ b.blocks, ∀ e ∈ x.edges, e.target = .line e.key ∧ e.target ∈ b.listing
  newest_eq_none : ∀ x ∈ b.blocks, x.newest = none ↔ x.edges = []
  newest_mem : ∀ x ∈ b.blocks, ∀ t ∈ x.newest, t ∈ x.edges.map Edge.target

end Build

/-- Whatever has grown from the empty graph is sound. -/
theorem Graph.Grown.sound {g : Graph} (h : g.Grown) : g.Sound := by
  induction h with
  | empty => exact Graph.sound_empty
  | register _ line hkind owner ih => exact ih.apply (c := .register line _ owner) hkind
  | link _ hs ht ih => exact ih.apply (c := .link _ _) ⟨hs, ht⟩
  | build _ hb ih =>
    obtain ⟨_, _, _, -, -, hfinish⟩ := finishes_of_build ih hb
    exact hfinish.sound

/-- The kind of a block that a build registers is that of a construct; any other block keeps its
kind. -/
theorem kind_replay {g : Graph} (hg : g.Sound) {cs : List Change} (hcs : g.AdmitsAll cs)
    (hplain : ∀ c ∈ cs, c.isPlain) {l : Int} {x : Block}
    (hx : (g.replay cs).get? (.line l) = some x) :
    x.kind.isPlain ∨ g.kind? (.line l) = some x.kind := by
  by_cases hl : l ∈ registeredBy cs
  · obtain ⟨pre, kind, owner, post, rfl, hpost⟩ := exists_last_register hl
    rw [(Graph.last_replay hg hcs hpost hx).1]
    exact .inl (hplain (.register l kind owner) (by simp))
  · rw [Graph.get?_replay hg hcs] at hx
    cases hold : g.get? (.line l) with
    | none =>
      have hcontains := (Graph.contains_replay cs l g).1
        (Graph.contains_iff.2 ⟨x, (Graph.get?_replay hg hcs).trans hx⟩)
      rw [Graph.contains, hold] at hcontains
      simp [hl] at hcontains
    | some y =>
      obtain ⟨z, hz, hkind, -, -⟩ := blockAfter_of_not_mem hl y
      rw [hold, hz] at hx
      rw [Graph.kind?, hold, ← Option.some.inj hx, hkind]
      exact .inr rfl

namespace Build.Finishes

variable {b : Build} {g : Graph} {ls : List Int}

/-- What the listed blocks say of themselves, in order, if that is known line by line. -/
theorem map_blocks (h : b.Finishes g ls) {α : Type} {f : Block → α} {k : Int → α}
    (hf : ∀ l ∈ ls, ∀ x, b.graph.get? (.line l) = some x → f x = k l) :
    b.blocks.map f = ls.map k := by
  rw [Build.blocks, h.listing_eq, List.filterMap_map, List.map_filterMap, ← List.filterMap_eq_map]
  refine List.filterMap_congr fun l hl => ?_
  obtain ⟨x, -, hx⟩ := h.exists_block hl
  simp only [Function.comp_apply, hx, Option.map_some, hf l hl _ hx]

/-- The blocks are listed by the lines they end on. -/
theorem endLine_blocks (h : b.Finishes g ls) : b.blocks.map Block.endLine = ls := by
  rw [h.map_blocks (k := id) fun l _ x hx => (h.sound.block hx).endLine, List.map_id]

/-- Every line that is registered has a block. -/
theorem exists_of_registered {cs : List Change} (h : b.Finishes (({} : Graph).replay cs) ls)
    (hl : l ∈ registeredBy cs) : ∃ x ∈ b.blocks, x.endLine = l := by
  rw [← Graph.contains_replay_empty, ← h.mem_lines, ← h.endLine_blocks] at hl
  exact List.mem_map.1 hl

/-- They are numbered from zero. -/
theorem number_blocks (h : b.Finishes g ls) :
    b.blocks.map Block.number = (List.range ls.length).map Int.ofNat := by
  rw [h.map_blocks (k := fun l => (ls.idxOf l : Int)) fun l hl x hx => ?_]
  · refine List.ext_getElem (by simp) fun i h₁ h₂ => ?_
    have hidx := h.ascending.nodup.idxOf_getElem i (by simpa using h₁)
    simp [hidx]
  · obtain ⟨y, -, hy⟩ := h.exists_block hl
    rw [← Option.some.inj (hy.symm.trans hx), Block.number_fallInto]

/-- A listed block is the block of its line. -/
theorem mem_blocks (h : b.Finishes g ls) {x : Block} (hx : x ∈ b.blocks) :
    x.endLine ∈ ls ∧ b.graph.get? (.line x.endLine) = some x := by
  rw [Build.blocks, h.listing_eq] at hx
  obtain ⟨t, ht, hget⟩ := List.mem_filterMap.1 hx
  obtain ⟨l, hl, rfl⟩ := List.mem_map.1 ht
  rw [(h.sound.block hget).endLine]
  exact ⟨hl, hget⟩

/-- The block of the last line is listed last. -/
theorem getLast?_blocks (h : b.Finishes g ls) {x : Block} (hx : x ∈ b.blocks)
    (hlast : ls.getLast? = some x.endLine) : b.blocks.getLast? = some x := by
  rw [← h.endLine_blocks, List.getLast?_map] at hlast
  obtain ⟨y, hy, hline⟩ := Option.map_eq_some_iff.1 hlast
  have hget := (h.mem_blocks (List.mem_of_getLast? hy)).2
  rw [hline, (h.mem_blocks hx).2] at hget
  rw [hy, Option.some.inj hget]

end Build.Finishes

/-- **Integrity**: whatever tree a graph is built from, and whatever was built, registered and
linked before, the build lists the registered blocks by strictly ascending line and numbers them in
that order. No block is a marker, and every edge leads to the listed block on the line that keys
it. -/
theorem intact_of_build {ε : Type} {decode : List UInt8 → Except ε String} {root : Node}
    {start : Graph} {b : Build} (hstart : start.Grown) (hb : build decode root start = .ok b) :
    b.Intact start := by
  obtain ⟨cs, w, ls, hvisit, hcs, hfinish⟩ := finishes_of_build hstart.sound hb
  have hlines := hfinish.endLine_blocks
  have hlength : b.blocks.length = ls.length := by rw [← hlines, List.length_map]
  have hsound : ∀ {x}, x ∈ b.blocks → x.Sound b.graph x.endLine :=
    fun hx => hfinish.sound.block (hfinish.mem_blocks hx).2
  constructor
  · rw [hfinish.listing_eq, ← hlines, List.map_map]
    rfl
  · exact fun l hl => hfinish.mem_listing.2 (hfinish.contains_iff.1 hl)
  · exact List.pairwise_map.1 (hlines ▸ hfinish.ascending)
  · rw [hfinish.number_blocks, hlength]
  · intro x hx
    obtain ⟨hl, hget⟩ := hfinish.mem_blocks hx
    obtain ⟨y, hy, hy'⟩ := hfinish.exists_block hl
    have hkind : x.kind = y.kind := by
      rw [← Option.some.inj (hy'.symm.trans hget), Block.kind_fallInto]
    rw [hkind]
    -- the walk registered the line, with the kind of a construct, or it kept its kind
    rcases kind_replay hstart.sound hcs hvisit.plain hy with hplain | hold
    · refine ⟨?_, ?_, ?_⟩
      all_goals
        intro hk
        rw [hk] at hplain
        cases hplain
    · have hmarker := (hfinish.walked.block hy).kind
      refine ⟨?_, ?_, fun hk => hk ▸ hold⟩
      all_goals
        intro hk
        rw [hk] at hmarker
        cases hmarker
  · intro x hx e he
    obtain ⟨htarget, hcontains⟩ := (hsound hx).edges e he
    rw [htarget]
    exact ⟨rfl, hfinish.mem_listing.2 (hfinish.contains_iff.1 hcontains)⟩
  · exact fun x hx => (hsound hx).newest_eq_none
  · intro x hx t ht
    obtain ⟨e, he, rfl⟩ := (hsound hx).newest_mem t ht
    exact List.mem_map_of_mem he

/-- A function whose parts lie on lines out of order, with two bodies and an if without a
consequence. -/
def crossedTree : Node :=
  .mk { label := .other "source_file" } [
    .mk { label := .functionDeclaration, span := { startRow := 5, endRow := 2 } } [
      .mk { label := .block, field := some .body } [
        .mk { label := .forStatement, span := { startRow := 4, endRow := 1 } } [
          .mk { label := .block, field := some .body } [
            .mk { label := .ifStatement, span := { startRow := 4, endRow := 6 } } []]],
        .mk { label := .returnStatement, span := { startRow := 1, endRow := 1 } } []],
      .mk { label := .block, field := some .body } []]]

/-- Two lines of unknown kind, one of which the tree above takes over. -/
def unsettledGraph : Graph :=
  ((({} : Graph).register 9 .unknown "").register 2 .unknown "").link (.line 9) (.line 2)

/-- Integrity of a second build of the tree on top of a first. -/
theorem intact_of_build_crossed :
    ∃ a b, build (fun _ => (.ok "" : Except Empty String)) crossedTree unsettledGraph = .ok a ∧
      build (fun _ => (.ok "" : Except Empty String)) crossedTree a.graph = .ok b ∧
      a.graph.Grown ∧ b.Intact a.graph ∧ b.graph.kind? (.line 9) = some .unknown := by
  have hstart : unsettledGraph.Grown :=
    .link (.register (.register .empty 9 rfl "") 2 rfl "") rfl rfl
  have hbuilds : ∃ a b,
      build (fun _ => (.ok "" : Except Empty String)) crossedTree unsettledGraph = .ok a ∧
      build (fun _ => (.ok "" : Except Empty String)) crossedTree a.graph = .ok b ∧
      b.graph.kind? (.line 9) = some .unknown := ⟨_, _, rfl, rfl, by decide⟩
  obtain ⟨a, b, ha, hb, hkind⟩ := hbuilds
  exact ⟨a, b, ha, hb, hstart.build ha, intact_of_build (hstart.build ha) hb, hkind⟩

end GoFlow
