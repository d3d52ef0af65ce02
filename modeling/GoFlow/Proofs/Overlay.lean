import GoFlow.Proofs.Integrity
import GoFlow.Proofs.Mirror
import Mathlib.Data.List.Pairwise

/-!
# Walks on top of earlier graphs

Builds may share one graph. A walk then registers what it would register from scratch, leaves each
of those lines as it would from scratch, and touches no other line: nothing of what was there before
comes through, neither into the lines nor into the way that the walk takes.

- `walkTree`: the walk over a tree, before the passes that finish the graph.
- `Visits.transfer`: whether a visit succeeds does not depend on the walk it starts from.
- `Walk.Overlays`: a walk on top of a graph, against the same walk from scratch.
- `blocks_rebuild`: a second build of a tree on top of the first changes nothing.
-/

namespace GoFlow

/-! ## The walk over a tree -/

section

variable {ε : Type} {decode : List UInt8 → Except ε String}

/-- Walks a tree on top of a graph. -/
def walkTree (decode : List UInt8 → Except ε String) (root : Node) (start : Graph) :
    Except (Stopped ε) Walk :=
  Walk.items decode (Outline.inside root.children) { graph := start }

/-- A build walks the tree and finishes the graph. -/
theorem build_eq_ok_iff_walkTree {root : Node} {start : Graph} {b : Build} :
    build decode root start = .ok b ↔ ∃ w, walkTree decode root start = .ok w ∧ b = w.finish := by
  rw [build, walkTree, bind_eq_ok]
  refine exists_congr fun w => and_congr_right fun _ => ?_
  show Except.ok w.finish = Except.ok b ↔ b = w.finish
  rw [Except.ok.injEq, eq_comm]

theorem walkTree_eq_ok_iff {root : Node} {start : Graph} {w : Walk} :
    walkTree decode root start = .ok w ↔
      ∃ cs, Visits decode (.nodes root.named) { graph := start } cs w := by
  rw [visits_nodes_iff, walkTree, Outline.inside_eq]
  rfl

/-- **Success does not depend on the walk**: what can be visited from one walk can be visited from
any other. -/
theorem Visits.transfer {v : Visit} {w w' : Walk} {cs : List Change}
    (h : Visits decode v w cs w') : ∀ u : Walk, ∃ ds u', Visits decode v u ds u' := by
  induction h with
  | other label _ ih =>
    intro u
    obtain ⟨ds, u', hu⟩ := ih u
    exact ⟨_, _, .other label hu⟩
  | prototype label hbody named => exact fun u => ⟨_, _, .prototype label hbody named⟩
  | function label hbody named _ ih =>
    intro u
    obtain ⟨ds, u', hu⟩ := ih _
    exact ⟨_, _, .function label hbody named hu⟩
  | ret label _ ih =>
    intro u
    obtain ⟨ds, u', hu⟩ := ih _
    exact ⟨_, _, .ret label hu⟩
  | spawn label _ ih =>
    intro u
    obtain ⟨ds, u', hu⟩ := ih _
    exact ⟨_, _, .spawn label hu⟩
  | cond label _ _ _ ih₁ ih₂ ih₃ =>
    intro u
    obtain ⟨ds₁, u₁, hu₁⟩ := ih₁ _
    obtain ⟨ds₂, u₂, hu₂⟩ := ih₂ _
    obtain ⟨ds₃, u₃, hu₃⟩ := ih₃ _
    exact ⟨_, _, .cond label hu₁ hu₂ hu₃⟩
  | loop label _ _ ih₁ ih₂ =>
    intro u
    obtain ⟨ds₁, u₁, hu₁⟩ := ih₁ u
    obtain ⟨ds₂, u₂, hu₂⟩ := ih₂ _
    exact ⟨_, _, .loop label hu₁ hu₂⟩
  | choice label _ _ ih₁ ih₂ =>
    intro u
    obtain ⟨ds₁, u₁, hu₁⟩ := ih₁ u
    obtain ⟨ds₂, u₂, hu₂⟩ := ih₂ _
    exact ⟨_, _, .choice label hu₁ hu₂⟩
  | nil => exact fun u => ⟨_, _, .nil⟩
  | cons _ _ ih₁ ih₂ =>
    intro u
    obtain ⟨ds₁, u₁, hu₁⟩ := ih₁ u
    obtain ⟨ds₂, u₂, hu₂⟩ := ih₂ u₁
    exact ⟨_, _, .cons hu₁ hu₂⟩
  | noClause => exact fun u => ⟨_, _, .noClause⟩
  | clause _ _ ih₁ ih₂ =>
    intro u
    obtain ⟨ds₁, u₁, hu₁⟩ := ih₁ _
    obtain ⟨ds₂, u₂, hu₂⟩ := ih₂ _
    exact ⟨_, _, .clause hu₁ hu₂⟩

/-- A tree can be walked on top of a graph if it can be walked on top of any other. -/
theorem exists_walkTree {root : Node} {start : Graph} {w : Walk}
    (hw : walkTree decode root start = .ok w) (other : Graph) :
    ∃ u, walkTree decode root other = .ok u := by
  obtain ⟨cs, hcs⟩ := walkTree_eq_ok_iff.1 hw
  obtain ⟨ds, u, hu⟩ := hcs.transfer { graph := other }
  exact ⟨u, walkTree_eq_ok_iff.2 ⟨ds, hu⟩⟩

/-- **The same changes**: a tree is walked on top of a sound graph by the changes by which it is
walked from scratch. -/
theorem exists_changes {root : Node} {start : Graph} (hstart : start.Sound) {w u : Walk}
    (hw : walkTree decode root start = .ok w) (hu : walkTree decode root {} = .ok u) :
    ∃ cs, Visits decode (.nodes root.named) { graph := start } cs w ∧
      Visits decode (.nodes root.named) {} cs u := by
  obtain ⟨cs, hcs⟩ := walkTree_eq_ok_iff.1 hw
  have hmirrors : Walk.Mirrors start [] { graph := start } {} :=
    ⟨rfl, rfl, rfl, trivial, Walk.anchored_start {}⟩
  obtain ⟨u', hu', -⟩ := hcs.mirrored hstart hmirrors
  have hsame := hu.symm.trans (walkTree_eq_ok_iff.2 ⟨cs, hu'⟩)
  cases hsame
  exact ⟨cs, hcs, hu'⟩

end

/-! ## Old lines and new ones -/

/-- The lines of admitted changes are there when the changes are made. -/
theorem Graph.AdmitsAll.contains_line {cs : List Change} :
    ∀ {g : Graph}, g.AdmitsAll cs → ∀ c ∈ cs, (g.replay cs).contains c.line := by
  induction cs with
  | nil => exact fun _ c hc => by cases hc
  | cons c cs ih =>
    intro g hcs d hd
    rcases List.mem_cons.1 hd with rfl | hd
    · refine Graph.contains_replay_of ((Graph.contains_apply g d d.line).2 ?_) cs
      cases d with
      | register l kind owner => exact .inr rfl
      | link s t => exact .inl hcs.1.1
    · exact ih hcs.2 d hd

/-- Changes that can be made from scratch leave every line that they do not register as it was. -/
theorem Graph.get?_replay_of_not_mem {g : Graph} (hg : g.Sound) {cs : List Change}
    (hcs : ({} : Graph).AdmitsAll cs) {l : Int} (hl : l ∉ registeredBy cs) :
    (g.replay cs).get? (.line l) = g.get? (.line l) := by
  have hadmits : g.AdmitsAll cs := hcs.mono fun m hm => by simp at hm
  rw [Graph.get?_replay hg hadmits]
  refine blockAfter_of_forall_ne (fun c hc hline => hl ?_) _
  have hcontains := hcs.contains_line c hc
  rwa [Graph.contains_replay_empty, hline] at hcontains

/-- The walk `w` on top of `base`, against the walk `u` from scratch. -/
structure Walk.Overlays (base : Graph) (w u : Walk) : Prop where
  contains_iff : ∀ l, w.graph.contains l ↔ base.contains l ∨ u.graph.contains l
  /-- A line that the walk registers is left as from scratch, but for a number it may have got
  before. -/
  own : ∀ {l y}, u.graph.get? (.line l) = some y → ∃ x, w.graph.get? (.line l) = some x ∧
    x.kind = y.kind ∧ x.owner = y.owner ∧ x.edges = y.edges ∧ x.newest = y.newest
  /-- Any other line is left as it was. -/
  other : ∀ {l}, ¬ u.graph.contains l → w.graph.get? (.line l) = base.get? (.line l)

/-- Walks with the same changes overlay. -/
theorem Walk.overlays_of_replay {base : Graph} (hbase : base.Sound) {cs : List Change}
    (hcs : ({} : Graph).AdmitsAll cs) {w u : Walk} (hw : w.graph = base.replay cs)
    (hu : u.graph = ({} : Graph).replay cs) : w.Overlays base u where
  contains_iff l := by
    rw [hw, hu, Graph.contains_replay, Graph.contains_replay_empty]
  own {l y} hy := by
    have hl : l ∈ registeredBy cs := by
      rw [← Graph.contains_replay_empty, ← hu]
      exact Graph.contains_iff.2 ⟨y, hy⟩
    rw [hu, ← Graph.unnumbered_replay hbase hcs hl] at hy
    obtain ⟨x, hx, rfl⟩ := Option.map_eq_some_iff.1 hy
    rw [hw]
    exact ⟨x, hx, rfl, rfl, rfl, rfl⟩
  other {l} hl := by
    rw [hu, Graph.contains_replay_empty] at hl
    rw [hw, Graph.get?_replay_of_not_mem hbase hcs hl]

section

variable {ε : Type} {decode : List UInt8 → Except ε String} {root : Node}

/-- **Building twice**: a second build of a tree, on top of what the first has left, lists the same
blocks with the same numbers and edges. -/
theorem blocks_rebuild {b : Build} (hb : build decode root {} = .ok b) :
    ∃ b', build decode root b.graph = .ok b' ∧ b'.listing = b.listing ∧ b'.blocks = b.blocks := by
  have hsound : b.graph.Sound := (Graph.Grown.empty.build hb).sound
  obtain ⟨u, hu, rfl⟩ := build_eq_ok_iff_walkTree.1 hb
  obtain ⟨w, hw⟩ := exists_walkTree hu u.finish.graph
  obtain ⟨cs, hwvisit, huvisit⟩ := exists_changes hsound hw hu
  obtain ⟨hcs, ls, hfinish⟩ := huvisit.finishes Graph.sound_empty
  obtain ⟨-, ms, hfinish'⟩ := hwvisit.finishes hsound
  have hlines : ∀ l, l ∈ ls ↔ l ∈ registeredBy cs := fun l => by
    rw [hfinish.mem_lines, Graph.contains_replay_empty]
  -- the first build has registered every line of the second
  have heq : ms = ls := by
    refine hfinish'.ascending.eq_of_mem_iff hfinish.ascending fun l => ?_
    rw [hfinish'.mem_lines, Graph.contains_replay, hfinish.contains_iff, hlines, or_self]
  subst heq
  have hlisting : w.finish.listing = u.finish.listing := by
    rw [hfinish'.listing_eq, hfinish.listing_eq]
  refine ⟨w.finish, build_eq_ok_iff_walkTree.2 ⟨w, hw, rfl⟩, hlisting, ?_⟩
  rw [Build.blocks, Build.blocks, hlisting, hfinish.listing_eq, List.filterMap_map,
    List.filterMap_map]
  refine List.filterMap_congr fun l hl => ?_
  -- what the second walk leaves differs by the old number, and that is given out anew
  show w.finish.graph.get? (.line l) = u.finish.graph.get? (.line l)
  rw [hfinish'.get?_eq, hfinish.get?_eq, ← Graph.unnumbered_replay hsound hcs ((hlines l).1 hl),
    Option.map_map]
  rfl

/-- **History does not leak**: a tree is walked on top of any graph that builds, registrations and
edges have left as it is walked from scratch, by the same changes. What the walk registers it leaves
as from scratch, and all else as it was. In particular, a second build of the tree on top of the
first gives the same blocks. -/
theorem walk_overlays {start : Graph} (hstart : start.Grown) :
    ((∃ w, walkTree decode root start = .ok w) ↔ ∃ u, walkTree decode root {} = .ok u) ∧
    (∀ w u, walkTree decode root start = .ok w → walkTree decode root {} = .ok u →
      (∃ cs, Visits decode (.nodes root.named) { graph := start } cs w ∧
        Visits decode (.nodes root.named) {} cs u) ∧ w.Overlays start u) ∧
    ∀ b, build decode root {} = .ok b →
      ∃ b', build decode root b.graph = .ok b' ∧ b'.listing = b.listing ∧ b'.blocks = b.blocks := by
  refine ⟨⟨fun ⟨w, hw⟩ => exists_walkTree hw {}, fun ⟨u, hu⟩ => exists_walkTree hu start⟩,
    fun w u hw hu => ?_, fun b hb => blocks_rebuild hb⟩
  obtain ⟨cs, hwvisit, huvisit⟩ := exists_changes hstart.sound hw hu
  obtain ⟨hcs, -⟩ := huvisit.admitted (Walk.anchored_start {})
  exact ⟨⟨cs, hwvisit, huvisit⟩,
    Walk.overlays_of_replay hstart.sound hcs hwvisit.graph_eq huvisit.graph_eq⟩

end

/-- The tree whose lines are out of order, walked on top of two lines of unknown kind: it takes over
the one and leaves the other with its edge. -/
theorem walk_overlays_crossed :
    unsettledGraph.Grown ∧ ∃ w u,
      walkTree (fun _ => (.ok "" : Except Empty String)) crossedTree unsettledGraph = .ok w ∧
      walkTree (fun _ => (.ok "" : Except Empty String)) crossedTree {} = .ok u ∧
      w.Overlays unsettledGraph u ∧
      w.graph.kind? (.line 2) = u.graph.kind? (.line 2) ∧
      w.graph.get? (.line 9) = unsettledGraph.get? (.line 9) := by
  have hstart : unsettledGraph.Grown :=
    .link (.register (.register .empty 9 rfl "") 2 rfl "") rfl rfl
  have hwalks : ∃ w u,
      walkTree (fun _ => (.ok "" : Except Empty String)) crossedTree unsettledGraph = .ok w ∧
      walkTree (fun _ => (.ok "" : Except Empty String)) crossedTree {} = .ok u ∧
      w.graph.kind? (.line 2) = u.graph.kind? (.line 2) ∧
      u.graph.get? (.line 9) = none := ⟨_, _, rfl, rfl, by decide, by decide⟩
  obtain ⟨w, u, hw, hu, hkind, hnone⟩ := hwalks
  have hover := ((walk_overlays hstart).2.1 w u hw hu).2
  refine ⟨hstart, w, u, hw, hu, hover, hkind, hover.other fun hcontains => ?_⟩
  obtain ⟨x, hx⟩ := Graph.contains_iff.1 hcontains
  exact absurd (hnone.symm.trans hx) (by simp)

end GoFlow
