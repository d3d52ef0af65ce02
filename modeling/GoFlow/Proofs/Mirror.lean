import GoFlow.Proofs.Anchored
import GoFlow.Proofs.Sound

/-!
# Walks that mirror each other

A walk looks at the graph in two places only: at the end of a loop and at the end of a clause. What
it looks at there are lines that it has registered itself, and registering forgets what a line held
before. So a walk on top of any graph does what the same walk does from scratch.

- `Walk.Mirrors`: two walks with one history, one on top of a graph and one from scratch.
- `Walk.Mirrors.loopEnd_eq`, `Walk.Mirrors.clauseEnd_eq`: the two places agree.
- `Visit.Mirrored`, `Visits.mirrored`: a visit on top of a graph is a visit from scratch with the
  same changes, construct by construct.
-/

namespace GoFlow

namespace Graph

variable {base : Graph} {hist : List Change} {l : Int}

/-- On a line that the changes register, the replay on top of a graph and the replay from scratch
have the same block, the number apart. -/
theorem unnumbered_replay (hbase : base.Sound) (hhist : ({} : Graph).AdmitsAll hist)
    (hl : l ∈ registeredBy hist) :
    ((base.replay hist).get? (.line l)).map Block.unnumbered
      = (({} : Graph).replay hist).get? (.line l) := by
  have hadmits : base.AdmitsAll hist := hhist.mono fun m hm => by simp at hm
  rw [get?_replay hbase hadmits, get?_replay sound_empty hhist, get?_empty]
  exact blockAfter_unnumbered hl fun x hx => (hbase.block hx).endLine

/-- The kind of a line that the history registers does not depend on the graph in front of it. -/
theorem kind?_replay (hbase : base.Sound) (hhist : ({} : Graph).AdmitsAll hist)
    (hl : l ∈ registeredBy hist) :
    (base.replay hist).kind? (.line l) = (({} : Graph).replay hist).kind? (.line l) := by
  rw [kind?, kind?, ← unnumbered_replay hbase hhist hl, Option.map_map]
  rfl

/-- Nor do its successors depend on it. -/
theorem successors_replay (hbase : base.Sound) (hhist : ({} : Graph).AdmitsAll hist)
    (hl : l ∈ registeredBy hist) :
    (base.replay hist).successors (.line l) = (({} : Graph).replay hist).successors (.line l) := by
  rw [successors, successors, ← unnumbered_replay hbase hhist hl]
  cases (base.replay hist).get? (.line l) <;> rfl

/-- The edges of a line that the changes register lead to lines that they register. -/
theorem successor_mem (hhist : ({} : Graph).AdmitsAll hist) {t : Handle}
    (ht : t ∈ (({} : Graph).replay hist).successors (.line l)) :
    ∃ m ∈ registeredBy hist, t = .line m := by
  unfold successors at ht
  cases hx : (({} : Graph).replay hist).get? (.line l) with
  | none =>
    rw [hx] at ht
    cases ht
  | some x =>
    rw [hx] at ht
    obtain ⟨e, he, rfl⟩ := List.mem_map.1 ht
    obtain ⟨htarget, hcontains⟩ := ((sound_empty.replay hhist).block hx).edges e he
    rw [contains_replay] at hcontains
    exact ⟨e.key, by simpa using hcontains, htarget⟩

/-- Nor does it matter for the kinds of the successors, which are registered by the history as well.
-/
theorem hasSuccessorOfKind_replay (hbase : base.Sound) (hhist : ({} : Graph).AdmitsAll hist)
    (hl : l ∈ registeredBy hist) (kind : BlockKind) :
    (base.replay hist).hasSuccessorOfKind (.line l) kind
      = (({} : Graph).replay hist).hasSuccessorOfKind (.line l) kind := by
  unfold hasSuccessorOfKind
  rw [successors_replay hbase hhist hl, Bool.eq_iff_iff, List.any_eq_true, List.any_eq_true]
  refine exists_congr fun t => and_congr_right fun ht => ?_
  obtain ⟨m, hm, rfl⟩ := successor_mem hhist ht
  rw [kind?_replay hbase hhist hm]

/-- A history that registers something decides which line is the newest. -/
theorem newest_replay_eq (base : Graph) (hl : l ∈ registeredBy hist) :
    ∃ m ∈ registeredBy hist, (base.replay hist).newest = some m ∧
      (({} : Graph).replay hist).newest = some m := by
  obtain ⟨m, hm, hnewest⟩ := newest_replay_mem (g := {}) hl
  refine ⟨m, hm, ?_, hnewest⟩
  rw [newest_replay] at hnewest ⊢
  cases hlast : (registeredBy hist).getLast? with
  | none =>
    rw [List.getLast?_eq_none_iff.1 hlast] at hl
    cases hl
  | some k =>
    rw [hlast] at hnewest
    exact hnewest

end Graph

namespace Walk

/-- The walk `w` has the same scope and, on top of `base`, made the same changes as the walk `u`
from scratch. -/
structure Mirrors (base : Graph) (hist : List Change) (w u : Walk) : Prop where
  graph : w.graph = base.replay hist
  fresh : u.graph = ({} : Graph).replay hist
  scope : u.scope = w.scope
  admitted : ({} : Graph).AdmitsAll hist
  anchored : u.Anchored

namespace Mirrors

variable {base : Graph} {hist ds : List Change} {w w₁ u u₁ : Walk}

/-- The same changes on both sides keep the walks alike. -/
theorem step (h : Mirrors base hist w u) (hw : w₁.graph = w.graph.replay ds)
    (hu : u₁.graph = u.graph.replay ds) (hscope : u₁.scope = w₁.scope)
    (hds : u.graph.AdmitsAll ds) (hanchored : u₁.Anchored) :
    Mirrors base (hist ++ ds) w₁ u₁ where
  graph := by rw [hw, h.graph, Graph.replay_append]
  fresh := by rw [hu, h.fresh, Graph.replay_append]
  scope := hscope
  admitted := by
    rw [h.fresh] at hds
    exact (Graph.admitsAll_append _ _ _).2 ⟨h.admitted, hds⟩
  anchored := hanchored

/-- Walks with one history are alike as soon as they enter a function, whatever their scopes. -/
theorem enterFunction (hw : w.graph = base.replay hist) (hu : u.graph = ({} : Graph).replay hist)
    (hhist : ({} : Graph).AdmitsAll hist) (name : String) (first last : Int)
    (returns : List Int) :
    Mirrors base (hist ++ .register first .functionEntry name :: foreseeChanges name returns last)
      ((w.enterFunction name first (some last)).foresee returns last)
      ((u.enterFunction name first (some last)).foresee returns last) where
  graph := by rw [graph_foresee_enterFunction, hw, Graph.replay_append]
  fresh := by rw [graph_foresee_enterFunction, hu, Graph.replay_append]
  scope := by rw [scope_foresee, scope_foresee, scope_enterFunction, scope_enterFunction]
  admitted := (Graph.admitsAll_append _ _ _).2 ⟨hhist, rfl, foresee_admitted _ _ _ _⟩
  anchored := anchored_foresee u name first last returns

/-- Both walks leave a loop with the same changes. -/
theorem loopEnd_eq (hbase : base.Sound) (h : Mirrors base hist w u) {first : Int}
    (hfirst : first ∈ registeredBy hist) (last : Int) :
    u.loopEndChanges first last = w.loopEndChanges first last := by
  obtain ⟨m, -, hw, hu⟩ := Graph.newest_replay_eq base hfirst
  have hbody : u.loopBodyChanges first last = w.loopBodyChanges first last := by
    unfold loopBodyChanges kindAt
    rw [h.graph, h.fresh, hw, hu, h.scope, Graph.kind?_replay hbase h.admitted hfirst]
  rw [loopEndChanges, loopEndChanges, hbody, h.graph, h.fresh, ← Graph.replay_append,
    ← Graph.replay_append]
  generalize hds : w.loopBodyChanges first last = ds
  have hadmitted : ({} : Graph).AdmitsAll (hist ++ ds) := by
    refine (Graph.admitsAll_append _ _ _).2 ⟨h.admitted, ?_⟩
    rw [← hds]
    unfold loopBodyChanges
    split
    · exact ⟨rfl, trivial⟩
    · trivial
  have hfirst' : first ∈ registeredBy (hist ++ ds) := by simp [hfirst]
  obtain ⟨k, hk, hw', hu'⟩ := Graph.newest_replay_eq base hfirst'
  unfold backEdgeChanges
  rw [hw', hu', Option.getD_some, Graph.kind?_replay hbase hadmitted hk]

/-- Both walks leave a clause with the same changes. -/
theorem clauseEnd_eq (hbase : base.Sound) (h : Mirrors base hist w u) {line : Int}
    (hline : line ∈ registeredBy hist) (outer : Scope) :
    u.clauseEndChanges line outer = w.clauseEndChanges line outer := by
  unfold clauseEndChanges kindAt
  rw [h.graph, h.fresh, Graph.kind?_replay hbase h.admitted hline,
    Graph.hasSuccessorOfKind_replay hbase h.admitted hline]

end Mirrors

end Walk

section

variable {ε : Type} {decode : List UInt8 → Except ε String}
variable {v : Visit} {w w' : Walk} {cs : List Change} {base : Graph}

/-- Wherever a walk from scratch mirrors `w`, it makes the same visit with the same changes, and
goes on mirroring. -/
def Visit.Mirrored (decode : List UInt8 → Except ε String) (base : Graph) (v : Visit) (w : Walk)
    (cs : List Change) (w' : Walk) : Prop :=
  ∀ {hist : List Change} {u : Walk}, Walk.Mirrors base hist w u →
    ∃ u', Visits decode v u cs u' ∧ Walk.Mirrors base (hist ++ cs) w' u'

namespace Visits

/-- Visits with the same changes keep mirrored walks alike. -/
theorem mirrors {hist : List Change} {u u' : Walk} (h : Visits decode v w cs w')
    (hmirror : Walk.Mirrors base hist w u) (h' : Visits decode v u cs u')
    (hscope : u'.scope = w'.scope) : Walk.Mirrors base (hist ++ cs) w' u' := by
  obtain ⟨hcs, hanchored⟩ := h'.admitted hmirror.anchored
  exact hmirror.step h.graph_eq h'.graph_eq hscope hcs hanchored

/-! Parts are entered with changes that depend on the scope alone, so that they are the same on both
sides. Only the ends of loops and clauses ask the graph. -/

/-- **A return** changes both graphs in the same way. -/
theorem mirrored_return {n : Node} (label : n.label = .returnStatement)
    (inside : Visits decode (.nodes n.named) (w.enterReturn n.startLine) cs w')
    (ih : (Visit.nodes n.named).Mirrored decode base (w.enterReturn n.startLine) cs w') :
    (Visit.node n).Mirrored decode base w (Walk.returnChanges w.scope n.startLine ++ cs) w' := by
  intro hist u hm
  obtain ⟨hadmitted, hanchored⟩ := Walk.enterReturn_admitted hm.anchored n.startLine
  have hgraph := Walk.graph_enterReturn u n.startLine
  rw [hm.scope] at hadmitted hgraph
  obtain ⟨u', hu', hm'⟩ := ih (hm.step (Walk.graph_enterReturn w _) hgraph
    (by rw [Walk.scope_enterReturn, Walk.scope_enterReturn, hm.scope]) hadmitted hanchored)
  have hvisit := Visits.ret label hu'
  rw [hm.scope] at hvisit
  exact ⟨u', hvisit, mirrors (.ret label inside) hm hvisit hm'.scope⟩

/-- **A spawn** does, too. -/
theorem mirrored_spawn {n : Node} (label : n.label = .goStatement)
    (inside : Visits decode (.nodes n.named) (w.add n.startLine .goStatement) cs w')
    (ih : (Visit.nodes n.named).Mirrored decode base (w.add n.startLine .goStatement) cs w') :
    (Visit.node n).Mirrored decode base w
      (.register n.startLine .goStatement w.scope.function :: cs) w' := by
  intro hist u hm
  have hgraph : ∀ x : Walk, (x.add n.startLine .goStatement).graph
      = x.graph.replay [.register n.startLine .goStatement x.scope.function] := fun _ => rfl
  have hgraph_u := hgraph u
  rw [hm.scope] at hgraph_u
  have hanchored := hm.anchored.of_replay hgraph_u (fun _ => .inl) (fun _ => .inl) (fun _ => .inl)
  obtain ⟨u', hu', hm'⟩ := ih (hm.step (hgraph w) hgraph_u hm.scope ⟨rfl, trivial⟩ hanchored)
  have hvisit := Visits.spawn label hu'
  rw [hm.scope] at hvisit
  exact ⟨u', hvisit, mirrors (.spawn label inside) hm hvisit hm'.scope⟩

/-- The scope in front of an if says where its false path ends, on both sides. -/
theorem mirrored_cond {n : Node} {w₁ w₂ w₃ : Walk} {cs ds es : List Change}
    (h : Visits decode (.node n) w
      (Walk.condChanges w.scope n.startLine (Outline.falsePath n).1 (w.scope.elseEnd n)
        ++ (cs ++ (Walk.falsePathChanges w₁.scope (Outline.falsePath n).1 (w.scope.elseEnd n)
          ++ (ds ++ es)))) w₃)
    (label : n.label = .ifStatement)
    (ih₁ : (Visit.nodes (n.statementsUnder .consequence)).Mirrored decode base
      (w.enterCond n.startLine (Outline.falsePath n).1 (w.scope.elseEnd n)) cs w₁)
    (ih₂ : (Visit.nodes (n.namedUnder .initializer ++ n.namedUnder .condition)).Mirrored decode base
      (w₁.leaveCond (Outline.falsePath n).1 (w.scope.elseEnd n)) ds w₂)
    (ih₃ : (Visit.nodes (n.child? .alternative).toList).Mirrored decode base w₂ es w₃) :
    (Visit.node n).Mirrored decode base w
      (Walk.condChanges w.scope n.startLine (Outline.falsePath n).1 (w.scope.elseEnd n)
        ++ (cs ++ (Walk.falsePathChanges w₁.scope (Outline.falsePath n).1 (w.scope.elseEnd n)
          ++ (ds ++ es)))) w₃ := by
  intro hist u hm
  obtain ⟨hadmitted, hanchored⟩ := Walk.enterCond_admitted hm.anchored n.startLine
    (Outline.falsePath n).1 (w.scope.elseEnd n)
  have hgraph := Walk.graph_enterCond u n.startLine (Outline.falsePath n).1 (w.scope.elseEnd n)
  rw [hm.scope] at hadmitted hgraph
  obtain ⟨u₁, hu₁, hm₁⟩ := ih₁ (hm.step (Walk.graph_enterCond w _ _ _) hgraph hm.scope hadmitted
    hanchored)
  obtain ⟨hadmitted₁, hanchored₁⟩ := hu₁.leaveCond_admitted hm₁.anchored
  have hgraph₁ := Walk.graph_leaveCond u₁ (Outline.falsePath n).1 (w.scope.elseEnd n)
  rw [hm₁.scope] at hadmitted₁ hgraph₁
  obtain ⟨u₂, hu₂, hm₂⟩ := ih₂ (hm₁.step (Walk.graph_leaveCond w₁ _ _) hgraph₁
    (by rw [Walk.scope_leaveCond, Walk.scope_leaveCond, hm₁.scope]) hadmitted₁ hanchored₁)
  obtain ⟨u₃, hu₃, hm₃⟩ := ih₃ hm₂
  -- the rule speaks of the scope of its own walk, the changes of that of the other
  rw [← hm.scope] at hu₁ hu₂
  have hvisit := Visits.cond label hu₁ hu₂ hu₃
  rw [hm.scope, hm₁.scope] at hvisit
  exact ⟨u₃, hvisit, mirrors h hm hvisit hm₃.scope⟩

/-- The end of a loop asks for the block registered last, which is one that both walks have
registered. -/
theorem mirrored_loop {n : Node} {w₁ w₂ : Walk} {cs ds : List Change} (hbase : base.Sound)
    (label : n.label = .forStatement) (header : Visits decode (.nodes n.headerParts) w cs w₁)
    (body : Visits decode (.nodes (n.statementsUnder .body))
      ((w₁.aimAt w.scope.returnTarget).enterLoop n.startLine) ds w₂)
    (ih₁ : (Visit.nodes n.headerParts).Mirrored decode base w cs w₁)
    (ih₂ : (Visit.nodes (n.statementsUnder .body)).Mirrored decode base
      ((w₁.aimAt w.scope.returnTarget).enterLoop n.startLine) ds w₂) :
    (Visit.node n).Mirrored decode base w
      (cs ++ (Walk.loopChanges w.scope n.startLine
        ++ (ds ++ w₂.loopEndChanges n.startLine n.endLine)))
      (w₂.leaveLoop n.startLine n.endLine w.scope) := by
  intro hist u hm
  obtain ⟨u₁, hu₁, hm₁⟩ := ih₁ hm
  obtain ⟨hadmitted, hanchored⟩ :=
    Walk.enterLoop_admitted (hu₁.anchored_aimAt hm.anchored) n.startLine
  have hgraph := hu₁.graph_enterLoop n.startLine
  rw [hu₁.scope_aimAt, Walk.graph_aimAt] at hadmitted
  rw [hm.scope] at hadmitted hanchored hgraph
  obtain ⟨u₂, hu₂, hm₂⟩ := ih₂ (hm₁.step (header.graph_enterLoop _) hgraph
    (by simp only [Walk.scope_enterLoop, Walk.scope_aimAt, hm₁.scope]) hadmitted hanchored)
  rw [← hm.scope] at hu₂
  have hfirst : n.startLine
      ∈ registeredBy (hist ++ cs ++ Walk.loopChanges w.scope n.startLine ++ ds) := by
    simp [Walk.loopChanges]
  have hvisit := Visits.loop label hu₁ hu₂
  rw [hm₂.loopEnd_eq hbase hfirst, hm.scope] at hvisit
  have hscope : (u₂.leaveLoop n.startLine n.endLine w.scope).scope
      = (w₂.leaveLoop n.startLine n.endLine w.scope).scope := by
    rw [Walk.scope_leaveLoop, Walk.scope_leaveLoop, hm₂.scope]
  exact ⟨_, hvisit, mirrors (.loop label header body) hm hvisit hscope⟩

/-- **A switch or select** is linked with lines that its own scope names, and leaves the rest to its
clauses. -/
theorem mirrored_choice {n : Node} {form : Choice} {w₁ w₂ : Walk} {cs ds : List Change}
    (label : n.label.choice? = some form)
    (header : Visits decode (.nodes n.headerParts) w cs w₁)
    (parts : Visits decode (.clauses form n.clauses)
      ((w₁.aimAt w.scope.returnTarget).enterChoice form n.startLine) ds w₂)
    (ih₁ : (Visit.nodes n.headerParts).Mirrored decode base w cs w₁)
    (ih₂ : (Visit.clauses form n.clauses).Mirrored decode base
      ((w₁.aimAt w.scope.returnTarget).enterChoice form n.startLine) ds w₂) :
    (Visit.node n).Mirrored decode base w
      (cs ++ (Walk.choiceChanges w.scope form n.startLine ++ ds))
      { w₂ with scope := { w₂.scope with switchHeader := w.scope.switchHeader } } := by
  intro hist u hm
  obtain ⟨u₁, hu₁, hm₁⟩ := ih₁ hm
  obtain ⟨hadmitted, hanchored⟩ :=
    Walk.enterChoice_admitted (hu₁.anchored_aimAt hm.anchored) form n.startLine
  have hgraph := hu₁.graph_enterChoice form n.startLine
  rw [hu₁.scope_aimAt, Walk.graph_aimAt] at hadmitted
  rw [hm.scope] at hadmitted hanchored hgraph
  obtain ⟨u₂, hu₂, hm₂⟩ := ih₂ (hm₁.step (header.graph_enterChoice _ _) hgraph
    (by simp only [Walk.scope_enterChoice, Walk.scope_aimAt, hm₁.scope]) hadmitted hanchored)
  rw [← hm.scope] at hu₂
  have hvisit := Visits.choice label hu₁ hu₂
  rw [hm.scope] at hvisit
  exact ⟨_, hvisit, mirrors (.choice label header parts) hm hvisit (by rw [hm₂.scope])⟩

/-- The end of a clause asks for the kind and the edges of its block, which both walks have
registered. -/
theorem mirrored_clause {form : Choice} {k : Node} {ks : List Node} {w₁ w₂ : Walk}
    {cs ds : List Change} (hbase : base.Sound)
    (body : Visits decode (.nodes k.clauseBody)
      (w.enterClause (Outline.clauseEntry form k).1 (Outline.clauseEntry form k).2) cs w₁)
    (rest : Visits decode (.clauses form ks)
      (w₁.leaveClause (Outline.clauseEntry form k).1 w.scope) ds w₂)
    (ih₁ : (Visit.nodes k.clauseBody).Mirrored decode base
      (w.enterClause (Outline.clauseEntry form k).1 (Outline.clauseEntry form k).2) cs w₁)
    (ih₂ : (Visit.clauses form ks).Mirrored decode base
      (w₁.leaveClause (Outline.clauseEntry form k).1 w.scope) ds w₂) :
    (Visit.clauses form (k :: ks)).Mirrored decode base w
      (Walk.clauseChanges w.scope (Outline.clauseEntry form k).1 (Outline.clauseEntry form k).2
        ++ (cs ++ (w₁.clauseEndChanges (Outline.clauseEntry form k).1 w.scope ++ ds))) w₂ := by
  intro hist u hm
  obtain ⟨hadmitted, hanchored⟩ := Walk.enterClause_admitted hm.anchored
    (Outline.clauseEntry form k).1 (BlockKind.isMarker_of_isPlain (clauseEntry_isPlain form k))
  have hgraph := Walk.graph_enterClause u (Outline.clauseEntry form k).1
    (Outline.clauseEntry form k).2
  rw [hm.scope] at hadmitted hgraph
  obtain ⟨u₁, hu₁, hm₁⟩ := ih₁ (hm.step (Walk.graph_enterClause w _ _) hgraph
    (by rw [Walk.scope_enterClause, Walk.scope_enterClause, hm.scope]) hadmitted hanchored)
  have hline : (Outline.clauseEntry form k).1 ∈ registeredBy (hist ++ Walk.clauseChanges w.scope
      (Outline.clauseEntry form k).1 (Outline.clauseEntry form k).2 ++ cs) := by
    simp [Walk.clauseChanges]
  obtain ⟨hadmitted₁, hanchored₁⟩ := hu₁.leaveClause_admitted hm.anchored hm₁.anchored
  have hgraph₁ := Walk.graph_leaveClause u₁ (Outline.clauseEntry form k).1 u.scope
  rw [hm₁.clauseEnd_eq hbase hline] at hadmitted₁ hgraph₁
  rw [hm.scope] at hadmitted₁ hgraph₁ hanchored₁
  obtain ⟨u₂, hu₂, hm₂⟩ := ih₂ (hm₁.step (Walk.graph_leaveClause w₁ _ _) hgraph₁
    (by rw [Walk.scope_leaveClause, Walk.scope_leaveClause, hm₁.scope]) hadmitted₁ hanchored₁)
  rw [← hm.scope] at hu₂
  have hvisit := Visits.clause hu₁ hu₂
  rw [hm₁.clauseEnd_eq hbase hline, hm.scope] at hvisit
  exact ⟨u₂, hvisit, mirrors (.clause body rest) hm hvisit hm₂.scope⟩

/-- **Mirroring**: whatever a visit does on top of a graph, it does from scratch. The history of
the walk carries over all that the visit will look at. -/
theorem mirrored (hbase : base.Sound) (h : Visits decode v w cs w') :
    v.Mirrored decode base w cs w' := by
  induction h with
  | other label _ ih =>
    intro hist u hm
    obtain ⟨u', hu', hm'⟩ := ih hm
    exact ⟨u', .other label hu', hm'⟩
  | @prototype n w name label hbody named =>
    intro hist u hm
    have hu' := Visits.prototype label hbody named (w := u)
    exact ⟨_, hu', mirrors (.prototype label hbody named) hm hu' hm.scope⟩
  | @function n w body name cs w' label hbody named inside ih =>
    intro hist u hm
    obtain ⟨u', hu', hm'⟩ := ih (.enterFunction hm.graph hm.fresh hm.admitted name n.startLine
      n.endLine (Outline.returnLines body))
    have hvisit := Visits.function label hbody named hu'
    exact ⟨_, hvisit, mirrors (.function label hbody named inside) hm hvisit hm.scope⟩
  | ret label inside ih => exact mirrored_return label inside ih
  | spawn label inside ih => exact mirrored_spawn label inside ih
  | cond label consequence header alternative ih₁ ih₂ ih₃ =>
    exact mirrored_cond (.cond label consequence header alternative) label ih₁ ih₂ ih₃
  | loop label header body ih₁ ih₂ => exact mirrored_loop hbase label header body ih₁ ih₂
  | choice label header parts ih₁ ih₂ => exact mirrored_choice label header parts ih₁ ih₂
  | nil => exact fun {hist u} hm => ⟨u, .nil, by rwa [List.append_nil]⟩
  | cons first rest ih₁ ih₂ =>
    intro hist u hm
    obtain ⟨u₁, hu₁, hm₁⟩ := ih₁ hm
    obtain ⟨u₂, hu₂, hm₂⟩ := ih₂ hm₁
    exact ⟨u₂, .cons hu₁ hu₂, by rwa [← List.append_assoc]⟩
  | noClause => exact fun {hist u} hm => ⟨u, .noClause, by rwa [List.append_nil]⟩
  | clause body rest ih₁ ih₂ => exact mirrored_clause hbase body rest ih₁ ih₂

end Visits

end

end GoFlow
