import GoFlow.Proofs.Outline
import GoFlow.Proofs.Parts

/-!
# Visits: the walk as a relation on nodes

`Visits decode v w cs w'` says that a stretch `v` of the tree takes the walk from `w` to `w'` by the
changes `cs`. There is one rule for each construct, in terms of nodes and of the parts that the walk
picks from them, so that what holds of every walk is proved by induction on the rules.

- `Visits.scope_eq`: a visit leaves the scope as it was, the return target apart.
- `Visits.graph_eq`: the graph after a visit is the replay of its changes.
- `visits_nodes_iff`: the relation is the walk over the outline, exactly where that succeeds.
- `build_eq_ok_iff`: a build is a visit to the children of the root, and the two passes.
-/

namespace GoFlow

/-- A stretch of a tree: a node, a row of nodes, or the clauses of a switch or select. -/
inductive Visit where
  | node (n : Node)
  | nodes (ns : List Node)
  | clauses (form : Choice) (ks : List Node)

/-- The line on which the false path of an if ends. -/
def Scope.elseEnd (s : Scope) (n : Node) : Int :=
  Walk.falseEnd s (Outline.falsePath n).1 (Outline.falsePath n).2

section

variable {ε : Type} (decode : List UInt8 → Except ε String)

/-- Whether a name is what the text decodes to. A missing text stands for the empty name. -/
def Named : Option (List UInt8) → String → Prop
  | none, name => name = ""
  | some text, name => decode text = .ok name

/-- What visits to stretches of a tree do to a walk. -/
inductive Visits : Visit → Walk → List Change → Walk → Prop where
  /-- A node that is no construct passes the walk on to its named children. -/
  | other {n w cs w'} (label : n.label.isConstruct = false)
      (inside : Visits (.nodes n.named) w cs w') : Visits (.node n) w cs w'
  | prototype {n w name} (label : n.label.isFunction) (hbody : n.child? .body = none)
      (named : Named decode (Outline.nameText n) name) :
      Visits (.node n) w [.register n.startLine .functionEntry name]
        { w.enterFunction name n.startLine none with scope := w.scope }
  | function {n w body name cs w'} (label : n.label.isFunction) (hbody : n.child? .body = some body)
      (named : Named decode (Outline.nameText n) name)
      (inside : Visits (.nodes body.statements)
        ((w.enterFunction name n.startLine (some n.endLine)).foresee (Outline.returnLines body)
          n.endLine) cs w') :
      Visits (.node n) w
        (.register n.startLine .functionEntry name
          :: (Walk.foreseeChanges name (Outline.returnLines body) n.endLine
            ++ (cs ++ Walk.closeChanges name (Outline.returnLines body) n.endLine)))
        ((w'.closeOn (Outline.returnLines body) n.endLine).leaveFunction name n.startLine w.scope)
  | ret {n w cs w'} (label : n.label = .returnStatement)
      (inside : Visits (.nodes n.named) (w.enterReturn n.startLine) cs w') :
      Visits (.node n) w (Walk.returnChanges w.scope n.startLine ++ cs) w'
  | spawn {n w cs w'} (label : n.label = .goStatement)
      (inside : Visits (.nodes n.named) (w.add n.startLine .goStatement) cs w') :
      Visits (.node n) w (.register n.startLine .goStatement w.scope.function :: cs) w'
  | cond {n w cs w₁ ds w₂ es w₃} (label : n.label = .ifStatement)
      (consequence : Visits (.nodes (n.statementsUnder .consequence))
        (w.enterCond n.startLine (Outline.falsePath n).1 (w.scope.elseEnd n)) cs w₁)
      (header : Visits (.nodes (n.namedUnder .initializer ++ n.namedUnder .condition))
        (w₁.leaveCond (Outline.falsePath n).1 (w.scope.elseEnd n)) ds w₂)
      (alternative : Visits (.nodes (n.child? .alternative).toList) w₂ es w₃) :
      Visits (.node n) w
        (Walk.condChanges w.scope n.startLine (Outline.falsePath n).1 (w.scope.elseEnd n)
          ++ (cs ++ (Walk.falsePathChanges w₁.scope (Outline.falsePath n).1 (w.scope.elseEnd n)
            ++ (ds ++ es)))) w₃
  | loop {n w cs w₁ ds w₂} (label : n.label = .forStatement)
      (header : Visits (.nodes n.headerParts) w cs w₁)
      (body : Visits (.nodes (n.statementsUnder .body))
        ((w₁.aimAt w.scope.returnTarget).enterLoop n.startLine) ds w₂) :
      Visits (.node n) w
        (cs ++ (Walk.loopChanges w.scope n.startLine
          ++ (ds ++ w₂.loopEndChanges n.startLine n.endLine)))
        (w₂.leaveLoop n.startLine n.endLine w.scope)
  | choice {n form w cs w₁ ds w₂} (label : n.label.choice? = some form)
      (header : Visits (.nodes n.headerParts) w cs w₁)
      (parts : Visits (.clauses form n.clauses)
        ((w₁.aimAt w.scope.returnTarget).enterChoice form n.startLine) ds w₂) :
      Visits (.node n) w (cs ++ (Walk.choiceChanges w.scope form n.startLine ++ ds))
        { w₂ with scope := { w₂.scope with switchHeader := w.scope.switchHeader } }
  | nil {w} : Visits (.nodes []) w [] w
  | cons {n ns w cs w₁ ds w₂} (first : Visits (.node n) w cs w₁)
      (rest : Visits (.nodes ns) w₁ ds w₂) : Visits (.nodes (n :: ns)) w (cs ++ ds) w₂
  | noClause {form w} : Visits (.clauses form []) w [] w
  | clause {form k ks w cs w₁ ds w₂}
      (body : Visits (.nodes k.clauseBody)
        (w.enterClause (Outline.clauseEntry form k).1 (Outline.clauseEntry form k).2) cs w₁)
      (rest : Visits (.clauses form ks)
        (w₁.leaveClause (Outline.clauseEntry form k).1 w.scope) ds w₂) :
      Visits (.clauses form (k :: ks)) w
        (Walk.clauseChanges w.scope (Outline.clauseEntry form k).1 (Outline.clauseEntry form k).2
          ++ (cs ++ (w₁.clauseEndChanges (Outline.clauseEntry form k).1 w.scope ++ ds))) w₂

end

namespace Visits

variable {ε : Type} {decode : List UInt8 → Except ε String}
variable {v : Visit} {w w' : Walk} {cs : List Change}

/-- **Scoping**: a visit gives every back-reference back, the return target apart. -/
theorem scope_eq (h : Visits decode v w cs w') :
    w'.scope = { w.scope with returnTarget := w'.scope.returnTarget } := by
  induction h with
  | other _ _ ih => exact ih
  | prototype => rfl
  | function => rfl
  | ret _ _ ih => exact ih.trans (by rw [Walk.scope_enterReturn])
  | spawn _ _ ih => exact ih
  | cond _ _ _ _ ih₁ ih₂ ih₃ =>
    rw [Walk.scope_leaveCond] at ih₂
    rw [Walk.scope_enterCond] at ih₁
    rw [ih₃, ih₂, ih₁]
  | loop _ _ _ ih₁ ih₂ =>
    rw [Walk.scope_enterLoop, Walk.scope_aimAt] at ih₂
    rw [Walk.scope_leaveLoop, ih₂, ih₁]
  | choice _ _ _ ih₁ ih₂ =>
    rw [Walk.scope_enterChoice, Walk.scope_aimAt] at ih₂
    rw [ih₂, ih₁]
  | nil => rfl
  | cons _ _ ih₁ ih₂ => rw [ih₂, ih₁]
  | noClause => rfl
  | clause _ _ ih₁ ih₂ =>
    rw [Walk.scope_leaveClause] at ih₂
    rw [Walk.scope_enterClause] at ih₁
    rw [ih₂, ih₁]

/-- A visit leaves the scope as it found it, the return target apart. -/
theorem function_eq (h : Visits decode v w cs w') : w'.scope.function = w.scope.function := by
  rw [h.scope_eq]

theorem functionEnd_eq (h : Visits decode v w cs w') :
    w'.scope.functionEnd = w.scope.functionEnd := by
  rw [h.scope_eq]

theorem loopHeader_eq (h : Visits decode v w cs w') : w'.scope.loopHeader = w.scope.loopHeader := by
  rw [h.scope_eq]

theorem switchHeader_eq (h : Visits decode v w cs w') :
    w'.scope.switchHeader = w.scope.switchHeader := by
  rw [h.scope_eq]

/-- With the return target put back, the scope is the one before the visit. -/
theorem scope_aimAt (h : Visits decode v w cs w') :
    (w'.aimAt w.scope.returnTarget).scope = w.scope := by
  rw [Walk.scope_aimAt, h.scope_eq]

/-- What a loop registers behind its header. -/
theorem graph_enterLoop (h : Visits decode v w cs w') (line : Int) :
    ((w'.aimAt w.scope.returnTarget).enterLoop line).graph
      = w'.graph.replay (Walk.loopChanges w.scope line) := by
  rw [Walk.graph_enterLoop, h.scope_aimAt, Walk.graph_aimAt]

/-- What a switch or select registers behind its header. -/
theorem graph_enterChoice (h : Visits decode v w cs w') (form : Choice) (line : Int) :
    ((w'.aimAt w.scope.returnTarget).enterChoice form line).graph
      = w'.graph.replay (Walk.choiceChanges w.scope form line) := by
  rw [Walk.graph_enterChoice, h.scope_aimAt, Walk.graph_aimAt]

/-- Nothing of a loop is left in the scope behind it. -/
theorem scope_afterLoop {u v : Visit} {w w₁ w₂ : Walk} {cs ds : List Change} {first : Int}
    (header : Visits decode u w cs w₁)
    (body : Visits decode v ((w₁.aimAt w.scope.returnTarget).enterLoop first) ds w₂) (last : Int) :
    (w₂.leaveLoop first last w.scope).scope = w.scope := by
  rw [Walk.scope_leaveLoop, body.scope_eq, Walk.scope_enterLoop, header.scope_aimAt]

/-- The two ways of visiting a declaration. -/
theorem function_cases {n : Node} (h : Visits decode (.node n) w cs w') (hn : n.label.isFunction) :
    (∃ name, n.child? .body = none ∧ Named decode (Outline.nameText n) name ∧
      cs = [.register n.startLine .functionEntry name]) ∨
    ∃ body name ds u, n.child? .body = some body ∧ Named decode (Outline.nameText n) name ∧
      Visits decode (.nodes body.statements)
        ((w.enterFunction name n.startLine (some n.endLine)).foresee (Outline.returnLines body)
          n.endLine) ds u ∧
      cs = .register n.startLine .functionEntry name
        :: (Walk.foreseeChanges name (Outline.returnLines body) n.endLine
          ++ (ds ++ Walk.closeChanges name (Outline.returnLines body) n.endLine)) := by
  cases h with
  | prototype _ hbody named => exact .inl ⟨_, hbody, named, rfl⟩
  | function _ hbody named inside => exact .inr ⟨_, _, _, _, hbody, named, inside, rfl⟩
  | other label =>
    rw [Label.isConstruct_of_isFunction hn] at label
    cases label
  | choice label =>
    rw [Label.choice?_of_isFunction hn] at label
    cases label
  | ret label => rw [label] at hn; cases hn
  | spawn label => rw [label] at hn; cases hn
  | cond label => rw [label] at hn; cases hn
  | loop label => rw [label] at hn; cases hn

/-- A visit to a construct registers the line on which it begins. -/
theorem startLine_mem {n : Node} (h : Visits decode (.node n) w cs w')
    (hn : n.label.isConstruct) : n.startLine ∈ registeredBy cs := by
  cases h with
  | other label => rw [hn] at label; cases label
  | prototype => simp
  | function => simp
  | ret => simp [Walk.returnChanges]
  | spawn => simp
  | cond => simp [Walk.condChanges]
  | loop => simp [Walk.loopChanges]
  | choice => simp [Walk.choiceChanges]

/-- A visit to a row visits each node of it, with the same back-references but for the return
target. -/
theorem node_of_mem {ns : List Node} (h : Visits decode (.nodes ns) w cs w') {s : Node}
    (hs : s ∈ ns) :
    ∃ u ds u', Visits decode (.node s) u ds u' ∧ ds ⊆ cs ∧
      u.scope.switchHeader = w.scope.switchHeader := by
  induction ns generalizing w cs with
  | nil => cases hs
  | cons n ns ih =>
    cases h with
    | cons first rest =>
      rcases List.mem_cons.1 hs with rfl | hs
      · exact ⟨_, _, _, first, List.subset_append_left _ _, rfl⟩
      · obtain ⟨u, ds, u', hu, hds, hscope⟩ := ih rest hs
        exact ⟨u, ds, u', hu, List.Subset.trans hds (List.subset_append_right _ _),
          hscope.trans first.switchHeader_eq⟩

/-- So it registers the lines on which the constructs of the row begin. -/
theorem startLine_mem_of_mem {ns : List Node} (h : Visits decode (.nodes ns) w cs w') {s : Node}
    (hs : s ∈ ns) (hconstruct : s.label.isConstruct) : s.startLine ∈ registeredBy cs := by
  obtain ⟨u, ds, u', hu, hds, -⟩ := h.node_of_mem hs
  obtain ⟨kind, owner, hmem⟩ := mem_registeredBy.1 (hu.startLine_mem hconstruct)
  exact mem_registeredBy.2 ⟨kind, owner, hds hmem⟩

/-- **A visit is the replay of its changes.** -/
theorem graph_eq (h : Visits decode v w cs w') : w'.graph = w.graph.replay cs := by
  induction h with
  | other _ _ ih => exact ih
  | prototype => rfl
  | function _ _ _ inside ih =>
    -- the last line is registered under the name that the body was entered with
    have hname := inside.function_eq
    rw [Walk.scope_foresee] at hname
    rw [Walk.graph_leaveFunction, Walk.graph_closeOn, ih, Walk.graph_foresee_enterFunction, hname]
    simp only [Graph.replay_cons, Graph.replay_append]
    rfl
  | ret _ _ ih => rw [ih, Walk.graph_enterReturn, Graph.replay_append]
  | spawn _ _ ih => exact ih
  | cond _ _ _ _ ih₁ ih₂ ih₃ =>
    rw [ih₃, ih₂, Walk.graph_leaveCond, ih₁, Walk.graph_enterCond]
    simp only [Graph.replay_append]
  | loop _ header _ ih₁ ih₂ =>
    rw [Walk.graph_leaveLoop, ih₂, header.graph_enterLoop, ih₁]
    simp only [Graph.replay_append]
  | choice _ header _ ih₁ ih₂ =>
    show Walk.graph _ = _
    rw [ih₂, header.graph_enterChoice, ih₁]
    simp only [Graph.replay_append]
  | nil => rfl
  | cons _ _ ih₁ ih₂ => rw [ih₂, ih₁, Graph.replay_append]
  | noClause => rfl
  | clause _ _ ih₁ ih₂ =>
    rw [ih₂, Walk.graph_leaveClause, ih₁, Walk.graph_enterClause]
    simp only [Graph.replay_append]

end Visits

/-! ## Visits and the walk over the outline -/

theorem bind_eq_ok {ε α β : Type} {x : Except ε α} {f : α → Except ε β} {b : β} :
    (x >>= f) = .ok b ↔ ∃ a, x = .ok a ∧ f a = .ok b := by
  cases x with
  | error e =>
    constructor
    · intro h
      cases h
    · rintro ⟨a, h, -⟩
      cases h
  | ok a =>
    constructor
    · exact fun h => ⟨a, rfl, h⟩
    · rintro ⟨_, ⟨⟩, hb⟩
      exact hb

section

variable {ε : Type} (decode : List UInt8 → Except ε String)

/-- A name is decoded if it is missing or its text can be decoded. -/
theorem decodeName_eq_ok {w : Walk} {text : Option (List UInt8)} {name : String} :
    Walk.decodeName decode w text = .ok name ↔ Named decode text name := by
  cases text with
  | none =>
    show Except.ok "" = Except.ok name ↔ name = ""
    rw [Except.ok.injEq, eq_comm]
  | some text =>
    rw [Walk.decodeName, Named]
    cases decode text with
    | error cause =>
      constructor
      · intro h
        cases h
      · intro h
        cases h
    | ok name' =>
      show Except.ok name' = Except.ok name ↔ Except.ok name' = Except.ok name
      rw [Except.ok.injEq, Except.ok.injEq]

/-- Rows are walked one after the other. -/
theorem items_append (is js : List Item) :
    ∀ w : Walk, Walk.items decode (is ++ js) w
      = (Walk.items decode is w >>= Walk.items decode js) := by
  induction is with
  | nil => intro w; simp only [List.nil_append, Walk.items]; rfl
  | cons i is ih =>
    intro w
    rw [List.cons_append, Walk.items, Walk.items]
    cases Walk.item decode i w with
    | error e => rfl
    | ok w₁ => exact ih w₁

theorem items_singleton (i : Item) (w : Walk) :
    Walk.items decode [i] w = Walk.item decode i w := by
  rw [Walk.items]
  cases Walk.item decode i w with
  | error e => rfl
  | ok w₁ => show Walk.items decode [] w₁ = _; rw [Walk.items]

/-- The walk over the outline of a stretch succeeds and leads to `w'`. -/
def Visit.Walks : Visit → Walk → Walk → Prop
  | .node n, w, w' => Walk.items decode (Outline.ofNode n) w = .ok w'
  | .nodes ns, w, w' => Walk.items decode (Outline.ofNodes ns) w = .ok w'
  | .clauses form ks, w, w' => Walk.clauses decode (ks.map (Outline.ofClause form)) w = .ok w'

end

namespace Visits

variable {ε : Type} {decode : List UInt8 → Except ε String}

/-- A visit is a walk over the outline. -/
theorem walks {v : Visit} {w w' : Walk} {cs : List Change} (h : Visits decode v w cs w') :
    v.Walks decode w w' := by
  induction h with
  | other label _ ih =>
    show Walk.items decode _ _ = _
    rw [Outline.ofNode_other label]
    exact ih
  | prototype label hbody named =>
    show Walk.items decode _ _ = _
    rw [Outline.ofNode_prototype label hbody, items_singleton, Walk.item,
      (decodeName_eq_ok decode).2 named]
    rfl
  | function label hbody named _ ih =>
    show Walk.items decode _ _ = _
    rw [Outline.ofNode_function label hbody, items_singleton, Walk.item]
    exact bind_eq_ok.2 ⟨_, (decodeName_eq_ok decode).2 named, bind_eq_ok.2 ⟨_, ih, rfl⟩⟩
  | ret label _ ih =>
    show Walk.items decode _ _ = _
    rw [Outline.ofNode_ret label, items_singleton, Walk.item]
    exact ih
  | spawn label _ ih =>
    show Walk.items decode _ _ = _
    rw [Outline.ofNode_spawn label, items_singleton, Walk.item]
    exact ih
  | cond label _ _ _ ih₁ ih₂ ih₃ =>
    show Walk.items decode _ _ = _
    rw [Outline.ofNode_cond label, items_singleton, Walk.item]
    exact bind_eq_ok.2 ⟨_, ih₁, bind_eq_ok.2 ⟨_, ih₂, ih₃⟩⟩
  | loop label _ _ ih₁ ih₂ =>
    show Walk.items decode _ _ = _
    rw [Outline.ofNode_loop label, items_singleton, Walk.item]
    exact bind_eq_ok.2 ⟨_, ih₁, bind_eq_ok.2 ⟨_, ih₂, rfl⟩⟩
  | choice label _ _ ih₁ ih₂ =>
    show Walk.items decode _ _ = _
    rw [Outline.ofNode_choice label, items_singleton, Walk.item]
    exact bind_eq_ok.2 ⟨_, ih₁, bind_eq_ok.2 ⟨_, ih₂, rfl⟩⟩
  | nil =>
    show Walk.items decode [] _ = _
    rw [Walk.items]
  | cons _ _ ih₁ ih₂ =>
    show Walk.items decode _ _ = _
    rw [Outline.ofNodes_cons, items_append]
    exact bind_eq_ok.2 ⟨_, ih₁, ih₂⟩
  | noClause =>
    show Walk.clauses decode [] _ = _
    rw [Walk.clauses]
  | clause _ _ ih₁ ih₂ =>
    show Walk.clauses decode (Outline.ofClause _ _ :: _) _ = _
    rw [Outline.ofClause, Walk.clauses]
    exact bind_eq_ok.2 ⟨_, ih₁, ih₂⟩

/-- A walk over the outlines of a row is a visit to the row, if that holds of each node of it. -/
theorem exists_nodes {ns : List Node}
    (hns : ∀ n ∈ ns, ∀ {w w'}, (Visit.node n).Walks decode w w' →
      ∃ cs, Visits decode (.node n) w cs w') :
    ∀ {w w'}, (Visit.nodes ns).Walks decode w w' → ∃ cs, Visits decode (.nodes ns) w cs w' := by
  induction ns with
  | nil =>
    intro w w' h
    rw [Visit.Walks, Outline.ofNodes_nil, Walk.items] at h
    cases h
    exact ⟨[], .nil⟩
  | cons n ns ih =>
    intro w w' h
    rw [Visit.Walks, Outline.ofNodes_cons, items_append] at h
    obtain ⟨w₁, h₁, h₂⟩ := bind_eq_ok.1 h
    obtain ⟨cs, hcs⟩ := hns n List.mem_cons_self h₁
    obtain ⟨ds, hds⟩ := ih (fun m hm => hns m (List.mem_cons_of_mem n hm)) h₂
    exact ⟨_, .cons hcs hds⟩

/-- The same for clauses. -/
theorem exists_clauses {form : Choice} {ks : List Node}
    (hks : ∀ k ∈ ks, ∀ {w w'}, (Visit.nodes k.clauseBody).Walks decode w w' →
      ∃ cs, Visits decode (.nodes k.clauseBody) w cs w') :
    ∀ {w w'}, (Visit.clauses form ks).Walks decode w w' →
      ∃ cs, Visits decode (.clauses form ks) w cs w' := by
  induction ks with
  | nil =>
    intro w w' h
    rw [Visit.Walks, List.map_nil, Walk.clauses] at h
    cases h
    exact ⟨[], .noClause⟩
  | cons k ks ih =>
    intro w w' h
    rw [Visit.Walks, List.map_cons, Outline.ofClause, Walk.clauses] at h
    obtain ⟨w₁, h₁, h₂⟩ := bind_eq_ok.1 h
    obtain ⟨cs, hcs⟩ := hks k List.mem_cons_self h₁
    obtain ⟨ds, hds⟩ := ih (fun m hm => hks m (List.mem_cons_of_mem k hm)) h₂
    exact ⟨_, .clause hcs hds⟩

/-- Every walk over the outline of a node that succeeds is a visit to the node. By induction on
the size of the node: the rows that its rule visits hold smaller nodes only. -/
theorem exists_node (n : Node) :
    ∀ {w w'}, (Visit.node n).Walks decode w w' → ∃ cs, Visits decode (.node n) w cs w' := by
  induction hsize : sizeOf n using Nat.strongRecOn generalizing n with
  | ind m ih =>
    subst hsize
    intro w w' h
    have hrow : ∀ ns : List Node, (∀ s ∈ ns, sizeOf s < sizeOf n) →
        ∀ {w w'}, (Visit.nodes ns).Walks decode w w' →
          ∃ cs, Visits decode (.nodes ns) w cs w' :=
      fun ns hns => exists_nodes fun s hs => ih _ (hns s hs) s rfl
    have hnamed : ∀ s ∈ n.named, sizeOf s < sizeOf n :=
      fun s hs => Node.sizeOf_lt_of_mem (List.mem_filter.1 hs).1
    have hunder : ∀ f, ∀ s ∈ n.statementsUnder f, sizeOf s < sizeOf n := by
      intro f s hs
      obtain ⟨c, hc, hs⟩ := Node.mem_statementsUnder hs
      exact Nat.lt_trans (Node.sizeOf_lt_of_mem_list (Node.mem_statements hs))
        (Node.sizeOf_lt_of_mem (Node.child?_mem hc))
    have hnamedUnder : ∀ f, ∀ s ∈ n.namedUnder f, sizeOf s < sizeOf n := by
      intro f s hs
      obtain ⟨c, hc, hs⟩ := Node.mem_namedUnder hs
      exact Nat.lt_trans (Node.sizeOf_lt_of_mem hs) (Node.sizeOf_lt_of_mem (Node.child?_mem hc))
    have hheader : ∀ s ∈ n.headerParts, sizeOf s < sizeOf n :=
      fun s hs => Node.sizeOf_lt_of_mem (List.mem_filter.1 hs).1
    -- each rule undoes the binds of the walk and turns their rows into visits
    rw [Visit.Walks] at h
    rcases n.label.construct_cases with
      label | label | label | label | label | label | ⟨form, label⟩
    · rw [Outline.ofNode_other label] at h
      obtain ⟨cs, hcs⟩ := hrow _ hnamed h
      exact ⟨_, .other label hcs⟩
    · cases hbody : n.child? .body with
      | none =>
        rw [Outline.ofNode_prototype label hbody, items_singleton, Walk.item] at h
        obtain ⟨name, hname, h⟩ := bind_eq_ok.1 h
        cases h
        exact ⟨_, .prototype label hbody ((decodeName_eq_ok decode).1 hname)⟩
      | some body =>
        rw [Outline.ofNode_function label hbody, items_singleton, Walk.item] at h
        obtain ⟨name, hname, h⟩ := bind_eq_ok.1 h
        obtain ⟨w₁, h₁, h⟩ := bind_eq_ok.1 h
        cases h
        have hstatements : ∀ s ∈ body.statements, sizeOf s < sizeOf n := fun s hs =>
          Nat.lt_trans (Node.sizeOf_lt_of_mem_list (Node.mem_statements hs))
            (Node.sizeOf_lt_of_mem (Node.child?_mem hbody))
        obtain ⟨cs, hcs⟩ := hrow _ hstatements h₁
        exact ⟨_, .function label hbody ((decodeName_eq_ok decode).1 hname) hcs⟩
    · rw [Outline.ofNode_ret label, items_singleton, Walk.item] at h
      obtain ⟨cs, hcs⟩ := hrow _ hnamed h
      exact ⟨_, .ret label hcs⟩
    · rw [Outline.ofNode_spawn label, items_singleton, Walk.item] at h
      obtain ⟨cs, hcs⟩ := hrow _ hnamed h
      exact ⟨_, .spawn label hcs⟩
    · rw [Outline.ofNode_cond label, items_singleton, Walk.item] at h
      obtain ⟨w₁, h₁, h⟩ := bind_eq_ok.1 h
      obtain ⟨w₂, h₂, h₃⟩ := bind_eq_ok.1 h
      obtain ⟨cs, hcs⟩ := hrow _ (hunder _) h₁
      obtain ⟨ds, hds⟩ := hrow _ (fun s hs => (List.mem_append.1 hs).elim
        (hnamedUnder _ s) (hnamedUnder _ s)) h₂
      obtain ⟨es, hes⟩ := hrow _ (fun s hs => Node.sizeOf_lt_of_mem
        (Node.child?_mem (Option.mem_toList.1 hs))) h₃
      exact ⟨_, .cond label hcs hds hes⟩
    · rw [Outline.ofNode_loop label, items_singleton, Walk.item] at h
      obtain ⟨w₁, h₁, h⟩ := bind_eq_ok.1 h
      obtain ⟨w₂, h₂, h⟩ := bind_eq_ok.1 h
      cases h
      obtain ⟨cs, hcs⟩ := hrow _ hheader h₁
      obtain ⟨ds, hds⟩ := hrow _ (hunder _) h₂
      exact ⟨_, .loop label hcs hds⟩
    · rw [Outline.ofNode_choice label, items_singleton, Walk.item] at h
      obtain ⟨w₁, h₁, h⟩ := bind_eq_ok.1 h
      obtain ⟨w₂, h₂, h⟩ := bind_eq_ok.1 h
      cases h
      obtain ⟨cs, hcs⟩ := hrow _ hheader h₁
      have hclauses : ∀ k ∈ n.clauses, ∀ {w w'}, (Visit.nodes k.clauseBody).Walks decode w w' →
          ∃ cs, Visits decode (.nodes k.clauseBody) w cs w' := fun k hk => hrow _ fun s hs =>
        Nat.lt_trans (Node.sizeOf_lt_of_mem_list (Node.mem_clauseBody hs))
          (Node.sizeOf_lt_of_mem (List.mem_filter.1 hk).1)
      obtain ⟨ds, hds⟩ := exists_clauses hclauses h₂
      exact ⟨_, .choice label hcs hds⟩

end Visits

/-- **The walk as a relation**: visiting a row of nodes is walking its outline. -/
theorem visits_nodes_iff {ε : Type} {decode : List UInt8 → Except ε String} {ns : List Node}
    {w w' : Walk} :
    (∃ cs, Visits decode (.nodes ns) w cs w') ↔ Walk.items decode (Outline.ofNodes ns) w = .ok w' :=
  ⟨fun ⟨_, h⟩ => h.walks, fun h => Visits.exists_nodes (fun n _ => Visits.exists_node n) h⟩

/-- The passes that finish a graph behind the walk. -/
def Walk.finish (w : Walk) : Build :=
  ⟨w.graph.numbered.linkFallthrough w.graph.listing, w.graph.listing, w.log⟩

/-- **A build** visits the named children of the root and finishes the graph. -/
theorem build_eq_ok_iff {ε : Type} {decode : List UInt8 → Except ε String} {root : Node}
    {start : Graph} {b : Build} :
    build decode root start = .ok b ↔
      ∃ cs w, Visits decode (.nodes root.named) { graph := start } cs w ∧ b = w.finish := by
  have hinside : Outline.inside root.children = Outline.ofNodes root.named :=
    Outline.inside_eq root.children
  unfold build
  rw [hinside, bind_eq_ok]
  constructor
  · rintro ⟨w, hw, h⟩
    cases h
    obtain ⟨cs, hcs⟩ := visits_nodes_iff.2 hw
    exact ⟨cs, w, hcs, rfl⟩
  · rintro ⟨cs, w, hcs, rfl⟩
    exact ⟨w, visits_nodes_iff.1 ⟨cs, hcs⟩, rfl⟩

end GoFlow
