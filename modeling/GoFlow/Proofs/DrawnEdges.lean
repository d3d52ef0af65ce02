import GoFlow.Proofs.Unbroken

/-!
# Edges of functions that do not return early

In a function whose body does not return, a walk draws edges of five kinds: out to the last line,
back to a loop, past an if, from a switch or select to a clause, and from a loop to a switch or
select in its body.

- `Context.Around`: the context is what the function has around a node. `Node.Solo.around_of`:
  that is so for every construct in the tree.
- `Drawn`: the five kinds of edges.
- `Visits.drawn`: a visit in its own context draws no others.
-/

namespace GoFlow

/-! ## Nodes in their contexts -/

namespace Node

mutual

/-- Whatever occurs in a tree is a node of it. -/
theorem mem_nodes_of_occurrences (ctx : Context) : ∀ (n : Node) {o : Context × Node},
    o ∈ n.occurrencesFrom ctx → o.2 ∈ n.nodes
  | .mk head kids, o, h => by
    rw [occurrencesFrom] at h
    rw [nodes]
    rcases List.mem_cons.1 h with rfl | h
    · exact List.mem_cons_self
    · exact List.mem_cons_of_mem _ (mem_nodesIn_of_occurrences ctx _ kids h)

theorem mem_nodesIn_of_occurrences (ctx : Context) :
    ∀ (body : Option Context) (ns : List Node) {o : Context × Node},
      o ∈ occurrencesIn ctx body ns → o.2 ∈ nodesIn ns
  | _, [], o, h => by simp [occurrencesIn] at h
  | none, n :: rest, o, h => by
    rw [occurrencesIn, List.mem_append] at h
    rw [nodesIn, List.mem_append]
    exact h.imp (mem_nodes_of_occurrences ctx n) (mem_nodesIn_of_occurrences ctx none rest)
  | some body, n :: rest, o, h => by
    rw [occurrencesIn] at h
    rw [nodesIn, List.mem_append]
    split at h
    · rw [List.mem_append] at h
      exact h.imp (mem_nodes_of_occurrences body n) (mem_nodesIn_of_occurrences ctx none rest)
    · rw [List.mem_append] at h
      exact h.imp (mem_nodes_of_occurrences ctx n) (mem_nodesIn_of_occurrences ctx (some body) rest)

end

/-- What occurs in a row behind the body occurs in the context of the row. -/
theorem exists_of_occurrencesIn_none {ctx : Context} {o : Context × Node} {ns : List Node}
    (h : o ∈ occurrencesIn ctx none ns) : ∃ c ∈ ns, o ∈ c.occurrencesFrom ctx := by
  induction ns with
  | nil => simp [occurrencesIn] at h
  | cons n rest ih =>
    rw [occurrencesIn, List.mem_append] at h
    rcases h with h | h
    · exact ⟨n, List.mem_cons_self, h⟩
    · obtain ⟨c, hc, h⟩ := ih h
      exact ⟨c, List.mem_cons_of_mem n hc, h⟩

/-- What occurs in a row with one body at most occurs in the body, or in another node. -/
theorem exists_of_occurrencesIn {ctx body : Context} {o : Context × Node} {ns : List Node}
    (h : o ∈ occurrencesIn ctx (some body) ns)
    (hns : (ns.filterMap (·.head.field)).Nodup ∨ body = ctx) :
    ∃ c ∈ ns, o ∈ c.occurrencesFrom (if c.isUnder .body then body else ctx) := by
  induction ns with
  | nil => simp [occurrencesIn] at h
  | cons n rest ih =>
    rw [occurrencesIn] at h
    split at h
    · rename_i hbody
      rcases List.mem_append.1 h with h | h
      · exact ⟨n, List.mem_cons_self, by rwa [if_pos (show n.isUnder .body from hbody)]⟩
      · obtain ⟨c, hc, h⟩ := exists_of_occurrencesIn_none h
        refine ⟨c, List.mem_cons_of_mem n hc, ?_⟩
        split
        · rename_i hbody'
          rcases hns with hns | rfl
          · -- the field of the body is taken
            rw [List.filterMap_cons_some (f := fun x : Node => x.head.field) (beq_iff_eq.1 hbody)]
              at hns
            exact absurd (List.mem_filterMap.2 ⟨c, hc, beq_iff_eq.1 hbody'⟩)
              (List.nodup_cons.1 hns).1
          · exact h
        · exact h
    · rename_i hbody
      rcases List.mem_append.1 h with h | h
      · exact ⟨n, List.mem_cons_self, by rwa [if_neg (show ¬ n.isUnder .body from hbody)]⟩
      · obtain ⟨c, hc, h⟩ := ih h
          (hns.imp_left (·.sublist ((List.sublist_cons_self n rest).filterMap _)))
        exact ⟨c, List.mem_cons_of_mem n hc, h⟩

end Node

/-- The context is what the function `d` has around the node, and around the constructs in it. -/
structure Context.Around (ctx : Context) (d n : Node) : Prop where
  function : n.label.isFunction ∨ ctx.function = some d
  loop : ∀ m ∈ ctx.loop,
    m ∈ Node.nodesIn d.children ∧ m.label = .forStatement ∧ n ∈ Node.nodesIn m.children
  /-- No loop that is around a construct of the node, and not in the node, starts further down. -/
  nearest : ∀ x ∈ n.constructs, ∀ f ∈ d.nodes, f.label = .forStatement →
    x ∈ Node.nodesIn f.children → f ∈ n.nodes ∨ ∃ m ∈ ctx.loop, f.startLine ≤ m.startLine

namespace Node.Unbroken

variable {root d n c : Node} {ctx : Context}

/-- A construct lies in one child only. -/
theorem eq_of_shared (hroot : root.Unbroken d) (hn : n ∈ d.nodes) (hc : c ∈ n.children)
    {c' x : Node} (hc' : c' ∈ n.children) (hx : x ∈ c.constructs) (hx' : x ∈ c'.constructs) :
    c = c' := by
  by_contra hne
  have hle := (hroot.lines_of_mem
    (hroot.mem_root (hereditary_nodes d n hn c hc)) hx).2.1
  rcases pairwise_or (hroot.children_apart hroot.declared hn) hc hc' hne with h | h
  · have := h x hx x hx'
    omega
  · have := h x hx' x hx
    omega

/-- A loop around a construct of a child is the node itself, or lies in the child, or is outside. -/
theorem loop_cases_child (hroot : root.Unbroken d) (h : ctx.Around d n) (hn : n ∈ d.nodes)
    (hc : c ∈ n.children) {x f : Node} (hx : x ∈ c.constructs) (hf : f ∈ d.nodes)
    (hlabel : f.label = .forStatement) (hxf : x ∈ nodesIn f.children) :
    f = n ∨ f ∈ c.nodes ∨ ∃ m ∈ ctx.loop, f.startLine ≤ m.startLine := by
  have hxn := constructs_subset (hereditary_nodes n n n.mem_nodes_self c hc) hx
  rcases h.nearest x hxn f hf hlabel hxf with hfn | hout
  · rcases constructs_cases (mem_constructs.2 ⟨hfn, by rw [hlabel]; rfl⟩) with rfl | ⟨c', hc', hf'⟩
    · exact .inl rfl
    · have hx' : x ∈ c'.constructs := mem_constructs.2
        ⟨(hereditary_nodes c').nodes (mem_constructs.1 hf').1 (mem_nodes_of_below hxf),
          (mem_constructs.1 hx).2⟩
      obtain rfl := hroot.eq_of_shared hn hc hc' hx hx'
      exact .inr (.inl (mem_constructs.1 hf').1)
  · exact .inr (.inr hout)

/-- The one declaration in the function is the function. -/
theorem eq_of_isFunction (hroot : root.Unbroken d) (hn : n ∈ d.nodes)
    (hfunction : n.label.isFunction) : n = d := by
  rcases constructs_cases (mem_constructs.2 ⟨hn, Label.isConstruct_of_isFunction hfunction⟩) with
    rfl | ⟨c, hc, hn⟩
  · rfl
  · have hplain := hroot.top d hroot.declared n (mem_nodesIn.2 ⟨c, hc, (mem_constructs.1 hn).1⟩)
    rw [hfunction] at hplain
    cases hplain

/-- Going down to a child. -/
theorem around_child (hroot : root.Unbroken d) (h : ctx.Around d n) (hn : n ∈ d.nodes)
    (hc : c ∈ n.children) : (ctx.inside n).Around d c := by
  have hcases := fun {x f} => @loop_cases_child root d n c ctx hroot h hn hc x f
  have hc' : c ∈ nodesIn n.children := mem_nodesIn_of_mem hc
  by_cases hfunction : n.label.isFunction
  · have hinside : ctx.inside n = { function := some n } := by simp [Context.inside, hfunction]
    obtain rfl := hroot.eq_of_isFunction hn hfunction
    rw [hinside]
    refine ⟨.inr rfl, fun m hm => (by cases hm), fun x hx f hf hlabel hxf => .inl ?_⟩
    rcases hcases hx hf hlabel hxf with rfl | hfc | ⟨m, hm, -⟩
    · rw [hlabel] at hfunction
      cases hfunction
    · exact hfc
    · -- a declaration does not stand in a loop
      obtain ⟨hm, -, hnm⟩ := h.loop m hm
      have hplain := hroot.top n hroot.declared n
        ((hereditary_nodesIn n.children).nodes hm (mem_nodes_of_below hnm))
      rw [hfunction] at hplain
      cases hplain
  have hd : ctx.function = some d := h.function.resolve_left hfunction
  by_cases hlabel : n.label = .forStatement
  · -- the loop is nearer than the one around it, since it starts further down
    have hinside : ctx.inside n = { ctx with loop := some n } := by
      simp [Context.inside, hlabel, Label.isFunction]
    have hn' := hroot.mem_below hn (by simpa using hfunction)
    rw [hinside]
    refine ⟨.inr hd, fun m hm => ?_, fun x hx f hf hf' hxf => ?_⟩
    · obtain rfl := Option.some.inj hm
      exact ⟨hn', hlabel, hc'⟩
    · rcases hcases hx hf hf' hxf with rfl | hfc | ⟨m, hm, hle⟩
      · exact .inr ⟨f, rfl, Int.le_refl _⟩
      · exact .inl hfc
      · obtain ⟨hm, hloop, hnm⟩ := h.loop m hm
        have := hroot.startLine_lt_of_below
          (mem_constructs_of_below hm (by rw [hloop]; rfl)) hnm (by rw [hlabel]; rfl)
        exact .inr ⟨n, rfl, by omega⟩
  · have hinside : ctx.inside n = ctx := by simp [Context.inside, hfunction, hlabel]
    rw [hinside]
    refine ⟨.inr hd, fun m hm => ?_, fun x hx f hf hf' hxf => ?_⟩
    · obtain ⟨hm, hloop, hnm⟩ := h.loop m hm
      exact ⟨hm, hloop, hereditary_nodesIn m.children n hnm c hc⟩
    · rcases hcases hx hf hf' hxf with rfl | hfc
      · exact absurd hf' hlabel
      · exact hfc

/-- Every construct below a node is in its context, if the node is. -/
theorem around_below (hroot : root.Unbroken d) {o : Context × Node} (hn : n ∈ d.nodes)
    (h : ctx.Around d n) (ho : o ∈ n.occurrencesFrom ctx) (hconstruct : o.2.label.isConstruct) :
    o.1.Around d o.2 := by
  induction hsize : sizeOf n using Nat.strongRecOn generalizing n ctx with
  | ind _ ih =>
    subst hsize
    have hfields : (n.children.filterMap (·.head.field)).Nodup ∨ ctx.inside n = ctx := by
      by_cases hfunction : n.label.isFunction
      · obtain rfl := hroot.eq_of_isFunction hn hfunction
        exact .inl hroot.partFields
      · by_cases hlabel : n.label = .forStatement
        · exact .inl (hroot.fields n (hroot.mem_root hn) (.inr hlabel))
        · exact .inr (by simp [Context.inside, hfunction, hlabel])
    obtain ⟨head, kids⟩ := n
    rw [occurrencesFrom] at ho
    rcases List.mem_cons.1 ho with rfl | ho
    · exact h
    obtain ⟨c, hc, ho⟩ := exists_of_occurrencesIn ho hfields
    have hc' := hereditary_nodes d _ hn c hc
    have hbelow : o ∈ c.occurrencesFrom (ctx.inside (.mk head kids)) := by
      split at ho
      · exact ho
      · -- the constructs of a function or loop are all in the body
        rename_i hbody
        by_cases hopens : (Node.mk head kids).label.opens
        · exact absurd (hroot.isUnder_body hn hopens hc
            (mem_constructs.2 ⟨mem_nodes_of_occurrences _ c ho, hconstruct⟩)) hbody
        · rwa [Context.inside_eq (by simpa using hopens)]
    exact ih _ (sizeOf_lt_of_mem hc) hc' (hroot.around_child h hn hc) hbelow rfl

/-- The loop of a construct's context is the nearest one around the construct. -/
theorem nearest_loop (hroot : root.Unbroken d) (h : ctx.Around d n) (hn : n ∈ d.constructs)
    {f : Node} (hf : f ∈ d.nodes) (hlabel : f.label = .forStatement)
    (hnf : n ∈ nodesIn f.children) : ∃ m ∈ ctx.loop, f.startLine ≤ m.startLine := by
  have hconstruct : f.label.isConstruct := by rw [hlabel]; rfl
  have hself := mem_constructs.2 ⟨n.mem_nodes_self, (mem_constructs.1 hn).2⟩
  refine (h.nearest n hself f hf hlabel hnf).resolve_left fun hfn => ?_
  have hlt := (hroot.startLine_lt_of_below (mem_constructs.2 ⟨hf, hconstruct⟩) hnf
    (mem_constructs.1 hn).2).1
  have hle := (hroot.lines_of_mem (hroot.mem_root (mem_constructs.1 hn).1)
    (mem_constructs.2 ⟨hfn, hconstruct⟩)).1
  omega

end Node.Unbroken

namespace Node.Solo

variable {root d n c : Node} {ctx : Context}

/-- **Every construct occurs in its context**, and all constructs are in the function. -/
theorem around_of (hroot : root.Solo d) (ho : (ctx, n) ∈ root.occurrences)
    (hconstruct : n.label.isConstruct) : n ∈ d.nodes ∧ ctx.Around d n := by
  have hopens := opens_of_not_construct hroot.root_plain
  have hplain := hroot.root_plain
  obtain ⟨head, kids⟩ := root
  rw [occurrences, occurrencesFrom] at ho
  rcases List.mem_cons.1 ho with heq | ho
  · cases heq
    rw [hplain] at hconstruct
    cases hconstruct
  obtain ⟨c, hc, ho⟩ := exists_of_occurrencesIn ho (.inr (Context.inside_eq hopens))
  rw [Context.inside_eq hopens, ite_self] at ho
  have hmem := mem_constructs.2 ⟨mem_nodes_of_occurrences _ c ho, hconstruct⟩
  obtain rfl := hroot.eq_of_mem hc
  have hstart : ({} : Context).Around c c :=
    ⟨.inl hroot.function, fun m hm => (by cases hm), fun x _ f hf _ _ => .inl hf⟩
  exact ⟨(mem_constructs.1 hmem).1, hroot.around_below c.mem_nodes_self hstart ho hconstruct⟩

/-- So a walk meets every node in its own context. -/
theorem placed (hroot : root.Solo d) : root.Placed where
  inFunction o ho hconstruct hplain := by
    have hfunction := (hroot.around_of ho hconstruct).2.function
    rw [hplain] at hfunction
    rw [hfunction.resolve_left (by decide)]
    rfl
  loopBody o ho hlabel := (hroot.loopBody o.2 (mem_nodes_of_occurrences _ root ho) hlabel).2
  root_plain := by
    have hplain := hroot.root_plain
    cases hlabel : root.label <;> simp_all [Label.isConstruct, Label.isFunction]
  functionBody o ho hfunction c hc := opens_of_not_construct
    (hroot.body o.2 (mem_nodes_of_occurrences _ root ho) (.inl hfunction) c hc)
  ifPart o ho hlabel f hf c hc := opens_of_not_construct
    (hroot.ifPart_plain (mem_nodes_of_occurrences _ root ho) hlabel hf hc)

end Node.Solo

/-! ## Edges -/

/-- The edges that a walk draws in a function without returns. -/
inductive Drawn (d : Node) : Int → Int → Prop where
  /-- Out of the function. -/
  | out (s : Int) : Drawn d s d.endLine
  /-- From the lines of a loop back to its header. -/
  | back {m : Node} {s : Int} (hm : m ∈ Node.nodesIn d.children) (label : m.label = .forStatement)
      (first : m.startLine ≤ s) (last : s ≤ m.endLine) : Drawn d s m.startLine
  /-- Past an if. -/
  | skip {n : Node} (hn : n ∈ Node.nodesIn d.children) (label : n.label = .ifStatement) :
      Drawn d n.startLine (Context.elseEnd { function := some d } n)
  /-- From a switch or select to a clause. -/
  | branch {n k : Node} {form : Choice} (hn : n ∈ Node.nodesIn d.children)
      (label : n.label.choice? = some form) (hk : k ∈ n.clauses) :
      Drawn d n.startLine (Outline.clauseEntry form k).1
  /-- From a loop to a switch or select for which it is the nearest one. -/
  | enter {n m : Node} {form : Choice} (hm : m ∈ Node.nodesIn d.children)
      (loop : m.label = .forStatement) (hn : n ∈ Node.nodesIn m.children)
      (label : n.label.choice? = some form)
      (nearest : ∀ f ∈ d.nodes, f.label = .forStatement → n ∈ Node.nodesIn f.children →
        f.startLine ≤ m.startLine) : Drawn d m.startLine n.startLine

/-- The nodes that a visit goes to occur in the context. Clauses are those of a switch or select
that the scope refers to. -/
def Visit.Stands (root : Node) (ctx : Context) (s : Scope) : Visit → Prop
  | .clauses form ks => ∃ n, (ctx, n) ∈ root.occurrences ∧ n.label.choice? = some form ∧
      ks ⊆ n.clauses ∧ s.switchHeader = some n.startLine
  | v => v.Within root ctx

section

variable {ε : Type} {decode : List UInt8 → Except ε String} {root d n : Node} {ctx : Context}

/-- A construct other than the function is below it, and occurs with the function around it. -/
theorem Node.Solo.below_of (hroot : root.Solo d) (hn : (ctx, n) ∈ root.occurrences)
    (hconstruct : n.label.isConstruct) (hplain : n.label.isFunction = false) :
    n ∈ nodesIn d.children ∧ ctx.function = some d ∧ ctx.Around d n := by
  obtain ⟨hn, haround⟩ := hroot.around_of hn hconstruct
  refine ⟨hroot.mem_below hn hplain, haround.function.resolve_left ?_, haround⟩
  rw [hplain]
  decide

/-- Back to the loop of the context. -/
theorem Node.Solo.drawn_back (hroot : root.Solo d) (hn : (ctx, n) ∈ root.occurrences)
    (hconstruct : n.label.isConstruct) {m : Node} (hm : ctx.loop = some m) {s : Int}
    (hfirst : n.startLine ≤ s) (hlast : s ≤ n.endLine + 1) : Drawn d s m.startLine := by
  obtain ⟨hm, hlabel, hnm⟩ := (hroot.around_of hn hconstruct).2.loop m hm
  have hinside := hroot.inside_for (mem_nodes_of_below hm) hlabel hnm hconstruct
  exact .back hm hlabel (by omega) (by omega)

/-- To where the paths of the context leave. -/
theorem Node.Solo.drawn_exit (hroot : root.Solo d) (hn : (ctx, n) ∈ root.occurrences)
    (hconstruct : n.label.isConstruct) (hplain : n.label.isFunction = false) {s t : Int}
    (ht : ctx.ExitsTo root t) (hfirst : n.startLine ≤ s) (hlast : s ≤ n.endLine + 1) :
    Drawn d s t := by
  rcases ht with ⟨r, hr, hlabel, -⟩ | ⟨m, hm, rfl⟩ | ⟨-, f, hf, -, -, -, rfl⟩
  · exact absurd hlabel (hroot.returnless r (hroot.around_of hr (by rw [hlabel]; rfl)).1)
  · exact hroot.drawn_back hn hconstruct hm hfirst hlast
  · obtain ⟨-, hd, -⟩ := hroot.below_of hn hconstruct hplain
    rw [Option.mem_def.1 hf] at hd
    rw [Option.some.inj hd]
    exact .out s

/-- The loop in scope is that of the context. -/
theorem Scope.Follows.exists_loop {s : Scope} (hs : s.Follows root ctx) {l : Int}
    (hl : s.loopHeader = some l) : ∃ m, ctx.loop = some m ∧ m.startLine = l := by
  rw [hs.loopHeader] at hl
  exact Option.map_eq_some_iff.1 hl

/-- The return target in scope is an exit of the context. -/
theorem Scope.Follows.exitsTo {s : Scope} (hs : s.Follows root ctx) (hd : ctx.function = some d)
    {t : Int} (ht : s.returnTarget = some t) : ctx.ExitsTo root t := by
  obtain ⟨t', ht', hexit⟩ := hs.returnTarget (by rw [hd]; rfl)
  rwa [Option.some.inj (ht.symm.trans ht')]

/-- The edges that a visit draws in its context are of the five kinds. -/
def Visit.Draws (decode : List UInt8 → Except ε String) (root d : Node) (v : Visit) (w : Walk)
    (cs : List Change) : Prop :=
  ∀ {ctx : Context}, v.Stands root ctx w.scope → w.scope.Follows root ctx →
    w.scope.FilesUnder decode ctx.function → ∀ {s t : Int}, .link s t ∈ cs → Drawn d s t

/-- **An if** leads from its first line to the end of its false path, and from the false path to the
return target. -/
theorem Visits.draws_cond (hroot : root.Solo d) {w w₁ w₂ : Walk} {cs ds es : List Change}
    (label : n.label = .ifStatement)
    (consequence : Visits decode (.nodes (n.statementsUnder .consequence))
      (w.enterCond n.startLine (Outline.falsePath n).1 (w.scope.elseEnd n)) cs w₁)
    (header : Visits decode (.nodes (n.namedUnder .initializer ++ n.namedUnder .condition))
      (w₁.leaveCond (Outline.falsePath n).1 (w.scope.elseEnd n)) ds w₂)
    (ih₁ : Visit.Draws decode root d (.nodes (n.statementsUnder .consequence))
      (w.enterCond n.startLine (Outline.falsePath n).1 (w.scope.elseEnd n)) cs)
    (ih₂ : Visit.Draws decode root d
      (.nodes (n.namedUnder .initializer ++ n.namedUnder .condition))
      (w₁.leaveCond (Outline.falsePath n).1 (w.scope.elseEnd n)) ds)
    (ih₃ : Visit.Draws decode root d (.nodes (n.child? .alternative).toList) w₂ es) :
    Visit.Draws decode root d (.node n) w
      (Walk.condChanges w.scope n.startLine (Outline.falsePath n).1 (w.scope.elseEnd n)
        ++ (cs ++ (Walk.falsePathChanges w₁.scope (Outline.falsePath n).1 (w.scope.elseEnd n)
          ++ (ds ++ es)))) := by
  intro ctx hn hs hw s t hlink
  have hconstruct : n.label.isConstruct := by rw [label]; rfl
  have hplain : n.label.isFunction = false := by rw [label]; rfl
  obtain ⟨hn', hd, -⟩ := hroot.below_of hn hconstruct hplain
  have hnested := hroot.nested_of_mem (hroot.mem_root (Node.mem_nodes_of_below hn'))
  have hend : w.scope.elseEnd n = Context.elseEnd { function := some d } n := by
    rw [hs.elseEnd_eq, Context.elseEnd, hd]
    rfl
  have hbounds := hroot.elseEnd_bounds hn' label
  have hstart := (Node.between_self hnested).falsePath
  have hwithin₁ := hroot.placed.statementsUnder_within hn label
  obtain ⟨-, hs₁⟩ := consequence.settled hroot.placed hwithin₁ hs
  have hscope : (w₁.leaveCond (Outline.falsePath n).1 (w.scope.elseEnd n)).scope = w₁.scope :=
    Walk.scope_leaveCond _ _ _
  have hwithin₂ := hroot.placed.header_within hn label
  obtain ⟨-, hs₂⟩ := header.settled hroot.placed hwithin₂ (hscope ▸ hs₁)
  have hwithin₃ : Visit.Within root ctx (.nodes (n.child? .alternative).toList) := fun a ha =>
    Node.occurrences_plain hn (by rw [label]; rfl) (Node.child?_mem (Option.mem_toList.1 ha))
  have hw₁ := consequence.filesUnder hw
  simp only [List.mem_append, Walk.condChanges, Walk.falsePathChanges, mem_linksTo, List.mem_cons,
    Change.link.injEq, reduceCtorEq, List.not_mem_nil, false_or, or_false] at hlink
  rcases hlink with ⟨rfl, rfl⟩ | hlink | hlink | hlink | hlink
  · rw [hend]
    exact .skip hn' label
  · exact ih₁ hwithin₁ hs hw hlink
  · rcases hlink with ⟨t, ht, rfl, rfl⟩ | ⟨t, ht, rfl, rfl⟩
    · exact hroot.drawn_exit hn hconstruct hplain (hs₁.exitsTo hd ht) (by omega) (by omega)
    · exact hroot.drawn_exit hn hconstruct hplain (hs₁.exitsTo hd ht) (by omega) (by omega)
  · exact ih₂ hwithin₂ (hscope ▸ hs₁) (hscope ▸ hw₁) hlink
  · exact ih₃ hwithin₃ hs₂ (header.filesUnder (hscope ▸ hw₁)) hlink

/-- The edge back from the end of a loop starts on a line of the loop. -/
theorem Visits.link_loopEnd (hroot : root.Spread) (hd : d ∈ root.children)
    (hn : n ∈ Node.nodesIn d.children) (label : n.label = .forStatement) {w w₁ w₂ : Walk}
    {cs ds : List Change} (header : Visits decode (.nodes n.headerParts) w cs w₁)
    (body : Visits decode (.nodes (n.statementsUnder .body))
      ((w₁.aimAt w.scope.returnTarget).enterLoop n.startLine) ds w₂)
    (hw : w.scope.FilesUnder decode (some d)) {s t : Int}
    (hlink : .link s t ∈ w₂.loopEndChanges n.startLine n.endLine) :
    t = n.startLine ∧ n.startLine ≤ s ∧ s ≤ n.endLine := by
  have hlines := body.registered_loopBody hroot hd hn label
    ((header.filesUnder hw).enterLoop w.scope.returnTarget n.startLine)
  have hfirst := (hroot.loopBody n (Node.mem_nodes_of_inside hd hn) label).1
  have hgraph := body.graph_eq
  rw [header.graph_enterLoop] at hgraph
  cases hlast : (registeredBy ds).getLast? with
  | none =>
    rw [Walk.loopEnd_of_empty (hgraph.trans (Graph.replay_append _ _ _).symm)
      (List.getLast?_eq_none_iff.1 hlast)] at hlink
    simp only [List.mem_cons, reduceCtorEq, Change.link.injEq, List.not_mem_nil, false_or,
      or_false] at hlink
    omega
  | some l =>
    have hl := hlines l (List.mem_of_getLast? hlast)
    rw [Walk.loopEnd_of_newest hgraph hlast (by omega)] at hlink
    split at hlink
    · cases hlink
    · simp only [List.mem_cons, Change.link.injEq, List.not_mem_nil, or_false] at hlink
      omega

/-- **A loop** leads to the return target, and one of the lines of its body leads back to it. -/
theorem Visits.draws_loop (hroot : root.Solo d) {w w₁ w₂ : Walk} {cs ds : List Change}
    (label : n.label = .forStatement) (header : Visits decode (.nodes n.headerParts) w cs w₁)
    (body : Visits decode (.nodes (n.statementsUnder .body))
      ((w₁.aimAt w.scope.returnTarget).enterLoop n.startLine) ds w₂)
    (ih₁ : Visit.Draws decode root d (.nodes n.headerParts) w cs)
    (ih₂ : Visit.Draws decode root d (.nodes (n.statementsUnder .body))
      ((w₁.aimAt w.scope.returnTarget).enterLoop n.startLine) ds) :
    Visit.Draws decode root d (.node n) w
      (cs ++ (Walk.loopChanges w.scope n.startLine
        ++ (ds ++ w₂.loopEndChanges n.startLine n.endLine))) := by
  intro ctx hn hs hw s t hlink
  have hconstruct : n.label.isConstruct := by rw [label]; rfl
  have hplain : n.label.isFunction = false := by rw [label]; rfl
  obtain ⟨hn', hd, -⟩ := hroot.below_of hn hconstruct hplain
  have hle := hroot.startLine_le hn'
  have hscope : ((w₁.aimAt w.scope.returnTarget).enterLoop n.startLine).scope
      = { w.scope with returnTarget := some n.startLine, loopHeader := some n.startLine } := by
    rw [Walk.scope_enterLoop, header.scope_aimAt]
  have hfunction : (ctx.inside n).function = ctx.function := by
    simp [Context.inside, label, Label.isFunction]
  simp only [List.mem_append, Walk.loopChanges, List.mem_cons, reduceCtorEq, false_or, mem_linksTo,
    Change.link.injEq] at hlink
  rcases hlink with hlink | ⟨t, ht, rfl, rfl⟩ | hlink | hlink
  · exact ih₁ (hroot.placed.loopHeader_within hn label) hs hw hlink
  · exact hroot.drawn_exit hn hconstruct hplain (hs.exitsTo hd ht) (by omega) (by omega)
  · exact ih₂ (hroot.placed.loopBody_within hn label) (by rw [hscope]; exact hs.enterLoop label)
      (by rw [hfunction]; exact (header.filesUnder hw).enterLoop _ _) hlink
  · obtain ⟨rfl, hfirst, hlast⟩ :=
      header.link_loopEnd hroot.toSpread hroot.declared hn' label body (hd ▸ hw) hlink
    exact .back hn' label hfirst hlast

/-- **A switch or select** is linked with the loop around it both ways; a switch on values also
leads to the return target. -/
theorem Visits.draws_choice (hroot : root.Solo d) {form : Choice} {w w₁ : Walk}
    {cs ds : List Change} (label : n.label.choice? = some form)
    (header : Visits decode (.nodes n.headerParts) w cs w₁)
    (ih₁ : Visit.Draws decode root d (.nodes n.headerParts) w cs)
    (ih₂ : Visit.Draws decode root d (.clauses form n.clauses)
      ((w₁.aimAt w.scope.returnTarget).enterChoice form n.startLine) ds) :
    Visit.Draws decode root d (.node n) w
      (cs ++ (Walk.choiceChanges w.scope form n.startLine ++ ds)) := by
  intro ctx hn hs hw s t hlink
  have hconstruct := Label.isConstruct_of_choice label
  have hopens := opens_of_choice label
  have hplain := Label.isFunction_of_choice label
  obtain ⟨hn', hd, haround⟩ := hroot.below_of hn hconstruct hplain
  have hle := hroot.startLine_le hn'
  have hscope : ((w₁.aimAt w.scope.returnTarget).enterChoice form n.startLine).scope
      = { w.scope with switchHeader := some n.startLine } := by
    rw [Walk.scope_enterChoice, header.scope_aimAt]
  have hexit : ∀ {t}, w.scope.returnTarget = some t → Drawn d n.startLine t := fun ht =>
    hroot.drawn_exit hn hconstruct hplain (hs.exitsTo hd ht) (Int.le_refl _) (by omega)
  simp only [List.mem_append, Walk.choiceChanges, List.mem_cons, reduceCtorEq, false_or,
    mem_linksTo, mem_linksFrom, Change.link.injEq] at hlink
  rcases hlink with hlink | ((⟨l, hl, rfl, rfl⟩ | ⟨l, hl, rfl, rfl⟩) | hlink) | hlink
  · refine ih₁ (fun c hc => ?_) hs hw hlink
    exact Node.occurrences_plain hn hopens (List.mem_filter.1 hc).1
  · -- the loop in scope is the nearest one around the switch
    obtain ⟨m, hm, rfl⟩ := hs.exists_loop hl
    obtain ⟨hm', hloop, hnm⟩ := haround.loop m hm
    refine .enter hm' hloop hnm label fun f hf hf' hnf => ?_
    obtain ⟨m', hm'', hle⟩ := hroot.nearest_loop haround
      (Node.mem_constructs_of_below hn' hconstruct) hf hf' hnf
    rwa [Option.some.inj (hm.symm.trans hm'')]
  · obtain ⟨m, hm, rfl⟩ := hs.exists_loop hl
    exact hroot.drawn_back hn hconstruct hm (Int.le_refl _) (by omega)
  · split at hlink
    · obtain ⟨t, ht, heq⟩ := mem_linksTo.1 hlink
      cases heq
      exact hexit ht
    · cases hlink
  · refine ih₂ ⟨n, hn, label, List.Subset.refl _, by rw [hscope]⟩ ?_
      ((header.filesUnder hw).enterChoice _ _ _) hlink
    rw [hscope]
    exact ⟨hs.functionEnd, hs.loopHeader, hs.returnTarget⟩

/-- **A clause** is reached from its switch or select, and leads to the loop around it and to the
return target. -/
theorem Visits.draws_clause (hroot : root.Solo d) {form : Choice} {k : Node} {ks : List Node}
    {w w₁ : Walk} {cs ds : List Change}
    (body : Visits decode (.nodes k.clauseBody)
      (w.enterClause (Outline.clauseEntry form k).1 (Outline.clauseEntry form k).2) cs w₁)
    (ih₁ : Visit.Draws decode root d (.nodes k.clauseBody)
      (w.enterClause (Outline.clauseEntry form k).1 (Outline.clauseEntry form k).2) cs)
    (ih₂ : Visit.Draws decode root d (.clauses form ks)
      (w₁.leaveClause (Outline.clauseEntry form k).1 w.scope) ds) :
    Visit.Draws decode root d (.clauses form (k :: ks)) w
      (Walk.clauseChanges w.scope (Outline.clauseEntry form k).1 (Outline.clauseEntry form k).2
        ++ (cs ++ (w₁.clauseEndChanges (Outline.clauseEntry form k).1 w.scope ++ ds))) := by
  rintro ctx ⟨n, hn, label, hks, hheader⟩ hs hw s t hlink
  have hconstruct := Label.isConstruct_of_choice label
  have hopens := opens_of_choice label
  have hplain := Label.isFunction_of_choice label
  obtain ⟨hn', hd, -⟩ := hroot.below_of hn hconstruct hplain
  have hk := hks List.mem_cons_self
  have hbounds := hroot.clauseEntry_bounds (Node.mem_nodes_of_below hn') label hk
  have hwithin := clauses_within hn hopens form k hk
  have hs₀ : Scope.Follows root ctx
      (w.enterClause (Outline.clauseEntry form k).1 (Outline.clauseEntry form k).2).scope := by
    rw [Walk.scope_enterClause]
    exact hs
  obtain ⟨-, hs₁⟩ := body.settled hroot.placed hwithin hs₀
  have hw₀ := hw.enterClause (Outline.clauseEntry form k).1 (Outline.clauseEntry form k).2
  have hexit : ∀ {t}, w.scope.returnTarget = some t → Drawn d (Outline.clauseEntry form k).1 t :=
    fun ht => hroot.drawn_exit hn hconstruct hplain (hs.exitsTo hd ht) (by omega) (by omega)
  simp only [List.mem_append, Walk.clauseChanges, List.mem_cons, reduceCtorEq, false_or,
    mem_linksTo, mem_linksFrom, Change.link.injEq] at hlink
  rcases hlink with ((⟨l, hl, rfl, rfl⟩ | ⟨l, hl, rfl, rfl⟩) | ⟨l, hl, rfl, rfl⟩) | hlink | hlink
    | hlink
  -- back to the loop, from the switch or select, or out
  · obtain ⟨m, hm, rfl⟩ := hs.exists_loop hl
    exact hroot.drawn_back hn hconstruct hm (by omega) (by omega)
  · rw [hheader] at hl
    rw [← Option.some.inj hl]
    exact .branch hn' label hk
  · exact hexit hl
  · exact ih₁ hwithin hs₀ hw₀ hlink
  · unfold Walk.clauseEndChanges at hlink
    split at hlink
    · cases hlink
    · split at hlink
      · cases hlink
      · obtain ⟨t, ht, heq⟩ := mem_linksTo.1 hlink
        cases heq
        exact hexit ht
  · have hscope : (w₁.leaveClause (Outline.clauseEntry form k).1 w.scope).scope
        = { w₁.scope with
            switchHeader := w.scope.switchHeader, returnTarget := w.scope.returnTarget } :=
      Walk.scope_leaveClause _ _ _
    have hks' := List.Subset.trans (List.subset_cons_self k ks) hks
    refine ih₂ ⟨n, hn, label, hks', by rw [hscope]; exact hheader⟩ ?_
      ((body.filesUnder hw₀).leaveClause _ _) hlink
    rw [hscope]
    exact ⟨hs₁.functionEnd, hs₁.loopHeader, hs.returnTarget⟩

/-- **Drawn edges**: a visit in its own context draws edges of the five kinds and no others. -/
theorem Visits.drawn (hroot : root.Solo d) {v : Visit} {w w' : Walk} {cs : List Change}
    (h : Visits decode v w cs w') : v.Draws decode root d w cs := by
  induction h with
  | other label _ ih =>
    intro ctx hn hs hw s t hlink
    exact ih (named_within hn (opens_of_not_construct label)) hs hw hlink
  | prototype =>
    intro ctx _ _ _ s t hlink
    simp at hlink
  | @function n w body name cs w' label hbody named inside ih =>
    intro ctx hn hs hw s t hlink
    have hinside : ctx.inside n = { function := some n } := by simp [Context.inside, label]
    have hwithin := hroot.placed.functionBody_within hn label hbody
    -- all that a function adds to its body are registrations
    have hlink : .link s t ∈ cs := by
      simp only [List.mem_cons, List.mem_append, reduceCtorEq, false_or] at hlink
      rcases hlink with hlink | hlink | hlink
      · obtain ⟨m, heq, -⟩ := exists_of_mem_foresee hlink
        cases heq
      · exact hlink
      · cases (eq_of_mem_close hlink).1
    refine ih hwithin ?_ ?_ hlink
    · rw [Walk.scope_foresee]
      exact Scope.Follows.enterFunction label hbody hwithin name
    · rw [Walk.scope_foresee, hinside]
      exact ⟨named, rfl⟩
  | @ret n _ _ _ label =>
    intro ctx hn
    have hn' := (hroot.around_of hn (by rw [label]; rfl)).1
    exact absurd label (hroot.returnless n hn')
  | spawn label _ ih =>
    intro ctx hn hs hw s t hlink
    simp only [List.mem_cons, reduceCtorEq, false_or] at hlink
    exact ih (named_within hn (by rw [label]; rfl)) hs hw hlink
  | cond label consequence header _ ih₁ ih₂ ih₃ =>
    exact draws_cond hroot label consequence header ih₁ ih₂ ih₃
  | loop label header body ih₁ ih₂ => exact draws_loop hroot label header body ih₁ ih₂
  | choice label header _ ih₁ ih₂ => exact draws_choice hroot label header ih₁ ih₂
  | nil =>
    intro ctx _ _ _ s t hlink
    cases hlink
  | cons first _ ih₁ ih₂ =>
    intro ctx hns hs hw s t hlink
    have hrest := fun n hn => hns n (List.mem_cons_of_mem _ hn)
    obtain ⟨-, hs₁⟩ := first.settled hroot.placed (hns _ List.mem_cons_self) hs
    rcases List.mem_append.1 hlink with hlink | hlink
    · exact ih₁ (hns _ List.mem_cons_self) hs hw hlink
    · exact ih₂ hrest hs₁ (first.filesUnder hw) hlink
  | noClause =>
    intro ctx _ _ _ s t hlink
    cases hlink
  | clause body _ ih₁ ih₂ => exact draws_clause hroot body ih₁ ih₂

/-- All edges that the walk over a file draws. -/
theorem Visits.drawn_file (hroot : root.Solo d) {w : Walk} {cs : List Change}
    (h : Visits decode (.nodes root.named) {} cs w) {s t : Int} (hlink : .link s t ∈ cs) :
    Drawn d s t := by
  have hfollows : Scope.Follows root {} {} := ⟨rfl, rfl, fun h => by cases h⟩
  have hfiles : Scope.FilesUnder decode ({} : Context).function {} := ⟨rfl, rfl⟩
  exact h.drawn hroot
    (named_within (Node.mem_occurrencesFrom_self {} root) hroot.placed.root_opens) hfollows hfiles
    hlink

end

end GoFlow
