import GoFlow.Proofs.DeadEnds
import GoFlow.Proofs.DrawnEdges

/-!
# The blocks of a function that does not return early

What the finished graph has of a file that holds one function and nothing else, where the body of
the function does not return and every statement and every closing brace has a line of its own.

- `Visits.headed`: a visit to a statement registers its first line once, and then lines below.
- `Build.Walked.exists_head`: the first line of a statement has the kind of the statement.
- `Build.Walked.leads_skip`, `leads_branch`, `leads_out`, `leads_enter`: edges that are there.
- `Build.Walked.leads_cases`: all other edges lead to the block below.
- `Build.Walked.exists_leads`: only the last line leads nowhere.
-/

namespace GoFlow

/-- A finished graph with the changes that made it and its lines. -/
structure Build.Walked {ε : Type} (decode : List UInt8 → Except ε String) (root : Node) (b : Build)
    (cs : List Change) (ls : List Int) : Prop where
  visit : ∃ w, Visits decode (.nodes root.named) {} cs w
  admits : ({} : Graph).AdmitsAll cs
  finishes : b.Finishes (({} : Graph).replay cs) ls

theorem Build.Finishes.mem_of_leads {b : Build} {g : Graph} {ls : List Int} (h : b.Finishes g ls)
    {s t : Int} (hst : b.Leads s t) : s ∈ ls := by
  refine h.contains_iff.1 ?_
  unfold Build.Leads Graph.successors at hst
  rw [Graph.contains]
  cases hs : b.graph.get? (.line s) with
  | none => simp [hs] at hst
  | some x => rfl

theorem Label.fallsThrough_of_headKind? {l : Label} {kind : BlockKind}
    (h : l.headKind? = some kind) : kind.fallsThrough := by
  cases l <;> simp_all [headKind?, choice?] <;> subst h <;> rfl

section

variable {ε : Type} {decode : List UInt8 → Except ε String} {root d n : Node}

/-- The nodes of the function belong to it, and there are no others. -/
theorem Node.Solo.surveys (hroot : root.Solo d) :
    Surveys fun o n => n ∈ root.nodes ∧ (n = root ∨ n ∈ d.nodes ∧ o = some d) where
  child := by
    rintro o n c ⟨hn, hcases⟩ hc
    refine ⟨hereditary_nodes root n hn c hc, .inr ?_⟩
    rcases hcases with rfl | ⟨hnd, rfl⟩
    · obtain rfl := hroot.eq_of_mem hc
      exact ⟨c.mem_nodes_self, owner_of_isFunction hroot.function⟩
    · have hplain := hroot.top d hroot.declared c (child_below hnd hc)
      exact ⟨hereditary_nodes d n hnd c hc, owner_of_plain hplain⟩
  body := by
    rintro o n ⟨hn, -⟩ hopens c hc
    have hopens : n.label.isFunction ∨ n.label = .forStatement := by
      simpa [Label.opens] using hopens
    have hplain := hroot.body n hn hopens c hc
    cases hlabel : c.label <;> simp_all [Label.isConstruct, Label.isFunction]
  ifPart := by
    rintro o n ⟨hn, -⟩ hlabel f hf c hc
    have hplain := hroot.ifPart_plain hn hlabel hf hc
    cases hlabel : c.label <;> simp_all [Label.isConstruct, Label.isFunction]

theorem Node.Accounts.isConstruct {o : Option Node} {l : Int} {kind : BlockKind}
    (h : n.Accounts o l kind) : n.label.isConstruct := by
  cases kind <;> simp only [Accounts, ReturnsOn] at h <;>
    cases hlabel : n.label <;> simp_all [Label.isConstruct, Label.isFunction, Label.choice?]

/-! ## The first line of a statement -/

theorem Node.mem_below_of_statementsUnder {x : Node} {f : Field} (hx : x ∈ n.statementsUnder f) :
    x ∈ nodesIn n.children := by
  obtain ⟨c, hc, hx⟩ := mem_statementsUnder hx
  exact mem_nodesIn.2 ⟨c, child?_mem hc, mem_nodes_of_statements hx⟩

/-- What stands inside a construct registers lines below its first. -/
theorem Visits.registered_below (hroot : root.Unbroken d) (hn : n ∈ Node.nodesIn d.children)
    (hconstruct : n.label.isConstruct) {ns : List Node} {w w' : Walk} {cs : List Change}
    (h : Visits decode (.nodes ns) w cs w') (hns : ∀ x ∈ ns, x ∈ Node.nodesIn n.children)
    (hw : w.scope.FilesUnder decode (some d)) : ∀ l ∈ registeredBy cs, n.startLine < l := by
  intro l hl
  have hns' : ∀ x ∈ ns, x ∈ Node.nodesIn d.children := fun x hx =>
    (Node.hereditary_nodesIn d.children).nodes hn (Node.mem_nodes_of_below (hns x hx))
  obtain ⟨x, hx, m, hm, hle, -⟩ := h.exists_construct hroot.toSpread hroot.declared hns' hw hl
  obtain ⟨hmx, hm⟩ := Node.mem_constructs.1 hm
  have := hroot.startLine_lt_of_below
    (Node.mem_constructs_of_below hn hconstruct)
    ((Node.hereditary_nodesIn n.children).nodes (hns x hx) hmx) hm
  omega

/-- **A statement keeps its first line**: what a visit to it registers behind its own block lies
further down. -/
theorem Visits.headed (hroot : root.Unbroken d) (hn : n ∈ Node.nodesIn d.children)
    {kind : BlockKind} (hkind : n.label.headKind? = some kind) {w w' : Walk} {cs : List Change}
    (h : Visits decode (.node n) w cs w') (hw : w.scope.FilesUnder decode (some d)) :
    ∃ pre owner post, cs = pre ++ .register n.startLine kind owner :: post ∧
      ∀ l ∈ registeredBy post, n.startLine < l := by
  have hconstruct := Label.isConstruct_of_headKind? hkind
  have hdown := Node.hereditary_nodesIn n.children
  have hchild : ∀ c ∈ n.children, c ∈ Node.nodesIn n.children := fun c hc =>
    Node.mem_nodesIn_of_mem hc
  have hn' := Node.mem_nodes_of_below hn
  cases h with
  | other label => rw [hconstruct] at label; cases label
  | prototype label => rw [hroot.top d hroot.declared n hn] at label; cases label
  | function label => rw [hroot.top d hroot.declared n hn] at label; cases label
  | ret label => exact absurd label (hroot.returnless n hn')
  | @spawn _ _ cs _ label inside =>
    rw [label] at hkind
    cases hkind
    exact ⟨[], _, cs, rfl, inside.registered_below hroot hn hconstruct
      (fun x hx => hchild x (List.mem_filter.1 hx).1) hw⟩
  | @cond _ _ cs w₁ ds w₂ es _ label consequence header alternative =>
    rw [label] at hkind
    cases hkind
    have hend : w.scope.elseEnd n = Context.elseEnd { function := some d } n :=
      Scope.elseEnd_of_functionEnd hw.functionEnd n
    have hbounds := hroot.elseEnd_bounds hn label
    have hstart := hroot.startLine_lt_falsePath hn' label
    have hw₁ := (consequence.filesUnder hw).leaveCond (Outline.falsePath n).1 (w.scope.elseEnd n)
    have hcs := consequence.registered_below hroot hn hconstruct
      (fun x hx => Node.mem_below_of_statementsUnder hx) hw
    have hds := header.registered_below hroot hn hconstruct (fun x hx => by
      obtain ⟨f, -, c, hc, hx⟩ := Node.mem_condHeader hx
      exact hdown.nodes (hchild c (Node.child?_mem hc)) hx) hw₁
    have hes := alternative.registered_below hroot hn hconstruct (fun x hx =>
      hchild x (Node.child?_mem (Option.mem_toList.1 hx))) (header.filesUnder hw₁)
    -- behind its own block come the two ends of the false path, and what the parts register
    refine ⟨[], _, _, rfl, fun l hl => ?_⟩
    simp only [registeredBy_register, registeredBy_link, registeredBy_append, registeredBy_nil,
      Walk.falsePathChanges, registeredBy_linksTo, List.mem_append, List.mem_cons,
      List.nil_append, List.not_mem_nil, List.append_eq, or_false] at hl
    rcases hl with (rfl | rfl) | hl | hl | hl
    · exact hstart
    · omega
    · exact hcs l hl
    · exact hds l hl
    · exact hes l hl
  | @loop _ _ cs w₁ ds w₂ label header body =>
    rw [label] at hkind
    cases hkind
    have hds := body.registered_loopBody hroot.toSpread hroot.declared hn label
      ((header.filesUnder hw).enterLoop w.scope.returnTarget n.startLine)
    have hline := (hroot.loopBody n (hroot.mem_root hn') label).1
    refine ⟨cs, _, linksTo n.startLine w.scope.returnTarget
      ++ (ds ++ w₂.loopEndChanges n.startLine n.endLine), rfl, fun l hl => ?_⟩
    simp only [registeredBy_append, registeredBy_linksTo, List.nil_append, List.mem_append] at hl
    rcases hl with hl | hl
    · exact (hds l hl).1
    · rw [eq_of_registered_loopEnd hl]
      exact hline
  | @choice _ form _ cs w₁ ds w₂ label header parts =>
    rw [Label.headKind?_of_choice label] at hkind
    cases hkind
    have hclauses : ∀ k ∈ n.clauses, k ∈ Node.nodesIn d.children := fun k hk =>
      Node.hereditary_nodesIn d.children n hn k (List.mem_filter.1 hk).1
    refine ⟨cs, _, _, by rw [Walk.choiceChanges, List.cons_append], fun l hl => ?_⟩
    rw [registeredBy_append, Walk.registeredBy_choiceLinks, List.nil_append] at hl
    obtain ⟨k, hk, hle, -⟩ := parts.exists_clause hroot.toSpread hroot.declared hclauses
      ((header.filesUnder hw).enterChoice w.scope.returnTarget form n.startLine) hl
    have := hroot.clauseBelow n hn' (by rw [label]; rfl) k hk
    omega

/-- **From a loop to a switch or select**: a visit in the body of a loop draws the edge to every
switch or select there that is in no other loop of the body. -/
theorem Visits.link_enter (hroot : root.Unbroken d) {m : Node} (hm : m ∈ Node.nodesIn d.children)
    {form : Choice} (hform : n.label.choice? = some form)
    (hinner : ∀ f ∈ Node.nodesIn m.children, f.label = .forStatement →
      n ∉ Node.nodesIn f.children) {v : Visit} {w w' : Walk} {cs : List Change}
    (h : Visits decode v w cs w') {l : Int} :
    v.All (· ∈ Node.nodesIn m.children) → v.Reaches n → w.scope.loopHeader = some l →
      .link l n.startLine ∈ cs := by
  have hdown := Node.hereditary_nodesIn m.children
  have hconstruct := Label.isConstruct_of_choice hform
  have hin : ∀ x ∈ Node.nodesIn m.children, x ∈ Node.nodesIn d.children := fun x hx =>
    (Node.hereditary_nodesIn d.children).nodes hm (Node.mem_nodes_of_below hx)
  have hin' : ∀ x ∈ Node.nodesIn m.children, x ∈ root.nodes := fun x hx =>
    hroot.mem_root (Node.mem_nodes_of_below (hin x hx))
  have hother : ∀ {x : Node}, x.label.choice? = none → n ≠ x := by
    rintro x hx rfl
    rw [hform] at hx
    cases hx
  -- the header in scope is that of `m` until the walk enters another loop, and `n` is in no other
  induction h with
  | @other x _ _ _ label _ ih =>
    intro hx hn hl
    have hne : n ≠ x := by
      rintro rfl
      rw [hconstruct] at label
      cases label
    exact ih (hdown.named hx) (hroot.exists_named (hin' x hx) hn hconstruct hne) hl
  | @prototype x _ _ label =>
    intro hx
    rw [hroot.top d hroot.declared x (hin x hx)] at label
    cases label
  | @function x _ _ _ _ _ label =>
    intro hx
    rw [hroot.top d hroot.declared x (hin x hx)] at label
    cases label
  | @ret x _ _ _ label =>
    intro hx
    exact absurd label (hroot.returnless x (Node.mem_nodes_of_below (hin x hx)))
  | @spawn x _ _ _ label _ ih =>
    intro hx hn hl
    exact List.mem_cons_of_mem _ (ih (hdown.named hx) (hroot.exists_named (hin' x hx) hn hconstruct
      (hother (by rw [label]; rfl))) hl)
  | @cond x w _ w₁ _ w₂ _ _ label consequence header _ ih₁ ih₂ ih₃ =>
    intro hx hn hl
    have hl₁ : (w₁.leaveCond (Outline.falsePath x).1 (w.scope.elseEnd x)).scope.loopHeader
        = some l := by
      rw [Walk.scope_leaveCond, consequence.loopHeader_eq]
      exact hl
    rcases hroot.cond_parts (hin' x hx) label hn hconstruct with rfl | hn | hn | hn
    · exact absurd rfl (hother (by rw [label]; rfl))
    · simp [ih₁ (hdown.statementsUnder hx _) hn hl]
    · have hlink := ih₂ (fun s hs => (List.mem_append.1 hs).elim (hdown.namedUnder hx _ s)
        (hdown.namedUnder hx _ s)) hn hl₁
      simp [hlink]
    · simp [ih₃ (hdown.child? hx _) hn (header.loopHeader_eq.trans hl₁)]
  | @loop x _ _ _ _ _ label =>
    intro hx hn
    obtain ⟨c, hc, hnc⟩ := Node.exists_child_of_reached hn (hother (by rw [label]; rfl))
    exact absurd (Node.mem_nodesIn.2 ⟨c, hc, Node.reached_subset c hnc⟩) (hinner x hx label)
  | @choice x form' w _ w₁ _ _ label header _ ih₁ ih₂ =>
    intro hx hn hl
    rcases hroot.choice_parts (hin' x hx) label hn hconstruct with rfl | hn | hn
    · simp [Walk.choiceChanges, mem_linksFrom, hl]
    · simp [ih₁ (hdown.headerParts hx) hn hl]
    · have hl₁ : ((w₁.aimAt w.scope.returnTarget).enterChoice form' x.startLine).scope.loopHeader
          = some l := by
        rw [Walk.scope_enterChoice, header.scope_aimAt]
        exact hl
      simp [ih₂ (hdown.clauseBody hx) hn hl₁]
  | nil =>
    rintro - ⟨x, hx, -⟩
    cases hx
  | cons first _ ih₁ ih₂ =>
    rintro hns ⟨x, hx, hn⟩ hl
    rcases List.mem_cons.1 hx with rfl | hx
    · exact List.mem_append_left _ (ih₁ (hns x List.mem_cons_self) hn hl)
    · exact List.mem_append_right _ (ih₂ (fun y hy => hns y (List.mem_cons_of_mem _ hy)) ⟨x, hx, hn⟩
        (first.loopHeader_eq.trans hl))
  | noClause =>
    rintro - ⟨k, hk, -⟩
    cases hk
  | @clause _ _ _ w _ w₁ _ _ body _ ih₁ ih₂ =>
    rintro hks ⟨k, hk, hn⟩ hl
    rcases List.mem_cons.1 hk with rfl | hk
    · simp [ih₁ (hks k List.mem_cons_self) hn (by rw [Walk.scope_enterClause]; exact hl)]
    · have hl₁ : ∀ line, (w₁.leaveClause line w.scope).scope.loopHeader = some l := by
        intro line
        rw [Walk.scope_leaveClause]
        show w₁.scope.loopHeader = some l
        rw [body.loopHeader_eq, Walk.scope_enterClause]
        exact hl
      simp [ih₂ (fun j hj => hks j (List.mem_cons_of_mem _ hj)) ⟨k, hk, hn⟩ (hl₁ _)]

/-! ## Blocks and edges of the graph -/

namespace Build.Walked

variable {b : Build} {cs : List Change} {ls : List Int} {l s t : Int}

theorem exists_block (h : b.Walked decode root cs ls) (hl : l ∈ ls) :
    ∃ x, (({} : Graph).replay cs).get? (.line l) = some x :=
  Graph.contains_iff.1 ((h.finishes.mem_lines l).1 hl)

theorem mem_of_registered (h : b.Walked decode root cs ls) (hl : l ∈ registeredBy cs) : l ∈ ls :=
  (h.finishes.mem_lines l).2 (Graph.contains_replay_empty.2 hl)

/-- The kind of a block is that of its last registration. -/
theorem register_mem (h : b.Walked decode root cs ls) {x : Block}
    (hx : (({} : Graph).replay cs).get? (.line l) = some x) :
    .register l x.kind x.owner ∈ cs := by
  obtain ⟨pre, kind, owner, post, rfl, hpost⟩ := exists_last_register
    (Graph.contains_replay_empty.1 (Graph.contains_iff.2 ⟨x, hx⟩))
  obtain ⟨hkind, howner, -⟩ := Graph.last_replay Graph.sound_empty h.admits hpost hx
  rw [hkind, howner]
  exact List.mem_append_right _ List.mem_cons_self

/-- Behind every block stands a construct of the function. -/
theorem accounts (h : b.Walked decode root cs ls) (hroot : root.Solo d) {x : Block}
    (hx : (({} : Graph).replay cs).get? (.line l) = some x) :
    ∃ n ∈ d.nodes, n.Accounts (some d) l x.kind ∧ n.startLine ≤ l := by
  obtain ⟨w, hvisit⟩ := h.visit
  have howned : (Visit.nodes root.named).Owned (fun o n => n ∈ root.nodes ∧
      (n = root ∨ n ∈ d.nodes ∧ o = some d)) none :=
    hroot.surveys.named ⟨root.mem_nodes_self, .inl rfl⟩
  have hfiles : ({} : Walk).scope.FilesUnder decode none := ⟨rfl, rfl⟩
  obtain ⟨o, n, ⟨-, hcases⟩, -, haccounts⟩ :=
    hvisit.accounted hroot.surveys howned hfiles (h.register_mem hx)
  have hconstruct := haccounts.isConstruct
  rcases hcases with rfl | ⟨hn, rfl⟩
  · rw [hroot.root_plain] at hconstruct
    cases hconstruct
  · have hlines := Node.nested_nodes (hroot.nested_of_mem (hroot.mem_root d.mem_nodes_self)) hn
    exact ⟨n, hn, haccounts, (haccounts.bounds hlines.1 hlines.2.2.2).2.1⟩

/-- All blocks lie on lines of the function. -/
theorem bounds (h : b.Walked decode root cs ls) (hroot : root.Solo d) (hl : l ∈ ls) :
    d.startLine ≤ l ∧ l ≤ d.endLine := by
  obtain ⟨w, hvisit⟩ := h.visit
  rw [hroot.named_eq] at hvisit
  have hnested := hroot.nested_of_mem (hroot.mem_root d.mem_nodes_self)
  have hl := Graph.contains_replay_empty.1 ((h.finishes.mem_lines l).1 hl)
  cases hvisit with
  | cons first rest =>
    cases rest
    rw [List.append_nil] at hl
    exact (first.confined_function hroot.function hnested).registered hl

/-- The first line of the function is its entry. -/
theorem kind_first (h : b.Walked decode root cs ls) (hroot : root.Solo d) :
    d.startLine ∈ ls ∧ ∀ x, (({} : Graph).replay cs).get? (.line d.startLine) = some x →
      x.kind = .functionEntry := by
  obtain ⟨w, hvisit⟩ := h.visit
  have hconstruct := Label.isConstruct_of_isFunction hroot.function
  have hnamed : d ∈ root.named := hroot.named_eq ▸ List.mem_singleton.2 rfl
  refine ⟨h.mem_of_registered (hvisit.startLine_mem_of_mem hnamed hconstruct), fun x hx => ?_⟩
  obtain ⟨n, hn, haccounts, hle⟩ := h.accounts hroot hx
  have hnd : n = d := by
    rcases Node.constructs_cases (Node.mem_constructs.2 ⟨hn, haccounts.isConstruct⟩) with
      rfl | ⟨c, hc, hn⟩
    · rfl
    · have := hroot.inside_function (Node.mem_nodesIn.2 ⟨c, hc, (Node.mem_constructs.1 hn).1⟩)
        haccounts.isConstruct
      omega
  subst hnd
  have hfirst := hroot.first_lt_last
  have hfunction := hroot.function
  cases hkind : x.kind <;> simp only [hkind, Node.Accounts, Node.ReturnsOn] at haccounts <;>
    cases hlabel : n.label <;> simp_all [Label.isFunction]

/-- The kind that the walk leaves a block with is that of the finished graph. -/
theorem kind?_eq (h : b.Walked decode root cs ls) {x : Block}
    (hx : (({} : Graph).replay cs).get? (.line l) = some x) :
    b.graph.kind? (.line l) = some x.kind := by
  rw [Graph.kind?, h.finishes.get?_eq, hx]
  simp

/-- The walk can be cut at every statement of the function. -/
theorem passes (h : b.Walked decode root cs ls) (hroot : root.Solo d)
    (hn : n ∈ Node.nodesIn d.children) (hconstruct : n.label.isConstruct) :
    Passes decode d n cs := by
  obtain ⟨w, hvisit⟩ := h.visit
  obtain ⟨body, hbody⟩ := Option.isSome_iff_exists.1 hroot.hasBody
  obtain ⟨c, hc, hnc⟩ := Node.mem_nodesIn.1 hn
  have hnc := Node.mem_constructs.2 ⟨hnc, hconstruct⟩
  have hunder := hroot.isUnder_body d.mem_nodes_self (by simp [Label.opens, hroot.function]) hc hnc
  have hchild := Node.child?_eq_some hroot.partFields hc (beq_iff_eq.1 hunder)
  obtain rfl := Option.some.inj (hbody.symm.trans hchild)
  have hbody' := Node.hereditary_nodes d d d.mem_nodes_self body hc
  exact hvisit.passes_file hroot.toSpread ⟨rfl, rfl, rfl⟩ (hroot.mem_root d.mem_nodes_self)
    hroot.function hbody (hroot.reached_of_constructs hbody' hnc) hconstruct

/-- **The first line of a statement** is left with the kind of the statement. -/
theorem exists_head (h : b.Walked decode root cs ls) (hroot : root.Solo d)
    (hn : n ∈ Node.nodesIn d.children) {kind : BlockKind}
    (hkind : n.label.headKind? = some kind) :
    n.startLine ∈ ls ∧ ∃ x, (({} : Graph).replay cs).get? (.line n.startLine) = some x ∧
      x.kind = kind := by
  have hconstruct := Label.isConstruct_of_headKind? hkind
  have hle := hroot.startLine_le hn
  obtain ⟨before, own, after, rfl, ⟨u, u', hvisit, hu⟩, -, hafter⟩ := h.passes hroot hn hconstruct
  obtain ⟨pre, owner, post, rfl, hpost⟩ := hvisit.headed hroot.toUnbroken hn hkind hu
  have hl := h.mem_of_registered (l := n.startLine) (by simp)
  obtain ⟨x, hx⟩ := h.exists_block hl
  refine ⟨hl, x, hx, ?_⟩
  have heq : before ++ (pre ++ .register n.startLine kind owner :: post ++ after)
      = (before ++ pre) ++ .register n.startLine kind owner :: (post ++ after) := by simp
  have hcs := h.admits
  rw [heq] at hcs hx
  refine (Graph.last_replay Graph.sound_empty hcs ?_ hx).1
  simp only [registeredBy_append, List.mem_append, not_or]
  constructor
  · intro hl
    have := hpost _ hl
    omega
  · intro hl
    have := hafter _ hl
    omega

/-- Every block has the edges that its kind owes. -/
theorem owed (h : b.Walked decode root cs ls) (hroot : root.Solo d) {x : Block}
    (hx : (({} : Graph).replay cs).get? (.line l) = some x) : Owed root x.kind l (b.Leads l) := by
  obtain ⟨w, hvisit⟩ := h.visit
  have hstart : Scope.Follows root {} {} := ⟨rfl, rfl, fun h => by cases h⟩
  obtain ⟨hsettled, -⟩ := hvisit.settled hroot.placed
    (named_within (Node.mem_occurrencesFrom_self {} root) hroot.placed.root_opens) hstart
  have hl := Graph.contains_replay_empty.1 (Graph.contains_iff.2 ⟨x, hx⟩)
  exact (hsettled.owed Graph.sound_empty h.admits hl hx).mono fun t ht =>
    h.finishes.leads_of_leadsTo hx ht

/-- The construct that a block owes its edges to is the one that starts on its line. -/
theorem eq_of_owed (hroot : root.Solo d) (hn : n ∈ Node.nodesIn d.children)
    (hconstruct : n.label.isConstruct) {o : Context × Node} (ho : o ∈ root.occurrences)
    (ho' : o.2.label.isConstruct) (hline : o.2.startLine = n.startLine) : o = (o.1, n) := by
  have hmem := (hroot.around_of ho ho').1
  exact Prod.ext rfl (hroot.eq_of_startLine hroot.declared d.mem_nodes_self
    (Node.mem_constructs.2 ⟨hmem, ho'⟩)
    (Node.mem_constructs_of_below hn hconstruct) hline)

/-- An if leads to the end of its false path. -/
theorem leads_skip (h : b.Walked decode root cs ls) (hroot : root.Solo d)
    (hn : n ∈ Node.nodesIn d.children) (label : n.label = .ifStatement) :
    b.Leads n.startLine (Context.elseEnd { function := some d } n) := by
  have hconstruct : n.label.isConstruct := by rw [label]; rfl
  have hhead : n.label.headKind? = some .ifCondition := by rw [label]; rfl
  obtain ⟨-, x, hx, hkind⟩ := h.exists_head hroot hn hhead
  have howed := h.owed hroot hx
  rw [hkind] at howed
  obtain ⟨⟨ctx, m⟩, ho, hlabel, hline, hleads⟩ := howed
  obtain ⟨⟩ := eq_of_owed hroot hn hconstruct ho (by rw [hlabel]; rfl) hline
  obtain ⟨-, hd, -⟩ := hroot.below_of ho hconstruct (by rw [label]; rfl)
  have hend : Context.elseEnd { function := some d } n = ctx.elseEnd n := by
    rw [Context.elseEnd, Context.elseEnd, hd]
  rw [hend]
  exact hleads

/-- A switch or select leads to its clauses. -/
theorem leads_branch (h : b.Walked decode root cs ls) (hroot : root.Solo d)
    (hn : n ∈ Node.nodesIn d.children) {form : Choice} (label : n.label.choice? = some form)
    {k : Node} (hk : k ∈ n.clauses) : b.Leads n.startLine (Outline.clauseEntry form k).1 := by
  have hconstruct := Label.isConstruct_of_choice label
  obtain ⟨-, x, hx, hkind⟩ := h.exists_head hroot hn (Label.headKind?_of_choice label)
  have howed := h.owed hroot hx
  have hform : ∃ o ∈ root.occurrences, ∃ form', o.2.label.choice? = some form' ∧
      o.2.startLine = n.startLine ∧ Branches form' o.1 o.2 (b.Leads n.startLine) := by
    rw [hkind] at howed
    have hcases : form.kind = .switchStatement ∨ form.kind = .selectStatement := by
      cases form <;> simp [Choice.kind]
    rcases hcases with hkind' | hkind'
    all_goals
      rw [hkind'] at howed
      obtain ⟨o, ho, form', hform, -, hline, hbranches⟩ := howed
      exact ⟨o, ho, form', hform, hline, hbranches⟩
  obtain ⟨⟨ctx, m⟩, ho, form', hlabel, hline, hbranches⟩ := hform
  obtain ⟨⟩ := eq_of_owed hroot hn hconstruct ho (Label.isConstruct_of_choice hlabel) hline
  obtain rfl := Option.some.inj (label.symm.trans hlabel)
  exact hbranches.clauses k hk

/-- An outermost loop leads out of the function. -/
theorem leads_out (h : b.Walked decode root cs ls) (hroot : root.Solo d)
    (hn : n ∈ Node.nodesIn d.children) (label : n.label = .forStatement)
    (houter : ∀ m ∈ Node.nodesIn d.children, m.label = .forStatement →
      n ∉ Node.nodesIn m.children) : b.Leads n.startLine d.endLine := by
  have hconstruct : n.label.isConstruct := by rw [label]; rfl
  have hhead : n.label.headKind? = some .forStatement := by rw [label]; rfl
  obtain ⟨-, x, hx, hkind⟩ := h.exists_head hroot hn hhead
  have howed := h.owed hroot hx
  rw [hkind] at howed
  obtain ⟨⟨ctx, m⟩, ho, hlabel, hline, t, hexit, hleads⟩ := howed
  obtain ⟨⟩ := eq_of_owed hroot hn hconstruct ho (by rw [hlabel]; rfl) hline
  obtain ⟨-, hd, haround⟩ := hroot.below_of ho hconstruct (by rw [label]; rfl)
  rcases hexit with ⟨r, hr, hret, -⟩ | ⟨m, hm, -⟩ | ⟨-, f, hf, -, -, -, rfl⟩
  · exact absurd hret (hroot.returnless r (hroot.around_of hr (by rw [hret]; rfl)).1)
  · obtain ⟨hm, hloop, hnm⟩ := haround.loop m hm
    exact absurd hnm (houter m hm hloop)
  · rw [Option.mem_def.1 hf] at hd
    rwa [Option.some.inj hd] at hleads

/-- A loop leads to every switch or select for which it is the nearest one. -/
theorem leads_enter (h : b.Walked decode root cs ls) (hroot : root.Solo d) {m : Node}
    (hm : m ∈ Node.nodesIn d.children) (loop : m.label = .forStatement)
    (hn : n ∈ Node.nodesIn m.children) {form : Choice} (label : n.label.choice? = some form)
    (hinner : ∀ f ∈ Node.nodesIn m.children, f.label = .forStatement →
      n ∉ Node.nodesIn f.children) : b.Leads m.startLine n.startLine := by
  have hconstruct := Label.isConstruct_of_choice label
  have hm' := Node.mem_nodes_of_below hm
  have hself := hroot.startLine_le hm
  have hline := (hroot.loopBody m (hroot.mem_root hm') loop).1
  have hhead : m.label.headKind? = some .forStatement := by rw [loop]; rfl
  obtain ⟨hl, x, hx, -⟩ := h.exists_head hroot hm hhead
  obtain ⟨before, own, after, rfl, ⟨u, u', hvisit, hu⟩, -, hafter⟩ :=
    h.passes hroot hm (by rw [loop]; rfl)
  obtain ⟨hs, w₁, ds, w₂, header, body, rfl⟩ := hvisit.loop_cases loop
  have hds := body.registered_loopBody hroot.toSpread hroot.declared hm loop
    ((header.filesUnder hu).enterLoop u.scope.returnTarget m.startLine)
  -- the switch stands in the body of the loop
  have hreaches : (Visit.nodes (m.statementsUnder .body)).Reaches n := by
    have hne : n ≠ m := by
      rintro rfl
      rw [loop] at label
      cases label
    have hnm : n ∈ m.reached := hroot.reached_of_constructs hm'
      (Node.mem_constructs_of_below hn hconstruct)
    rcases hroot.loop_parts (hroot.mem_root hm') loop hnm hconstruct with
      heq | ⟨c, hc, hnc⟩ | hbody
    · exact absurd heq hne
    · refine absurd ?_ (hroot.not_mem_aside hm' (Node.mem_constructs_of_reached hnc hconstruct))
      unfold Node.aside
      rwa [loop, if_neg (by decide), if_neg (by decide), if_pos (by decide)]
    · exact hbody
  have hlink : .link m.startLine n.startLine ∈ ds :=
    body.link_enter hroot.toUnbroken hm label hinner
      (fun x hx => Node.mem_below_of_statementsUnder hx) hreaches (by rw [Walk.scope_enterLoop])
  have heq : before ++ (hs ++ (Walk.loopChanges u.scope m.startLine
        ++ (ds ++ w₂.loopEndChanges m.startLine m.endLine)) ++ after)
      = (before ++ (hs ++ Walk.loopChanges u.scope m.startLine))
        ++ (ds ++ (w₂.loopEndChanges m.startLine m.endLine ++ after)) := by simp
  refine h.finishes.leads_of_leadsTo hx ?_
  have hcs := h.admits
  rw [heq] at hcs hx
  refine leadsTo_of_link Graph.sound_empty hcs (by simp [Walk.loopChanges]) (by simp [hlink]) ?_ hx
  simp only [registeredBy_append, List.mem_append, not_or]
  refine ⟨fun hl => ?_, fun hl => ?_, fun hl => ?_⟩
  · have := hds _ hl
    omega
  · have := eq_of_registered_loopEnd hl
    omega
  · have := hafter _ hl
    omega

/-- An edge of the finished graph was drawn by the walk, or it is the one to the block below. -/
theorem leads_cases (h : b.Walked decode root cs ls) (hroot : root.Solo d)
    (hst : b.Leads s t) :
    Drawn d s t ∨
      ((b.graph.kind? (.line s)).any BlockKind.fallsThrough ∧ following ls s = some t) := by
  rcases h.finishes.mem_successors_iff.1 hst with ⟨x, hx, hleads⟩ | ⟨hfalls, hnext⟩
  · obtain ⟨w, hvisit⟩ := h.visit
    obtain ⟨pre, kind, owner, post, rfl, hpost⟩ := exists_last_register
      (Graph.contains_replay_empty.1 (Graph.contains_iff.2 ⟨x, hx⟩))
    have hlink := ((Graph.last_replay Graph.sound_empty h.admits hpost hx).2.2 t).1 hleads
    exact .inl (hvisit.drawn_file hroot (by simp [hlink]))
  · exact .inr ⟨hfalls, h.finishes.infix_listing_iff.1 hnext⟩

/-- A block that does not fall through, above the last line, leads on. -/
theorem exists_leads (h : b.Walked decode root cs ls) (hroot : root.Solo d) (hl : l ∈ ls)
    (hlast : l ≠ d.endLine)
    (hfalls : (b.graph.kind? (.line l)).any BlockKind.fallsThrough = false) :
    ∃ t, b.Leads l t := by
  obtain ⟨w, hvisit⟩ := h.visit
  obtain ⟨x, hx⟩ := h.exists_block hl
  rw [h.kind?_eq hx] at hfalls
  have henclosed : (Visit.nodes root.named).Enclosed := by
    intro c hc
    obtain rfl := hroot.eq_of_mem (List.mem_filter.1 hc).1
    exact .declaration hroot.function
  have hret : x.kind ≠ .returnStatement := by
    intro hkind
    obtain ⟨n, hn, haccounts, -⟩ := h.accounts hroot hx
    rw [hkind] at haccounts
    rcases haccounts with ⟨hlabel, -⟩ | ⟨hfunction, hline, -⟩
    · exact hroot.returnless n hn hlabel
    · rw [hroot.eq_of_isFunction hn hfunction] at hline
      exact hlast hline.symm
  obtain ⟨t, ht⟩ := (hvisit.goesOn_outside henclosed).owed Graph.sound_empty h.admits
    (Graph.contains_replay_empty.1 (Graph.contains_iff.2 ⟨x, hx⟩)) hx (by simpa using hfalls) hret
  exact ⟨t, h.finishes.leads_of_leadsTo hx ht⟩

theorem fallsThrough_head (h : b.Walked decode root cs ls) (hroot : root.Solo d)
    (hn : n ∈ Node.nodesIn d.children) {kind : BlockKind} (hkind : n.label.headKind? = some kind) :
    (b.graph.kind? (.line n.startLine)).any BlockKind.fallsThrough := by
  obtain ⟨-, x, hx, rfl⟩ := h.exists_head hroot hn hkind
  rw [h.kind?_eq hx]
  exact Label.fallsThrough_of_headKind? hkind

end Build.Walked

end

end GoFlow
