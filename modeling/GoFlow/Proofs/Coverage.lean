import GoFlow.Proofs.Descent
import GoFlow.Proofs.Integrity

/-!
# Coverage: what a walk comes to

Each construct picks the parts of itself that are walked. In trees of the shape that the grammar of
Go gives them, all that is left out are tokens, comments, and what stands in front of the colon of a
clause: the values of a case and the communication of a select.

- `Node.reached`: a node and all nodes below it, but for those in front of a colon.
- `Node.GoShaped`: the shape of the trees.
- `Visits.covers`: a visit comes to every construct that is reached.
-/

namespace GoFlow

namespace Node

/-! ## Nodes not in front of a colon -/

mutual

/-- A node and the nodes below it, those in front of the colon of a clause left out. -/
def reached : Node → List Node
  | .mk head kids =>
    .mk head kids :: if head.label.isClause then reachedBehind kids else reachedIn kids

/-- The reached nodes of a row. -/
def reachedIn : List Node → List Node
  | [] => []
  | n :: rest => n.reached ++ reachedIn rest

/-- The reached nodes behind the first colon of a row. -/
def reachedBehind : List Node → List Node
  | [] => []
  | n :: rest => if n.label == .colon then reachedIn rest else reachedBehind rest

end

/-- What is reached in a row is reached from one of its nodes. -/
theorem mem_reachedIn {m : Node} {ns : List Node} :
    m ∈ reachedIn ns ↔ ∃ n ∈ ns, m ∈ n.reached := by
  induction ns with
  | nil => simp [reachedIn]
  | cons n rest ih => simp [reachedIn, ih]

/-- In a clause, the walk starts at the colon. -/
theorem reachedBehind_eq (ns : List Node) : reachedBehind ns = reachedIn (afterColon ns) := by
  induction ns with
  | nil => rfl
  | cons n rest ih =>
    rw [reachedBehind, afterColon]
    by_cases hcolon : n.label = .colon
    · rw [if_pos (by simpa using hcolon), List.dropWhile_cons_of_neg (by simpa using hcolon)]
      rfl
    · rw [if_neg (by simpa using hcolon), List.dropWhile_cons_of_pos (by simpa using hcolon), ih]
      rfl

/-- What is reached in a node is the node, or reached in a child; in a clause, in a child behind the
colon. -/
theorem mem_reached {m n : Node} :
    m ∈ n.reached ↔ m = n ∨
      ∃ c ∈ if n.label.isClause then afterColon n.children else n.children, m ∈ c.reached := by
  obtain ⟨head, kids⟩ := n
  rw [reached, List.mem_cons]
  show _ ∨ m ∈ (if head.label.isClause then reachedBehind kids else reachedIn kids) ↔
    _ ∨ ∃ c ∈ if head.label.isClause then afterColon kids else kids, m ∈ c.reached
  split
  · rw [reachedBehind_eq, mem_reachedIn]
  · rw [mem_reachedIn]

theorem mem_of_mem_afterColon {ns : List Node} {c : Node} (h : c ∈ afterColon ns) : c ∈ ns :=
  (List.dropWhile_sublist _).mem (List.mem_of_mem_tail h)

theorem mem_reached_self (n : Node) : n ∈ n.reached := mem_reached.2 (.inl rfl)

/-- Below a node, what is reached is reached in a child. -/
theorem exists_child_of_reached {m n : Node} (h : m ∈ n.reached) (hne : m ≠ n) :
    ∃ c ∈ n.children, m ∈ c.reached := by
  obtain ⟨c, hc, hm⟩ := (mem_reached.1 h).resolve_left hne
  split at hc
  · exact ⟨c, mem_of_mem_afterColon hc, hm⟩
  · exact ⟨c, hc, hm⟩

mutual

/-- A walk that descends everywhere but in front of colons stays within the tree. -/
theorem reached_subset : ∀ n : Node, n.reached ⊆ n.nodes
  | .mk head kids => by
    rw [reached, nodes]
    refine List.cons_subset_cons _ ?_
    split
    · exact reachedBehind_subset kids
    · exact reachedIn_subset kids

theorem reachedIn_subset : ∀ ns : List Node, reachedIn ns ⊆ nodesIn ns
  | [] => List.Subset.refl _
  | n :: rest => by
    rw [reachedIn, nodesIn]
    exact List.append_subset.2 ⟨List.subset_append_of_subset_left _ (reached_subset n),
      List.subset_append_of_subset_right _ (reachedIn_subset rest)⟩

theorem reachedBehind_subset : ∀ ns : List Node, reachedBehind ns ⊆ nodesIn ns
  | [] => List.Subset.refl _
  | n :: rest => by
    rw [reachedBehind, nodesIn]
    refine List.subset_append_of_subset_right _ ?_
    split
    · exact reachedIn_subset rest
    · exact reachedBehind_subset rest

end

/-! ## The shape of the trees -/

/-- The shape that the grammar gives to the trees of a front end, as far as walks are concerned. -/
structure GoShaped (root : Node) : Prop where
  root_plain : root.label.isConstruct = false
  /-- Declarations stand at the top only. -/
  top : ∀ c ∈ root.children, ∀ n ∈ nodesIn c.children, n.label.isFunction = false
  /-- Tokens and comments are leaves, and no constructs. -/
  leaf : ∀ n ∈ root.nodes, n.isStatement = false →
    n.label.isConstruct = false ∧ n.children.isEmpty
  /-- No two parts of an if or of a loop are held under one field. -/
  fields : ∀ n ∈ root.nodes, n.label = .ifStatement ∨ n.label = .forStatement →
    (n.children.filterMap (·.head.field)).Nodup
  /-- The body of a function or loop is a part of it, and no construct itself. -/
  body : ∀ n ∈ root.nodes, n.label.isFunction ∨ n.label = .forStatement →
    ∀ c ∈ n.child? .body, c.label.isConstruct = false
  /-- An if has its four parts and nothing else. -/
  cond : ∀ n ∈ root.nodes, n.label = .ifStatement → ∀ c ∈ n.children, c.isStatement →
    c.head.field = some .alternative ∨
      c.head.field ∈ [some .initializer, some .condition, some .consequence] ∧
        c.label.isConstruct = false
  /-- A loop has a header and a body. -/
  loop : ∀ n ∈ root.nodes, n.label = .forStatement → ∀ c ∈ n.children, c.isStatement →
    Outline.isHeaderPart c ∨ c.head.field = some .body
  /-- A switch or select has a header and clauses. -/
  choice : ∀ n ∈ root.nodes, n.label.choice?.isSome → ∀ c ∈ n.children, c.isStatement →
    Outline.isHeaderPart c ∨ c.isClause

/-- Where no field is used twice, the child under a field is the one that is asked for. -/
theorem child?_eq_some {n c : Node} {f : Field} (hn : (n.children.filterMap (·.head.field)).Nodup)
    (hc : c ∈ n.children) (hf : c.head.field = some f) : n.child? f = some c := by
  rw [child?]
  obtain ⟨head, kids⟩ := n
  change (kids.filterMap _).Nodup at hn
  change c ∈ kids at hc
  show kids.find? _ = some c
  induction kids with
  | nil => cases hc
  | cons k kids ih =>
    rw [List.find?_cons]
    by_cases hk : k.head.field = some f
    · rw [show (k.head.field == some f) = true by simpa using hk]
      rcases List.mem_cons.1 hc with rfl | hc
      · rfl
      · -- a second child under the field
        have hnodup : (some f).toList ++ kids.filterMap (·.head.field) |>.Nodup := by
          simpa [hk] using hn
        exact absurd (List.mem_filterMap.2 ⟨c, hc, hf⟩) (List.nodup_cons.1 hnodup).1
    · rw [show (k.head.field == some f) = false by simpa using hk]
      have hrest : (kids.filterMap (·.head.field)).Nodup :=
        hn.sublist ((List.sublist_cons_self k kids).filterMap _)
      rcases List.mem_cons.1 hc with rfl | hc
      · exact absurd hf hk
      · exact ih hrest hc

namespace GoShaped

variable {root n m : Node}

/-- A node with a construct in it is a statement to the walk. -/
theorem isStatement_of_mem (hroot : root.GoShaped) (hn : n ∈ root.nodes) (hm : m ∈ n.nodes)
    (hconstruct : m.label.isConstruct) : n.isStatement := by
  by_contra hleaf
  rw [Bool.not_eq_true] at hleaf
  obtain ⟨hplain, hkids⟩ := hroot.leaf n hn hleaf
  obtain ⟨head, kids⟩ := n
  obtain rfl : kids = [] := List.isEmpty_iff.1 hkids
  rw [nodes, nodesIn, List.mem_singleton] at hm
  subst hm
  rw [hconstruct] at hplain
  cases hplain

/-- On the way to a construct there are statements only: tokens and comments lead nowhere. -/
theorem isStatement_of_reached (hroot : root.GoShaped) (hn : n ∈ root.nodes) (hm : m ∈ n.reached)
    (hconstruct : m.label.isConstruct) : n.isStatement :=
  hroot.isStatement_of_mem hn (reached_subset n hm) hconstruct

theorem named_of_isStatement {c : Node} (h : c.isStatement) : c.head.named := by
  rw [isStatement, Bool.and_eq_true] at h
  exact h.1

/-- A construct below a node is reached in a named child. -/
theorem exists_named (hroot : root.GoShaped) (hn : n ∈ root.nodes) (hm : m ∈ n.reached)
    (hconstruct : m.label.isConstruct) (hne : m ≠ n) : ∃ s ∈ n.named, m ∈ s.reached := by
  obtain ⟨c, hc, hm⟩ := exists_child_of_reached hm hne
  have hc' := hereditary_nodes root n hn c hc
  have hstatement := hroot.isStatement_of_reached hc' hm hconstruct
  exact ⟨c, List.mem_filter.2 ⟨hc, named_of_isStatement hstatement⟩, hm⟩

/-- A construct in a member of a row of statements is reached in one of these statements. -/
theorem exists_unwrapped (hroot : root.GoShaped) {c : Node} (hc : c ∈ root.nodes)
    (hm : m ∈ c.reached) (hconstruct : m.label.isConstruct) (isList : Bool)
    (hlist : isList = true ↔ c.label = .statementList) :
    ∃ s ∈ if isList then c.children.filter isStatement else if c.isStatement then [c] else [],
      m ∈ s.reached := by
  by_cases h : isList
  · have hne : m ≠ c := by
      rintro rfl
      rw [hlist.1 h] at hconstruct
      cases hconstruct
    obtain ⟨s, hs, hm⟩ := exists_child_of_reached hm hne
    have hs' := hereditary_nodes root c hc s hs
    have hstatement := hroot.isStatement_of_reached hs' hm hconstruct
    rw [if_pos h]
    exact ⟨s, List.mem_filter.2 ⟨hs, hstatement⟩, hm⟩
  · rw [if_neg h, if_pos (hroot.isStatement_of_reached hc hm hconstruct)]
    exact ⟨c, List.mem_singleton_self c, hm⟩

/-- A construct in a block is reached in a statement of the block. -/
theorem exists_statement (hroot : root.GoShaped) (hn : n ∈ root.nodes)
    (hplain : n.label.isConstruct = false) (hm : m ∈ n.reached)
    (hconstruct : m.label.isConstruct) : ∃ s ∈ n.statements, m ∈ s.reached := by
  have hne : m ≠ n := by
    rintro rfl
    rw [hconstruct] at hplain
    cases hplain
  obtain ⟨c, hc, hm⟩ := exists_child_of_reached hm hne
  have hc' := hereditary_nodes root n hn c hc
  have hnamed := named_of_isStatement (hroot.isStatement_of_reached hc' hm hconstruct)
  obtain ⟨s, hs, hm⟩ := hroot.exists_unwrapped hc' hm hconstruct
    (c.head.named && c.label == .statementList) (by simp [hnamed])
  exact ⟨s, List.mem_flatMap.2 ⟨c, hc, hs⟩, hm⟩

/-- A construct in a clause is reached in a statement of the clause. -/
theorem exists_clauseBody (hroot : root.GoShaped) (hn : n ∈ root.nodes) (hclause : n.isClause)
    (hm : m ∈ n.reached) (hconstruct : m.label.isConstruct) :
    ∃ s ∈ n.clauseBody, m ∈ s.reached := by
  have hlabel : n.label.isClause := by
    rw [isClause, Bool.and_eq_true] at hclause
    exact hclause.2
  have hne : m ≠ n := by
    rintro rfl
    cases hl : m.label <;> simp_all [Label.isClause, Label.isConstruct, Label.isFunction,
      Label.choice?]
  obtain ⟨c, hc, hm⟩ := (mem_reached.1 hm).resolve_left hne
  rw [if_pos hlabel] at hc
  have hc' := hereditary_nodes root n hn c (mem_of_mem_afterColon hc)
  obtain ⟨s, hs, hm⟩ := hroot.exists_unwrapped hc' hm hconstruct
    (c.label == .statementList) (by simp)
  exact ⟨s, List.mem_flatMap.2 ⟨c, hc, hs⟩, hm⟩

/-- A construct in an if is the if, or reached in one of its parts. -/
theorem cond_parts (hroot : root.GoShaped) (hn : n ∈ root.nodes) (label : n.label = .ifStatement)
    (hm : m ∈ n.reached) (hconstruct : m.label.isConstruct) :
    m = n ∨ (∃ s ∈ n.statementsUnder .consequence, m ∈ s.reached) ∨
      (∃ s ∈ n.namedUnder .initializer ++ n.namedUnder .condition, m ∈ s.reached) ∨
      ∃ a ∈ (n.child? .alternative).toList, m ∈ a.reached := by
  by_cases hne : m = n
  · exact .inl hne
  obtain ⟨c, hc, hm⟩ := exists_child_of_reached hm hne
  have hc' := hereditary_nodes root n hn c hc
  have hstatement := hroot.isStatement_of_reached hc' hm hconstruct
  have hchild : ∀ {f}, c.head.field = some f → n.child? f = some c :=
    fun hf => child?_eq_some (hroot.fields n hn (.inl label)) hc hf
  refine .inr ?_
  rcases hroot.cond n hn label c hc hstatement with hfield | ⟨hfield, hplain⟩
  · exact .inr (.inr ⟨c, Option.mem_toList.2 (hchild hfield), hm⟩)
  have hcm : m ≠ c := by
    rintro rfl
    rw [hconstruct] at hplain
    cases hplain
  have hunder : ∀ {f}, c.head.field = some f → ∃ s ∈ n.namedUnder f, m ∈ s.reached := by
    intro f hf
    rw [namedUnder, hchild hf]
    exact hroot.exists_named hc' hm hconstruct hcm
  simp only [List.mem_cons, List.not_mem_nil, or_false] at hfield
  rcases hfield with hfield | hfield | hfield
  · obtain ⟨s, hs, hm⟩ := hunder hfield
    exact .inr (.inl ⟨s, List.mem_append_left _ hs, hm⟩)
  · obtain ⟨s, hs, hm⟩ := hunder hfield
    exact .inr (.inl ⟨s, List.mem_append_right _ hs, hm⟩)
  · rw [statementsUnder, hchild hfield]
    exact .inl (hroot.exists_statement hc' hplain hm hconstruct)

/-- A construct in a loop is the loop, or reached in its header or body. -/
theorem loop_parts (hroot : root.GoShaped) (hn : n ∈ root.nodes) (label : n.label = .forStatement)
    (hm : m ∈ n.reached) (hconstruct : m.label.isConstruct) :
    m = n ∨ (∃ s ∈ n.headerParts, m ∈ s.reached) ∨
      ∃ s ∈ n.statementsUnder .body, m ∈ s.reached := by
  by_cases hne : m = n
  · exact .inl hne
  obtain ⟨c, hc, hm⟩ := exists_child_of_reached hm hne
  have hc' := hereditary_nodes root n hn c hc
  have hstatement := hroot.isStatement_of_reached hc' hm hconstruct
  refine .inr ?_
  rcases hroot.loop n hn label c hc hstatement with hheader | hfield
  · exact .inl ⟨c, List.mem_filter.2 ⟨hc, hheader⟩, hm⟩
  · have hbody := child?_eq_some (hroot.fields n hn (.inr label)) hc hfield
    rw [statementsUnder, hbody]
    exact .inr (hroot.exists_statement hc' (hroot.body n hn (.inr label) c hbody) hm hconstruct)

/-- A construct in a switch or select is that, or reached in its header or behind a colon. -/
theorem choice_parts (hroot : root.GoShaped) (hn : n ∈ root.nodes) {form : Choice}
    (label : n.label.choice? = some form) (hm : m ∈ n.reached) (hconstruct : m.label.isConstruct) :
    m = n ∨ (∃ s ∈ n.headerParts, m ∈ s.reached) ∨
      ∃ k ∈ n.clauses, ∃ s ∈ k.clauseBody, m ∈ s.reached := by
  by_cases hne : m = n
  · exact .inl hne
  obtain ⟨c, hc, hm⟩ := exists_child_of_reached hm hne
  have hc' := hereditary_nodes root n hn c hc
  have hstatement := hroot.isStatement_of_reached hc' hm hconstruct
  refine .inr ?_
  rcases hroot.choice n hn (by rw [label]; rfl) c hc hstatement with hheader | hclause
  · exact .inl ⟨c, List.mem_filter.2 ⟨hc, hheader⟩, hm⟩
  · exact .inr ⟨c, List.mem_filter.2 ⟨hc, hclause⟩,
      hroot.exists_clauseBody hc' hclause hm hconstruct⟩

/-- Declarations are children of the root. -/
theorem mem_children (hroot : root.GoShaped) {d : Node} (hd : d ∈ root.nodes)
    (hfunction : d.label.isFunction) : d ∈ root.children := by
  obtain ⟨head, kids⟩ := root
  rw [nodes] at hd
  rcases List.mem_cons.1 hd with rfl | hd
  · have hplain := hroot.root_plain
    rw [Label.isConstruct_of_isFunction hfunction] at hplain
    cases hplain
  · have hrow : ∀ {ns : List Node}, ns ⊆ kids → d ∈ nodesIn ns → d ∈ ns := by
      intro ns hns hd
      induction ns with
      | nil => simp [nodesIn] at hd
      | cons c rest ih =>
        rw [nodesIn, List.mem_append] at hd
        rcases hd with hd | hd
        · obtain ⟨head', kids'⟩ := c
          rw [nodes] at hd
          rcases List.mem_cons.1 hd with rfl | hd
          · exact List.mem_cons_self
          · have hplain := hroot.top _ (hns List.mem_cons_self) d hd
            rw [hfunction] at hplain
            cases hplain
        · exact List.mem_cons_of_mem _ (ih (fun m hm => hns (List.mem_cons_of_mem c hm)) hd)
    exact hrow (List.Subset.refl kids) hd

end GoShaped

end Node

/-- A node is reached in the nodes that a visit goes to. -/
def Visit.Reaches (m : Node) : Visit → Prop
  | .node n => m ∈ n.reached
  | .nodes ns => ∃ n ∈ ns, m ∈ n.reached
  | .clauses _ ks => ∃ k ∈ ks, ∃ s ∈ k.clauseBody, m ∈ s.reached

section

variable {ε : Type} {decode : List UInt8 → Except ε String} {root d m : Node}

/-- Among the changes are those of a visit to the node. -/
def ComesTo (decode : List UInt8 → Except ε String) (m : Node) (cs : List Change) : Prop :=
  ∃ u ds u', Visits decode (.node m) u ds u' ∧ ds ⊆ cs

/-- A visit that is part of fewer changes is part of more. -/
theorem ComesTo.mono {cs ds : List Change} (h : ComesTo decode m ds) (hds : ds ⊆ cs) :
    ComesTo decode m cs := by
  obtain ⟨u, es, u', hu, hes⟩ := h
  exact ⟨u, es, u', hu, List.Subset.trans hes hds⟩

/-- A visit comes to its own node. -/
theorem Visits.comesTo {w w' : Walk} {cs : List Change} (h : Visits decode (.node m) w cs w') :
    ComesTo decode m cs :=
  ⟨w, cs, w', h, List.Subset.refl cs⟩

/-- **Coverage**: a visit inside a declaration comes to every construct that is reached there. -/
theorem Visits.covers (hroot : root.GoShaped) (hd : d ∈ root.children)
    (hconstruct : m.label.isConstruct) {v : Visit} {w w' : Walk} {cs : List Change}
    (h : Visits decode v w cs w') :
    v.All (· ∈ Node.nodesIn d.children) → v.Reaches m → ComesTo decode m cs := by
  have hdown := Node.hereditary_nodesIn d.children
  have hin : ∀ n ∈ Node.nodesIn d.children, n ∈ root.nodes :=
    fun n hn => Node.mem_nodes_of_inside hd hn
  have hinside : ∀ n ∈ Node.nodesIn d.children, n.label.isFunction = false := hroot.top d hd
  induction h with
  | @other n _ _ _ label _ ih =>
    intro hn hm
    have hne : m ≠ n := by
      rintro rfl
      rw [hconstruct] at label
      cases label
    exact ih (hdown.named hn) (hroot.exists_named (hin n hn) hm hconstruct hne)
  -- inside a declaration there is no other one
  | @prototype n _ _ label =>
    intro hn
    rw [hinside n hn] at label
    cases label
  | @function n _ _ _ _ _ label =>
    intro hn
    rw [hinside n hn] at label
    cases label
  | @ret n _ _ _ label inside ih =>
    intro hn hm
    by_cases hne : m = n
    · subst hne
      exact (Visits.ret label inside).comesTo
    · exact (ih (hdown.named hn) (hroot.exists_named (hin n hn) hm hconstruct hne)).mono
        (List.subset_append_right _ _)
  | @spawn n _ _ _ label inside ih =>
    intro hn hm
    by_cases hne : m = n
    · subst hne
      exact (Visits.spawn label inside).comesTo
    · exact (ih (hdown.named hn) (hroot.exists_named (hin n hn) hm hconstruct hne)).mono
        (List.subset_cons_self _ _)
  | @cond n _ _ _ _ _ _ _ label consequence header alternative ih₁ ih₂ ih₃ =>
    intro hn hm
    rcases hroot.cond_parts (hin n hn) label hm hconstruct with rfl | hm | hm | hm
    · exact (Visits.cond label consequence header alternative).comesTo
    · exact (ih₁ (hdown.statementsUnder hn _) hm).mono fun c hc => by simp [hc]
    · refine (ih₂ (fun s hs => ?_) hm).mono fun c hc => by simp [hc]
      exact (List.mem_append.1 hs).elim (hdown.namedUnder hn _ s) (hdown.namedUnder hn _ s)
    · exact (ih₃ (hdown.child? hn _) hm).mono fun c hc => by simp [hc]
  | @loop n _ _ _ _ _ label header body ih₁ ih₂ =>
    intro hn hm
    rcases hroot.loop_parts (hin n hn) label hm hconstruct with rfl | hm | hm
    · exact (Visits.loop label header body).comesTo
    · exact (ih₁ (hdown.headerParts hn) hm).mono fun c hc => by simp [hc]
    · exact (ih₂ (hdown.statementsUnder hn _) hm).mono fun c hc => by simp [hc]
  | @choice n _ _ _ _ _ _ label header parts ih₁ ih₂ =>
    intro hn hm
    rcases hroot.choice_parts (hin n hn) label hm hconstruct with rfl | hm | hm
    · exact (Visits.choice label header parts).comesTo
    · exact (ih₁ (hdown.headerParts hn) hm).mono fun c hc => by simp [hc]
    · exact (ih₂ (hdown.clauseBody hn) hm).mono fun c hc => by simp [hc]
  | nil =>
    rintro - ⟨n, hn, -⟩
    cases hn
  | cons _ _ ih₁ ih₂ =>
    rintro hns ⟨n, hn, hm⟩
    rcases List.mem_cons.1 hn with rfl | hn
    · exact (ih₁ (hns n List.mem_cons_self) hm).mono (List.subset_append_left _ _)
    · exact (ih₂ (fun s hs => hns s (List.mem_cons_of_mem _ hs)) ⟨n, hn, hm⟩).mono
        (List.subset_append_right _ _)
  | noClause =>
    rintro - ⟨k, hk, -⟩
    cases hk
  | clause _ _ ih₁ ih₂ =>
    rintro hks ⟨k, hk, hm⟩
    rcases List.mem_cons.1 hk with rfl | hk
    · exact (ih₁ (hks k List.mem_cons_self) hm).mono fun c hc => by simp [hc]
    · exact (ih₂ (fun j hj => hks j (List.mem_cons_of_mem _ hj)) ⟨k, hk, hm⟩).mono
        fun c hc => by simp [hc]

end

/-! ## Builds -/

/-- A walk registers the first line of every construct that is reached in the body of a
declaration. -/
theorem Visits.startLine_mem_of_reached {ε : Type} {decode : List UInt8 → Except ε String}
    {root : Node} (hroot : root.GoShaped) {w w' : Walk} {cs : List Change}
    (h : Visits decode (.nodes root.named) w cs w') {d body m : Node} (hd : d ∈ root.nodes)
    (hfunction : d.label.isFunction) (hbody : d.child? .body = some body) (hm : m ∈ body.reached)
    (hconstruct : m.label.isConstruct) : m.startLine ∈ registeredBy cs := by
  have hchild := hroot.mem_children hd hfunction
  have hnamed := Node.GoShaped.named_of_isStatement (hroot.isStatement_of_reached hd
    d.mem_reached_self (Label.isConstruct_of_isFunction hfunction))
  obtain ⟨u, ds, u', hvisit, hds, -⟩ := h.node_of_mem (List.mem_filter.2 ⟨hchild, hnamed⟩)
  obtain ⟨_, hnone, -⟩ | ⟨body', name, es, u₁, hbody', -, inside, rfl⟩ :=
    hvisit.function_cases hfunction
  · rw [hbody] at hnone
    cases hnone
  obtain rfl := Option.some.inj (hbody.symm.trans hbody')
  have hbody'' := Node.child?_mem hbody
  have hplain := hroot.body d hd (.inl hfunction) body hbody
  obtain ⟨s, hs, hm⟩ := hroot.exists_statement (Node.hereditary_nodes root d hd body hbody'') hplain
    hm hconstruct
  have hstatements := (Node.hereditary_nodesIn d.children).statements
    (Node.mem_nodesIn_of_mem hbody'')
  obtain ⟨u₂, fs, u₃, hvisit, hfs⟩ :=
    inside.covers hroot hchild hconstruct hstatements ⟨s, hs, hm⟩
  -- the visit to the construct registers its first line
  obtain ⟨kind, owner, hmem⟩ := mem_registeredBy.1 (hvisit.startLine_mem hconstruct)
  exact mem_registeredBy.2 ⟨kind, owner, hds (by simp [hfs hmem])⟩

/-- **No construct behind a colon is lost**: in a tree of the shape of Go, every construct in the
body of a declaration, unless it stands in front of the colon of a clause, has a block on the line
on which it begins. -/
theorem exists_block_of_reached {ε : Type} {decode : List UInt8 → Except ε String} {root : Node}
    {b : Build} (hroot : root.GoShaped) (hb : build decode root {} = .ok b) {d body m : Node}
    (hd : d ∈ root.nodes) (hfunction : d.label.isFunction) (hbody : d.child? .body = some body)
    (hm : m ∈ body.reached) (hconstruct : m.label.isConstruct) :
    ∃ x ∈ b.blocks, x.endLine = m.startLine := by
  obtain ⟨cs, w, ls, hvisit, hadmit, hfinish⟩ := finishes_of_build Graph.sound_empty hb
  exact hfinish.exists_of_registered
    (hvisit.startLine_mem_of_reached hroot hd hfunction hbody hm hconstruct)

/-- The body of a function with function literals in the condition of an if, in the header of a loop
and in the statement of a clause. -/
def literalBody : Node :=
  .mk { label := .block, span := { startRow := 0, endRow := 12 }, field := some .body } [
    .mk { label := .ifStatement, span := { startRow := 1, endRow := 4 } } [
      .mk { label := .other "call_expression", field := some .condition } [
        .mk { label := .other "func_literal" } [
          .mk { label := .block, field := some .body } [
            .mk { label := .returnStatement, span := { startRow := 2, endRow := 2 } } []]]],
      .mk { label := .block, span := { startRow := 3, endRow := 4 },
            field := some .consequence } []],
    .mk { label := .forStatement, span := { startRow := 5, endRow := 11 } } [
      .mk { label := .other "call_expression" } [
        .mk { label := .other "func_literal" } [
          .mk { label := .block, field := some .body } [
            .mk { label := .goStatement, span := { startRow := 6, endRow := 6 } } []]]],
      .mk { label := .block, span := { startRow := 7, endRow := 11 }, field := some .body } [
        .mk { label := .statementList } [
          .mk { label := .selectStatement, span := { startRow := 8, endRow := 10 } } [
            .mk { label := .defaultCase, span := { startRow := 9, endRow := 9 } } [
              .mk { label := .colon, named := false } [],
              .mk { label := .statementList } [
                .mk { label := .returnStatement, span := { startRow := 9, endRow := 9 } } []]]]]]]]

def literalTree : Node :=
  .mk { label := .other "source_file" } [
    .mk { label := .functionDeclaration, span := { startRow := 0, endRow := 12 } } [literalBody]]

/-- Constructs inside function literals, and the blocks they get. -/
theorem exists_block_of_reached_literalTree :
    literalTree.GoShaped ∧
      (literalBody.reached.filter (·.label.isConstruct)).map Node.startLine
        = [2, 3, 6, 7, 9, 10] ∧
      ∃ b, build (fun _ => (.ok "" : Except Empty String)) literalTree {} = .ok b ∧
        ∀ m ∈ literalBody.reached, m.label.isConstruct →
          ∃ x ∈ b.blocks, x.endLine = m.startLine := by
  have hroot : literalTree.GoShaped :=
    ⟨rfl, by decide, by decide, by decide, by decide, by decide, by decide, by decide⟩
  have hd := Node.hereditary_nodes literalTree _ literalTree.mem_nodes_self _ List.mem_cons_self
  exact ⟨hroot, by decide, _, rfl, fun m hm hconstruct =>
    @exists_block_of_reached Empty (fun _ => .ok "") literalTree _ hroot rfl _ literalBody m hd rfl
      rfl hm hconstruct⟩

/-- A function with a switch whose only case value calls a function literal. -/
def caseValue : Node :=
  .mk { label := .other "source_file", span := { startRow := 0, endRow := 9 } } [
    .mk { label := .functionDeclaration, span := { startRow := 2, endRow := 8 } } [
      .mk { label := .block, span := { startRow := 2, endRow := 8 }, field := some .body } [
        .mk { label := .statementList, span := { startRow := 3, endRow := 7 } } [
          .mk { label := .expressionSwitch, span := { startRow := 3, endRow := 7 } } [
            .mk { label := .other "identifier", span := { startRow := 3, endRow := 3 } } [],
            .mk { label := .expressionCase, span := { startRow := 4, endRow := 6 } } [
              .mk { label := .other "call_expression", span := { startRow := 4, endRow := 6 } } [
                .mk { label := .other "func_literal", span := { startRow := 4, endRow := 6 } } [
                  .mk { label := .block, span := { startRow := 4, endRow := 6 },
                        field := some .body } [
                    .mk { label := .returnStatement, span := { startRow := 5, endRow := 5 } } []]]],
              .mk { label := .colon, span := { startRow := 6, endRow := 6 },
                    named := false } []]]]]]]

/-- The return in the literal, on line 6, has no block. -/
theorem lost_caseValue :
    caseValue.GoShaped ∧ caseValue.hasFault = false ∧
      (∃ d ∈ caseValue.nodes, d.label.isFunction ∧ ∃ body ∈ d.child? .body,
        ∃ m ∈ body.nodes, m.label = .returnStatement ∧ m.startLine = 6) ∧
      ∃ b, build (fun _ => (.ok "" : Except Empty String)) caseValue {} = .ok b ∧
        ∀ x ∈ b.blocks, x.endLine ≠ 6 :=
  ⟨⟨rfl, by decide, by decide, by decide, by decide, by decide, by decide, by decide⟩, rfl,
    by decide, _, rfl, by decide⟩

end GoFlow
