import GoFlow.Proofs.Descent

/-!
# Scoping of the back-references

Constructs further in refer back to the blocks that the scope carries. A walk over a node gives all
of them back, with one exception: a return stays the return target for what comes behind it, unless
a loop, switch, select or declaration around the return takes it back.

- `Outline.openReturns`: the lines of the returns that nothing takes back.
- `Node.openNodes`: the nodes that stand open in a node, with no such construct around them.
- `Visits.returnTarget_eq`: a visit leaves the last open return as the return target.
-/

namespace GoFlow

namespace Outline

mutual

/-- Lines of the returns that a construct leaves open, in the order of the walk. -/
def openReturnsOf : Item → List Int
  | .ret line inside => line :: openReturns inside
  | .spawn _ inside => openReturns inside
  | .cond _ _ _ consequence header alternative =>
    openReturns consequence ++ (openReturns header ++ openReturns alternative)
  | .prototype .. | .function .. | .loop .. | .choice .. => []

/-- Lines of the returns that a row of constructs leaves open, in the order of the walk. -/
def openReturns : List Item → List Int
  | [] => []
  | i :: rest => openReturnsOf i ++ openReturns rest

end

@[simp] theorem openReturns_append (is js : List Item) :
    openReturns (is ++ js) = openReturns is ++ openReturns js := by
  induction is with
  | nil => simp [openReturns]
  | cons i is ih => rw [List.cons_append, openReturns, openReturns, ih, List.append_assoc]

theorem openReturns_singleton (i : Item) : openReturns [i] = openReturnsOf i := by
  rw [openReturns, openReturns, List.append_nil]

end Outline

/-- Whether the rule gives the return target back as it found it, whatever is inside. -/
def Label.restores (l : Label) : Bool := l.isFunction || l == .forStatement || l.choice?.isSome

theorem Label.restores_of_function {l : Label} (h : l.isFunction) : l.restores := by
  simp [restores, h]

theorem Label.restores_of_loop {l : Label} (h : l = .forStatement) : l.restores := by
  simp [restores, h]

theorem Label.restores_of_choice {l : Label} {form : Choice} (h : l.choice? = some form) :
    l.restores := by
  simp [restores, h]

theorem Label.restores_of_not_construct {l : Label} (h : l.isConstruct = false) :
    l.restores = false := by
  cases l <;> first | rfl | cases h

namespace Outline

variable {n : Node}

/-- A construct that restores the scope has no open returns, whatever is inside it. -/
theorem openReturns_of_restores (h : n.label.restores) : openReturns (ofNode n) = [] := by
  rcases n.label.construct_cases with
    label | label | label | label | label | label | ⟨form, label⟩
  · rw [Label.restores_of_not_construct label] at h
    cases h
  · cases hbody : n.child? .body with
    | none => rw [ofNode_prototype label hbody]; rfl
    | some body => rw [ofNode_function label hbody]; rfl
  · rw [label] at h; cases h
  · rw [label] at h; cases h
  · rw [label] at h; cases h
  · rw [ofNode_loop label]; rfl
  · rw [ofNode_choice label]; rfl

/-- A return is open itself, and so are those inside it. -/
theorem openReturns_ret (h : n.label = .returnStatement) :
    openReturns (ofNode n) = n.startLine :: openReturns (ofNodes n.named) := by
  rw [ofNode_ret h, openReturns_singleton, openReturnsOf]

theorem openReturns_spawn (h : n.label = .goStatement) :
    openReturns (ofNode n) = openReturns (ofNodes n.named) := by
  rw [ofNode_spawn h, openReturns_singleton, openReturnsOf]

/-- The returns of an if are open in all three parts of it. -/
theorem openReturns_cond (h : n.label = .ifStatement) :
    openReturns (ofNode n) = openReturns (ofNodes (n.statementsUnder .consequence))
      ++ (openReturns (ofNodes (n.namedUnder .initializer ++ n.namedUnder .condition))
        ++ openReturns (ofNodes (n.child? .alternative).toList)) := by
  rw [ofNode_cond h, openReturns_singleton, openReturnsOf]

end Outline

/-! ## What a visit leaves behind -/

/-- The lines of the returns that a stretch of a tree leaves open. A clause leaves none. -/
def Visit.openReturns : Visit → List Int
  | .node n => Outline.openReturns (Outline.ofNode n)
  | .nodes ns => Outline.openReturns (Outline.ofNodes ns)
  | .clauses _ _ => []

theorem Visit.openReturns_of_restores {n : Node} (h : n.label.restores) :
    (Visit.node n).openReturns = [] :=
  Outline.openReturns_of_restores h

theorem Visit.openReturns_cons (n : Node) (ns : List Node) :
    (Visit.nodes (n :: ns)).openReturns
      = (Visit.node n).openReturns ++ (Visit.nodes ns).openReturns := by
  simp only [openReturns, Outline.ofNodes_cons, Outline.openReturns_append]

namespace Visits

variable {ε : Type} {decode : List UInt8 → Except ε String}
variable {v : Visit} {w w' : Walk} {cs : List Change}

/-- **The last open return** is the return target behind a visit. -/
theorem returnTarget_eq (h : Visits decode v w cs w') :
    w'.scope.returnTarget = v.openReturns.getLast?.or w.scope.returnTarget := by
  induction h with
  | other label _ ih => rwa [Visit.openReturns, Outline.ofNode_other label]
  | prototype label => rw [Visit.openReturns_of_restores (Label.restores_of_function label)]; rfl
  | function label => rw [Visit.openReturns_of_restores (Label.restores_of_function label)]; rfl
  | @ret n w cs w' label _ ih =>
    rw [Walk.scope_enterReturn] at ih
    rw [ih, Visit.openReturns, Visit.openReturns, Outline.openReturns_ret label, List.getLast?_cons]
    cases (Outline.openReturns (Outline.ofNodes n.named)).getLast? <;> rfl
  | spawn label _ ih =>
    rw [ih, Visit.openReturns, Visit.openReturns, Outline.openReturns_spawn label]
    rfl
  | cond label _ _ _ ih₁ ih₂ ih₃ =>
    -- the target is handed on from part to part, the consequence first and then the header
    rw [Walk.scope_leaveCond] at ih₂
    rw [Walk.scope_enterCond] at ih₁
    rw [ih₃, ih₂, ih₁, Visit.openReturns, Outline.openReturns_cond label, List.getLast?_append,
      List.getLast?_append, Option.or_assoc, Option.or_assoc]
    rfl
  | loop label header body =>
    rw [Visit.openReturns_of_restores (Label.restores_of_loop label), scope_afterLoop header body]
    rfl
  | choice label header _ _ ih₂ =>
    rw [Visit.openReturns_of_restores (Label.restores_of_choice label)]
    exact ih₂.trans (by rw [Walk.scope_enterChoice, header.scope_aimAt]; rfl)
  | nil => rfl
  | cons _ _ ih₁ ih₂ =>
    rw [ih₂, ih₁, Visit.openReturns_cons, List.getLast?_append, Option.or_assoc]
  | noClause => rfl
  | clause _ _ _ ih₂ =>
    -- whatever the clause returns, the next one starts with the target that this one had
    rw [Walk.scope_leaveClause] at ih₂
    exact ih₂

/-- Open returns are registered. -/
theorem openReturns_registered (h : Visits decode v w cs w') :
    ∀ l ∈ v.openReturns, l ∈ registeredBy cs := by
  induction h with
  | other label _ ih => rwa [Visit.openReturns, Outline.ofNode_other label]
  | prototype label => simp [Visit.openReturns_of_restores (Label.restores_of_function label)]
  | function label => simp [Visit.openReturns_of_restores (Label.restores_of_function label)]
  | ret label _ ih =>
    intro l hl
    rw [Visit.openReturns, Outline.openReturns_ret label, List.mem_cons] at hl
    rcases hl with rfl | hl
    · simp [Walk.returnChanges]
    · simp [ih l hl]
  | spawn label _ ih =>
    intro l hl
    rw [Visit.openReturns, Outline.openReturns_spawn label] at hl
    simp [ih l hl]
  | cond label _ _ _ ih₁ ih₂ ih₃ =>
    intro l hl
    rw [Visit.openReturns, Outline.openReturns_cond label, List.mem_append, List.mem_append] at hl
    rcases hl with hl | hl | hl
    · simp [ih₁ l hl]
    · simp [ih₂ l hl]
    · simp [ih₃ l hl]
  | loop label => simp [Visit.openReturns_of_restores (Label.restores_of_loop label)]
  | choice label => simp [Visit.openReturns_of_restores (Label.restores_of_choice label)]
  | nil => simp [Visit.openReturns, Outline.openReturns]
  | cons _ _ ih₁ ih₂ =>
    intro l hl
    rw [Visit.openReturns_cons, List.mem_append] at hl
    rcases hl with hl | hl
    · simp [ih₁ l hl]
    · simp [ih₂ l hl]
  | noClause => simp [Visit.openReturns]
  | clause => simp [Visit.openReturns]

end Visits

/-! ## Open nodes -/

namespace Node

mutual

/-- A node and the nodes below it, without those inside a construct that restores the return
target. -/
def openNodes : Node → List Node
  | .mk head kids => .mk head kids :: if head.label.restores then [] else openNodesIn kids

/-- The open nodes of a row. -/
def openNodesIn : List Node → List Node
  | [] => []
  | n :: rest => n.openNodes ++ openNodesIn rest

end

theorem mem_openNodes_self (n : Node) : n ∈ n.openNodes := by
  obtain ⟨head, kids⟩ := n
  rw [openNodes]
  exact List.mem_cons_self

theorem mem_openNodesIn_of_mem {n : Node} : ∀ {ns : List Node}, n ∈ ns → n ∈ openNodesIn ns
  | m :: rest, h => by
    rw [openNodesIn, List.mem_append]
    rcases List.mem_cons.1 h with rfl | h
    · exact .inl (mem_openNodes_self n)
    · exact .inr (mem_openNodesIn_of_mem h)

mutual

/-- The children of an open node are open, unless the node restores the return target. -/
theorem openNodes_child : ∀ (root : Node) {n c : Node}, n ∈ root.openNodes →
    n.label.restores = false → c ∈ n.children → c ∈ root.openNodes
  | .mk head kids, n, c, hn, hlabel, hc => by
    rw [openNodes] at hn ⊢
    refine List.mem_cons_of_mem _ ?_
    rcases List.mem_cons.1 hn with rfl | hn
    · rw [if_neg (by rw [show head.label.restores = false from hlabel]; decide)]
      exact mem_openNodesIn_of_mem hc
    · split at hn
      · cases hn
      · rename_i hhead
        rw [if_neg hhead]
        exact openNodesIn_child kids hn hlabel hc

/-- What is below an open node that restores nothing is open. -/
theorem openNodesIn_child : ∀ (ns : List Node) {n c : Node}, n ∈ openNodesIn ns →
    n.label.restores = false → c ∈ n.children → c ∈ openNodesIn ns
  | [], n, c, hn, _, _ => by simp [openNodesIn] at hn
  | m :: rest, n, c, hn, hlabel, hc => by
    rw [openNodesIn, List.mem_append] at hn ⊢
    exact hn.imp (openNodes_child m · hlabel hc) (openNodesIn_child rest · hlabel hc)

end

mutual

/-- Open nodes are nodes. -/
theorem openNodes_subset : ∀ n : Node, n.openNodes ⊆ n.nodes
  | .mk head kids => by
    rw [openNodes, nodes]
    refine List.cons_subset_cons _ ?_
    split
    · exact List.nil_subset _
    · exact openNodesIn_subset kids

theorem openNodesIn_subset : ∀ ns : List Node, openNodesIn ns ⊆ nodesIn ns
  | [] => List.Subset.refl _
  | n :: rest => by
    rw [openNodesIn, nodesIn]
    exact List.append_subset.2 ⟨List.subset_append_of_subset_left _ (openNodes_subset n),
      List.subset_append_of_subset_right _ (openNodesIn_subset rest)⟩

end

/-- The parts of an open if that are not walked themselves, but only inside, are neither loops nor
switches, selects or declarations. -/
def PlainIfs (root : Node) : Prop :=
  ∀ n ∈ root.openNodes, n.label = .ifStatement →
    ∀ f ∈ [Field.consequence, .initializer, .condition],
      ∀ c ∈ n.child? f, c.label.restores = false

instance (root : Node) : Decidable root.PlainIfs := inferInstanceAs (Decidable (∀ n ∈ _, _))

section

variable {root n : Node}

theorem openNodes_named (hn : n ∈ root.openNodes) (hlabel : n.label.restores = false) :
    ∀ s ∈ n.named, s ∈ root.openNodes :=
  fun _ hs => openNodes_child root hn hlabel (List.mem_filter.1 hs).1

/-- The statements of the consequence of an open if are open. -/
theorem PlainIfs.consequence (hroot : root.PlainIfs) (hn : n ∈ root.openNodes)
    (hlabel : n.label = .ifStatement) :
    ∀ s ∈ n.statementsUnder .consequence, s ∈ root.openNodes := by
  intro s hs
  obtain ⟨c, hc, hs⟩ := mem_statementsUnder hs
  have hc' := openNodes_child root hn (by rw [hlabel]; rfl) (child?_mem hc)
  have hplain := hroot n hn hlabel .consequence (by simp) c hc
  rcases mem_statements hs with hs | ⟨l, hl, hlist, hs⟩
  · exact openNodes_child root hc' hplain hs
  · exact openNodes_child root (openNodes_child root hc' hplain hl) (by rw [hlist]; rfl) hs

/-- So is what its header holds. -/
theorem PlainIfs.header (hroot : root.PlainIfs) (hn : n ∈ root.openNodes)
    (hlabel : n.label = .ifStatement) :
    ∀ s ∈ n.namedUnder .initializer ++ n.namedUnder .condition, s ∈ root.openNodes := by
  have hunder : ∀ f ∈ [Field.consequence, .initializer, .condition], ∀ s ∈ n.namedUnder f,
      s ∈ root.openNodes := by
    intro f hf s hs
    obtain ⟨c, hc, hs⟩ := mem_namedUnder hs
    exact openNodes_child root (openNodes_child root hn (by rw [hlabel]; rfl) (child?_mem hc))
      (hroot n hn hlabel f hf c hc) hs
  intro s hs
  rcases List.mem_append.1 hs with hs | hs
  · exact hunder .initializer (by simp) s hs
  · exact hunder .condition (by simp) s hs

end

end Node

/-- The returns that a visit to open nodes leaves open are open nodes themselves. -/
theorem Visits.openReturns_openNodes {ε : Type} {decode : List UInt8 → Except ε String} {v : Visit}
    {w w' : Walk} {cs : List Change} {root : Node} (hroot : root.PlainIfs)
    (h : Visits decode v w cs w') :
    v.All (· ∈ root.openNodes) → ∀ l ∈ v.openReturns,
      ∃ r ∈ root.openNodes, r.label = .returnStatement ∧ r.startLine = l := by
  induction h with
  | other label _ ih =>
    intro hn
    rw [Visit.openReturns, Outline.ofNode_other label]
    exact ih (Node.openNodes_named hn (Label.restores_of_not_construct label))
  | prototype label => simp [Visit.openReturns_of_restores (Label.restores_of_function label)]
  | function label => simp [Visit.openReturns_of_restores (Label.restores_of_function label)]
  | @ret n _ _ _ label _ ih =>
    intro hn l hl
    rw [Visit.openReturns, Outline.openReturns_ret label, List.mem_cons] at hl
    rcases hl with rfl | hl
    · exact ⟨n, hn, label, rfl⟩
    · exact ih (Node.openNodes_named hn (by rw [label]; rfl)) l hl
  | spawn label _ ih =>
    intro hn
    rw [Visit.openReturns, Outline.openReturns_spawn label]
    exact ih (Node.openNodes_named hn (by rw [label]; rfl))
  | cond label _ _ _ ih₁ ih₂ ih₃ =>
    intro hn l hl
    rw [Visit.openReturns, Outline.openReturns_cond label, List.mem_append, List.mem_append] at hl
    rcases hl with hl | hl | hl
    · exact ih₁ (hroot.consequence hn label) l hl
    · exact ih₂ (hroot.header hn label) l hl
    · refine ih₃ (fun a ha => ?_) l hl
      exact Node.openNodes_child root hn (by rw [label]; rfl)
        (Node.child?_mem (Option.mem_toList.1 ha))
  -- declarations, loops, switches and selects leave nothing open
  | loop label => simp [Visit.openReturns_of_restores (Label.restores_of_loop label)]
  | choice label => simp [Visit.openReturns_of_restores (Label.restores_of_choice label)]
  | nil => simp [Visit.openReturns, Outline.openReturns]
  | cons _ _ ih₁ ih₂ =>
    intro hns l hl
    rw [Visit.openReturns_cons, List.mem_append] at hl
    rcases hl with hl | hl
    · exact ih₁ (hns _ List.mem_cons_self) l hl
    · exact ih₂ (fun n hn => hns n (List.mem_cons_of_mem _ hn)) l hl
  | noClause => simp [Visit.openReturns]
  | clause => simp [Visit.openReturns]

/-- **Back-references are scoped.** A walk over a node leaves the scope as it was, but for the
return target, which is the last return that the walk came to outside the loops, switches, selects
and declarations of the node, or else what it was. Each such return has a block on its line. -/
theorem scope_of_items {ε : Type} {decode : List UInt8 → Except ε String} {n : Node} {w w' : Walk}
    (h : Walk.items decode (Outline.ofNode n) w = .ok w') :
    w'.scope = { w.scope with
      returnTarget := (Outline.openReturns (Outline.ofNode n)).getLast?.or w.scope.returnTarget } ∧
    (n.label.restores → w'.scope = w.scope) ∧
    (∀ l ∈ Outline.openReturns (Outline.ofNode n), w'.graph.contains l) ∧
    (n.PlainIfs → ∀ l ∈ Outline.openReturns (Outline.ofNode n),
      ∃ r ∈ n.openNodes, r.label = .returnStatement ∧ r.startLine = l) := by
  obtain ⟨cs, hcs⟩ := Visits.exists_node n h
  have hscope := hcs.scope_eq
  rw [hcs.returnTarget_eq] at hscope
  refine ⟨hscope, fun hn => ?_, fun l hl => ?_, fun hn => ?_⟩
  · rw [hscope, Visit.openReturns_of_restores hn]
    rfl
  · rw [hcs.graph_eq]
    exact (Graph.contains_replay cs l w.graph).2 (.inr (hcs.openReturns_registered l hl))
  · exact hcs.openReturns_openNodes hn (Node.mem_openNodes_self n)

/-- An if with a return in a function literal of its header, and with a return, a loop and a switch
that return in its branches. -/
def earlyExit : Node :=
  .mk { label := .ifStatement, span := { startRow := 0, endRow := 9 } } [
    .mk { label := .other "short_var_declaration", field := some .initializer } [
      .mk { label := .other "func_literal" } [
        .mk { label := .block } [
          .mk { label := .returnStatement, span := { startRow := 1, endRow := 1 } } []]]],
    .mk { label := .block, field := some .consequence } [
      .mk { label := .returnStatement, span := { startRow := 3, endRow := 3 } } [],
      .mk { label := .forStatement, span := { startRow := 4, endRow := 6 } } [
        .mk { label := .block, field := some .body } [
          .mk { label := .returnStatement, span := { startRow := 5, endRow := 5 } } []]]],
    .mk { label := .block, field := some .alternative } [
      .mk { label := .expressionSwitch, span := { startRow := 7, endRow := 9 } } [
        .mk { label := .defaultCase, span := { startRow := 8, endRow := 8 } } [
          .mk { label := .colon, named := false } [],
          .mk { label := .returnStatement, span := { startRow := 8, endRow := 8 } } []]]]]

/-- The header is walked behind the consequence, so its return is the last one. -/
theorem scope_of_items_earlyExit :
    earlyExit.PlainIfs ∧
      ∃ w', Walk.items (fun _ => (.ok "" : Except Empty String)) (Outline.ofNode earlyExit)
          { scope := { function := "f", functionEnd := some 12, returnTarget := some 12,
                       loopHeader := some 1, switchHeader := some 1 } } = .ok w' ∧
        w'.scope = { function := "f", functionEnd := some 12, returnTarget := some 2,
                     loopHeader := some 1, switchHeader := some 1 } ∧
        ∃ r ∈ earlyExit.openNodes, r.label = .returnStatement ∧ r.startLine = 2 := by
  have hplain : earlyExit.PlainIfs := by decide
  refine ⟨hplain, _, rfl, ?_⟩
  obtain ⟨hscope, -, -, hreturns⟩ := @scope_of_items Empty (fun _ => .ok "") earlyExit _ _ rfl
  exact ⟨hscope, hreturns hplain 2 (by decide)⟩

/-- An if with a loop for its consequence, as no front end makes it. -/
def loopAsConsequence : Node :=
  .mk { label := .ifStatement, span := { startRow := 1, endRow := 3 } } [
    .mk { label := .forStatement, span := { startRow := 1, endRow := 3 },
          field := some .consequence } [
      .mk { label := .returnStatement, span := { startRow := 2, endRow := 2 } } []]]

/-- There the return of the loop stays the return target. -/
theorem returnTarget_loopAsConsequence :
    (∀ r ∈ loopAsConsequence.openNodes, r.label ≠ .returnStatement) ∧
      ∃ w', Walk.items (fun _ => (.ok "" : Except Empty String)) (Outline.ofNode loopAsConsequence)
          { scope := { functionEnd := some 9, returnTarget := some 9 } } = .ok w' ∧
        w'.scope.returnTarget = some 3 :=
  ⟨by decide, _, rfl, rfl⟩

end GoFlow
