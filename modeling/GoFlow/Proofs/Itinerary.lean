import GoFlow.Proofs.Descent

/-!
# The order of a walk

A walk comes to the nodes of a tree in an order that the tree alone decides. It is not quite the
order of the source: the consequence of an if comes before its header. The walk ends early at the
first declaration whose name cannot be decoded, and nowhere else.

- `Node.onward`: the nodes that the walk goes on to from a node.
- `Node.itinerary`: all nodes that it comes to from there, in order. `Node.route` is the way of a
  whole build.
- `cause?_build`: a build fails with the first fault among the names of the declarations on its way,
  and only with that.
-/

namespace GoFlow

namespace Node

/-- What the walk goes on to from a node, in the order of the walk. -/
def onward (n : Node) : List Node :=
  if n.label.isFunction then n.statementsUnder .body
  else if n.label = .ifStatement then
    n.statementsUnder .consequence ++ (n.namedUnder .initializer ++ n.namedUnder .condition)
      ++ (n.child? .alternative).toList
  else if n.label = .forStatement then n.headerParts ++ n.statementsUnder .body
  else if n.label.choice?.isSome then n.headerParts ++ n.clauses.flatMap clauseBody
  else n.named

section

variable {n : Node}

theorem onward_function (label : n.label.isFunction) : n.onward = n.statementsUnder .body := by
  rw [onward, if_pos label]

theorem onward_cond (label : n.label = .ifStatement) :
    n.onward = n.statementsUnder .consequence
      ++ (n.namedUnder .initializer ++ n.namedUnder .condition)
      ++ (n.child? .alternative).toList := by
  simp [onward, label, Label.isFunction]

theorem onward_loop (label : n.label = .forStatement) :
    n.onward = n.headerParts ++ n.statementsUnder .body := by
  simp [onward, label, Label.isFunction]

theorem onward_choice {form : Choice} (label : n.label.choice? = some form) :
    n.onward = n.headerParts ++ n.clauses.flatMap clauseBody := by
  cases hl : n.label <;> simp_all [onward, Label.choice?, Label.isFunction]

/-- All other nodes pass the walk on to their named children. -/
theorem onward_other (label : n.label.isConstruct = false ∨ n.label = .returnStatement ∨
    n.label = .goStatement) : n.onward = n.named := by
  cases hl : n.label <;>
    simp_all [onward, Label.isConstruct, Label.choice?, Label.isFunction]

/-- The walk goes on to each of the three parts of an if. -/
theorem cond_subset_onward (label : n.label = .ifStatement) :
    n.statementsUnder .consequence ⊆ n.onward ∧
      n.namedUnder .initializer ++ n.namedUnder .condition ⊆ n.onward ∧
      (n.child? .alternative).toList ⊆ n.onward := by
  rw [onward_cond label]
  refine ⟨fun s hs => ?_, fun s hs => ?_, fun s hs => ?_⟩
  · exact List.mem_append_left _ (List.mem_append_left _ hs)
  · exact List.mem_append_left _ (List.mem_append_right _ hs)
  · exact List.mem_append_right _ hs

theorem loop_subset_onward (label : n.label = .forStatement) :
    n.headerParts ⊆ n.onward ∧ n.statementsUnder .body ⊆ n.onward := by
  rw [onward_loop label]
  exact ⟨List.subset_append_left _ _, List.subset_append_right _ _⟩

/-- It goes on to the header and to every clause of a switch or select. -/
theorem choice_subset_onward {form : Choice} (label : n.label.choice? = some form) :
    n.headerParts ⊆ n.onward ∧ ∀ k ∈ n.clauses, k.clauseBody ⊆ n.onward := by
  rw [onward_choice label]
  refine ⟨List.subset_append_left _ _, fun k hk s hs => ?_⟩
  exact List.mem_append_right _ (List.mem_flatMap.2 ⟨k, hk, hs⟩)

end

/-- The walk goes down only. -/
theorem mem_nodesIn_of_mem_onward {n c : Node} (h : c ∈ n.onward) : c ∈ nodesIn n.children := by
  have hbelow := hereditary_nodesIn n.children
  have hchild : ∀ {p}, c ∈ n.children.filter p → c ∈ nodesIn n.children :=
    fun h => mem_nodesIn_of_mem (List.mem_filter.1 h).1
  have hunder : ∀ {f}, c ∈ n.statementsUnder f → c ∈ nodesIn n.children := by
    intro f h
    obtain ⟨b, hb, h⟩ := mem_statementsUnder h
    exact hbelow.statements (mem_nodesIn_of_mem (child?_mem hb)) c h
  have hheader : ∀ {f}, c ∈ n.namedUnder f → c ∈ nodesIn n.children := by
    intro f h
    obtain ⟨b, hb, h⟩ := mem_namedUnder h
    exact hbelow b (mem_nodesIn_of_mem (child?_mem hb)) c h
  unfold onward at h
  split at h
  · exact hunder h
  split at h
  · simp only [List.mem_append] at h
    rcases h with (h | h | h) | h
    · exact hunder h
    · exact hheader h
    · exact hheader h
    · exact mem_nodesIn_of_mem (child?_mem (Option.mem_toList.1 h))
  split at h
  · exact (List.mem_append.1 h).elim hchild hunder
  split at h
  · rcases List.mem_append.1 h with h | h
    · exact hchild h
    · obtain ⟨k, hk, h⟩ := List.mem_flatMap.1 h
      exact hbelow.listed (mem_nodesIn_of_mem (List.mem_filter.1 hk).1) (mem_clauseBody h)
  · exact hchild h

/-- What the walk goes on to is smaller, so that the way of a walk is well-founded. -/
theorem sizeOf_lt_of_mem_onward {n c : Node} (h : c ∈ n.onward) : sizeOf c < sizeOf n := by
  have hsmaller : Hereditary (sizeOf · < sizeOf n) :=
    fun m hm c hc => Nat.lt_trans (sizeOf_lt_of_mem hc) hm
  exact hsmaller.nodesIn (fun c hc => sizeOf_lt_of_mem hc) (mem_nodesIn_of_mem_onward h)

/-- A node and all nodes that the walk comes to from it, in the order of the walk. -/
def itinerary (n : Node) : List Node :=
  n :: n.onward.attach.flatMap fun c => c.1.itinerary
termination_by sizeOf n
decreasing_by exact sizeOf_lt_of_mem_onward c.2

/-- The way of a walk: the node itself, and then what it goes on to. -/
theorem itinerary_eq (n : Node) : n.itinerary = n :: n.onward.flatMap itinerary := by
  rw [itinerary]
  simp

/-- The nodes that a build of a tree comes to, in order. -/
def route (root : Node) : List Node := root.named.flatMap itinerary

end Node

section

variable {ε : Type} (decode : List UInt8 → Except ε String)

/-- The node is a declaration, and the text of its name cannot be decoded for the reason `e`. -/
def Node.Undecodable (n : Node) (e : ε) : Prop :=
  n.label.isFunction ∧ ∃ name text, n.child? .name = some name ∧ name.head.text = some text ∧
    decode text = .error e

/-- Why the name of a node cannot be decoded, if it is a declaration of that sort. -/
def Node.nameFault? (n : Node) : Option ε :=
  if n.label.isFunction then
    (Outline.nameText n).bind fun text =>
      match decode text with
      | .ok _ => none
      | .error e => some e
  else none

variable {decode}

/-- A name is at fault exactly if it cannot be decoded. -/
theorem Node.nameFault?_eq_some {n : Node} {e : ε} :
    n.nameFault? decode = some e ↔ n.Undecodable decode e := by
  unfold Node.nameFault? Node.Undecodable Outline.nameText
  by_cases hlabel : n.label.isFunction
  · rw [if_pos hlabel]
    cases hname : n.child? .name with
    | none => simp
    | some name =>
      cases htext : name.head.text with
      | none => simp [htext]
      | some text => cases hdecode : decode text <;> simp [hlabel, htext, hdecode]
  · simp [hlabel]

theorem Node.nameFault?_eq_none {n : Node} :
    n.nameFault? decode = none ↔ ∀ e, ¬ n.Undecodable decode e := by
  rw [Option.eq_none_iff_forall_ne_some]
  exact forall_congr' fun e => not_congr Node.nameFault?_eq_some

end

/-! ## Where the walk ends -/

/-- Why a walk stopped, if it did. -/
def cause? {ε α : Type} : Except (Stopped ε) α → Option ε
  | .ok _ => none
  | .error s => some s.cause

/-- What comes second stops the walk only if what comes first did not. -/
theorem cause?_bind {ε α β : Type} {x : Except (Stopped ε) α} {f : α → Except (Stopped ε) β}
    {c d : Option ε} (hx : cause? x = c) (hf : ∀ a, cause? (f a) = d) :
    cause? (x >>= f) = c.or d := by
  subst hx
  cases x with
  | error s => rfl
  | ok a => exact hf a

/-- What is done behind a walk without failing does not change why it stopped. -/
theorem cause?_bind_ok {ε α β : Type} {x : Except (Stopped ε) α} {f : α → β} {c : Option ε}
    (hx : cause? x = c) : cause? (x >>= fun a => .ok (f a)) = c := by
  have hor := cause?_bind (f := fun a => .ok (f a)) hx fun a => rfl
  rwa [Option.or_none] at hor

section

variable {ε : Type} (decode : List UInt8 → Except ε String)

/-- The first fault among the names of the declarations that a walk over the row comes to. -/
def firstFault? (ns : List Node) : Option ε :=
  (ns.flatMap Node.itinerary).findSome? (Node.nameFault? decode)

variable {decode}

/-- In two rows, the first fault is that of the first row if it has one. -/
theorem firstFault?_append (ns ms : List Node) :
    firstFault? decode (ns ++ ms) = (firstFault? decode ns).or (firstFault? decode ms) := by
  rw [firstFault?, List.flatMap_append, List.findSome?_append]
  rfl

/-- A node comes before all that the walk goes on to from it. -/
theorem firstFault?_singleton (n : Node) :
    firstFault? decode [n] = (n.nameFault? decode).or (firstFault? decode n.onward) := by
  rw [firstFault?, List.flatMap_singleton, Node.itinerary_eq, List.findSome?_cons]
  cases n.nameFault? decode <;> rfl

/-- Only declarations have names. -/
theorem firstFault?_plain {n : Node} (h : n.label.isFunction = false) :
    firstFault? decode [n] = firstFault? decode n.onward := by
  rw [firstFault?_singleton, Node.nameFault?, if_neg (by simp [h]), Option.none_or]

/-- A declaration stops the walk if its name is at fault. -/
theorem cause?_decodeName {n : Node} (h : n.label.isFunction) (w : Walk) :
    cause? (Walk.decodeName decode w (Outline.nameText n)) = n.nameFault? decode := by
  rw [Node.nameFault?, if_pos h]
  cases Outline.nameText n with
  | none => rfl
  | some text =>
    rw [Walk.decodeName, Option.bind_some]
    cases decode text <;> rfl

/-- If every node of a row stops the walk at its first fault, so does the row. -/
theorem cause?_nodes {ns : List Node}
    (hns : ∀ n ∈ ns, ∀ w,
      cause? (Walk.items decode (Outline.ofNode n) w) = firstFault? decode [n]) :
    ∀ w, cause? (Walk.items decode (Outline.ofNodes ns) w) = firstFault? decode ns := by
  induction ns with
  | nil =>
    intro w
    rw [Outline.ofNodes_nil, Walk.items]
    rfl
  | cons n ns ih =>
    intro w
    rw [Outline.ofNodes_cons, items_append, ← List.singleton_append, firstFault?_append]
    exact cause?_bind (hns n List.mem_cons_self w)
      (ih fun m hm => hns m (List.mem_cons_of_mem n hm))

/-- So do the clauses of a switch or select. -/
theorem cause?_clauses {form : Choice} {ks : List Node}
    (hks : ∀ k ∈ ks, ∀ w, cause? (Walk.items decode (Outline.ofNodes k.clauseBody) w)
      = firstFault? decode k.clauseBody) :
    ∀ w, cause? (Walk.clauses decode (ks.map (Outline.ofClause form)) w)
      = firstFault? decode (ks.flatMap Node.clauseBody) := by
  induction ks with
  | nil =>
    intro w
    rw [List.map_nil, Walk.clauses]
    rfl
  | cons k ks ih =>
    intro w
    rw [List.map_cons, Outline.ofClause, Walk.clauses, List.flatMap_cons, firstFault?_append]
    exact cause?_bind (hks k List.mem_cons_self _)
      fun w₁ => ih (fun j hj => hks j (List.mem_cons_of_mem k hj)) _

section

-- what is said of a node holds of all that the walk goes on to from it
variable {n : Node} (h : ∀ c ∈ n.onward, ∀ w,
  cause? (Walk.items decode (Outline.ofNode c) w) = firstFault? decode [c]) (w : Walk)

include h

/-- By induction, what the walk goes on to stops it at the first fault. -/
theorem cause?_row {ns : List Node} (hns : ns ⊆ n.onward) :
    cause? (Walk.items decode (Outline.ofNodes ns) w) = firstFault? decode ns :=
  cause?_nodes (fun c hc => h c (hns hc)) w

theorem cause?_onward :
    cause? (Walk.items decode (Outline.ofNodes n.onward) w) = firstFault? decode n.onward :=
  cause?_row h w (List.Subset.refl _)

/-- **A declaration** reads its name before it walks its body. -/
theorem cause?_function (label : n.label.isFunction) :
    cause? (Walk.items decode (Outline.ofNode n) w) = firstFault? decode [n] := by
  rw [firstFault?_singleton]
  cases hbody : n.child? .body with
  | none =>
    have honward : n.onward = [] := by
      rw [Node.onward_function label, Node.statementsUnder, hbody, Node.statementsOf_none]
    rw [Outline.ofNode_prototype label hbody, items_singleton, Walk.item, honward]
    exact cause?_bind (cause?_decodeName label w) fun _ => rfl
  | some body =>
    have honward : n.onward = body.statements := by
      rw [Node.onward_function label, Node.statementsUnder, hbody, Node.statementsOf_some]
    rw [Outline.ofNode_function label hbody, items_singleton, Walk.item, ← honward]
    exact cause?_bind (cause?_decodeName label w) fun name => cause?_bind_ok (cause?_onward h _)

/-- **An if** is walked from its consequence to its header to its alternative. -/
theorem cause?_cond (label : n.label = .ifStatement) :
    cause? (Walk.items decode (Outline.ofNode n) w) = firstFault? decode [n] := by
  obtain ⟨hconsequence, hheader, halternative⟩ := Node.cond_subset_onward label
  rw [Outline.ofNode_cond label, items_singleton, Walk.item, firstFault?_plain (by rw [label]; rfl),
    Node.onward_cond label, List.append_assoc, firstFault?_append,
    firstFault?_append _ (n.child? _).toList]
  exact cause?_bind (cause?_row h _ hconsequence) fun w₁ =>
    cause?_bind (cause?_row h _ hheader) fun w₂ => cause?_row h _ halternative

/-- **A loop** is walked from its header to its body. -/
theorem cause?_loop (label : n.label = .forStatement) :
    cause? (Walk.items decode (Outline.ofNode n) w) = firstFault? decode [n] := by
  obtain ⟨hheader, hbody⟩ := Node.loop_subset_onward label
  rw [Outline.ofNode_loop label, items_singleton, Walk.item, firstFault?_plain (by rw [label]; rfl),
    Node.onward_loop label, firstFault?_append]
  exact cause?_bind (cause?_row h _ hheader) fun w₁ => cause?_bind_ok (cause?_row h _ hbody)

/-- **A switch or select** is walked from its header to its clauses. -/
theorem cause?_choice {form : Choice} (label : n.label.choice? = some form) :
    cause? (Walk.items decode (Outline.ofNode n) w) = firstFault? decode [n] := by
  obtain ⟨hheader, hclauses⟩ := Node.choice_subset_onward label
  rw [Outline.ofNode_choice label, items_singleton, Walk.item,
    firstFault?_plain (Label.isFunction_of_choice label), Node.onward_choice label,
    firstFault?_append]
  exact cause?_bind (cause?_row h _ hheader) fun w₁ =>
    cause?_bind_ok (cause?_clauses (fun k hk w => cause?_row h w (hclauses k hk)) _)

end

/-- By induction on the size of the node: what the walk goes on to is smaller. -/
theorem cause?_node (n : Node) :
    ∀ w, cause? (Walk.items decode (Outline.ofNode n) w) = firstFault? decode [n] := by
  induction hsize : sizeOf n using Nat.strongRecOn generalizing n with
  | ind _ ih =>
    subst hsize
    intro w
    have h : ∀ c ∈ n.onward, ∀ w,
        cause? (Walk.items decode (Outline.ofNode c) w) = firstFault? decode [c] :=
      fun c hc => ih _ (Node.sizeOf_lt_of_mem_onward hc) c rfl
    rcases n.label.construct_cases with
      label | label | label | label | label | label | ⟨form, label⟩
    · rw [Outline.ofNode_other label,
        firstFault?_plain (Label.isFunction_of_not_construct label),
        ← Node.onward_other (.inl label)]
      exact cause?_onward h w
    · exact cause?_function h w label
    · rw [Outline.ofNode_ret label, items_singleton, Walk.item,
        firstFault?_plain (by rw [label]; rfl), ← Node.onward_other (.inr (.inl label))]
      exact cause?_onward h _
    · rw [Outline.ofNode_spawn label, items_singleton, Walk.item,
        firstFault?_plain (by rw [label]; rfl), ← Node.onward_other (.inr (.inr label))]
      exact cause?_onward h _
    · exact cause?_cond h w label
    · exact cause?_loop h w label
    · exact cause?_choice h w label

/-- **Where a build fails**: at the first declaration on its way whose name cannot be decoded. -/
theorem cause?_build (root : Node) (start : Graph) :
    cause? (build decode root start) = root.route.findSome? (Node.nameFault? decode) := by
  have hinside : Outline.inside root.children = Outline.ofNodes root.named :=
    Outline.inside_eq root.children
  rw [build, hinside]
  exact cause?_bind_ok (cause?_nodes (fun n _ => cause?_node n) _)

end

end GoFlow
