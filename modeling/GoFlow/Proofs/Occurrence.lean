import GoFlow.Proofs.Outline

/-!
# Where statements stand

Which function and which loop a statement belongs to is a matter of the tree alone: the nearest
declaration whose body holds the statement, and the nearest loop of that declaration whose body
does.

- `Context`: function and loop around a node.
- `Node.occurrences`: all nodes of a tree, each with its context.
- `Node.Placed`: the trees in which a walk meets every node in its own context. Statements stand
  inside functions, and no declaration or loop serves as the body of something else.
-/

namespace GoFlow

/-- The constructs around a node that its edges may lead to. -/
structure Context where
  /-- The nearest function or method declaration whose body holds the node. -/
  function : Option Node := none
  /-- The nearest loop of that declaration whose body holds the node. -/
  loop : Option Node := none

/-- Whether a body of this rule is a context of its own. -/
def Label.opens (l : Label) : Bool := l.isFunction || l == .forStatement

/-- The context of the body of a node. -/
def Context.inside (ctx : Context) (n : Node) : Context :=
  if n.label.isFunction then { function := some n }
  else if n.label = .forStatement then { ctx with loop := some n }
  else ctx

theorem Context.inside_eq {ctx : Context} {n : Node} (h : n.label.opens = false) :
    ctx.inside n = ctx := by
  simp only [Label.opens, Bool.or_eq_false_iff, beq_eq_false_iff_ne] at h
  simp [inside, h.1, h.2]

namespace Node

mutual

/-- A node in its context, and all nodes below it, each in its own. -/
def occurrencesFrom (ctx : Context) : Node → List (Context × Node)
  | .mk head kids =>
    (ctx, .mk head kids) :: occurrencesIn ctx (some (ctx.inside (.mk head kids))) kids

/-- The nodes of a row. The first child held as the body, unless it was passed already, is in the
context of the body. -/
def occurrencesIn (ctx : Context) : Option Context → List Node → List (Context × Node)
  | _, [] => []
  | none, n :: rest => n.occurrencesFrom ctx ++ occurrencesIn ctx none rest
  | some body, n :: rest =>
    if n.head.field == some .body then n.occurrencesFrom body ++ occurrencesIn ctx none rest
    else n.occurrencesFrom ctx ++ occurrencesIn ctx (some body) rest

end

/-- All nodes of a tree in their contexts. -/
def occurrences (root : Node) : List (Context × Node) := root.occurrencesFrom {}

theorem mem_occurrencesFrom_self (ctx : Context) (n : Node) : (ctx, n) ∈ n.occurrencesFrom ctx := by
  obtain ⟨head, kids⟩ := n
  rw [occurrencesFrom]
  exact List.mem_cons_self

mutual

/-- What occurs below an occurrence occurs in the tree. -/
theorem occurrencesFrom_trans (ctx : Context) :
    ∀ (n : Node) {o p : Context × Node}, o ∈ n.occurrencesFrom ctx →
      p ∈ o.2.occurrencesFrom o.1 → p ∈ n.occurrencesFrom ctx
  | .mk head kids, o, p, ho, hp => by
    rw [occurrencesFrom] at ho
    rcases List.mem_cons.1 ho with rfl | ho
    · exact hp
    · rw [occurrencesFrom]
      exact List.mem_cons_of_mem _ (occurrencesIn_trans ctx _ kids ho hp)

theorem occurrencesIn_trans (ctx : Context) :
    ∀ (body : Option Context) (ns : List Node) {o p : Context × Node},
      o ∈ occurrencesIn ctx body ns → p ∈ o.2.occurrencesFrom o.1 → p ∈ occurrencesIn ctx body ns
  | _, [], o, p, ho, hp => by simp [occurrencesIn] at ho
  | none, n :: rest, o, p, ho, hp => by
    rw [occurrencesIn, List.mem_append] at ho ⊢
    exact ho.imp (occurrencesFrom_trans ctx n · hp) (occurrencesIn_trans ctx none rest · hp)
  | some body, n :: rest, o, p, ho, hp => by
    rw [occurrencesIn] at ho ⊢
    split at ho
    · rename_i hbody
      rw [if_pos hbody, List.mem_append]
      rw [List.mem_append] at ho
      exact ho.imp (occurrencesFrom_trans body n · hp) (occurrencesIn_trans ctx none rest · hp)
    · rename_i hbody
      rw [if_neg hbody, List.mem_append]
      rw [List.mem_append] at ho
      exact ho.imp (occurrencesFrom_trans ctx n · hp)
        (occurrencesIn_trans ctx (some body) rest · hp)

end

theorem mem_occurrencesIn_none {ctx : Context} {c : Node} :
    ∀ {ns : List Node}, c ∈ ns → (ctx, c) ∈ occurrencesIn ctx none ns
  | n :: rest, h => by
    rw [occurrencesIn, List.mem_append]
    rcases List.mem_cons.1 h with rfl | h
    · exact .inl (mem_occurrencesFrom_self ctx c)
    · exact .inr (mem_occurrencesIn_none h)

/-- The body is in its context, and every other node of the row in that of the row. -/
theorem mem_occurrencesIn {ctx body : Context} {c : Node} :
    ∀ {ns : List Node}, c ∈ ns →
      (ns.find? (·.head.field == some .body) = some c →
        (body, c) ∈ occurrencesIn ctx (some body) ns) ∧
      (ns.find? (·.head.field == some .body) ≠ some c →
        (ctx, c) ∈ occurrencesIn ctx (some body) ns)
  | n :: rest, h => by
    rw [occurrencesIn, List.find?_cons]
    by_cases hn : n.head.field == some .body
    · simp only [hn, if_true, List.mem_append]
      constructor
      · intro hc
        cases hc
        exact .inl (mem_occurrencesFrom_self body c)
      · intro hc
        have hrest : c ∈ rest := (List.mem_cons.1 h).resolve_left fun hcn => hc (by rw [hcn])
        exact .inr (mem_occurrencesIn_none hrest)
    · rw [if_neg hn]
      simp only [Bool.not_eq_true] at hn
      simp only [hn, List.mem_append]
      rcases List.mem_cons.1 h with rfl | h
      · refine ⟨fun hc => ?_, fun _ => .inl (mem_occurrencesFrom_self ctx c)⟩
        have := List.find?_some hc
        simp [hn] at this
      · obtain ⟨hbody, hother⟩ := mem_occurrencesIn h
        exact ⟨fun hc => .inr (hbody hc), fun hc => .inr (hother hc)⟩

section

variable {root n c : Node} {ctx : Context}

theorem occurrences_of_below (h : (ctx, n) ∈ root.occurrences) {o : Context × Node}
    (ho : o ∈ n.occurrencesFrom ctx) : o ∈ root.occurrences :=
  occurrencesFrom_trans {} root h ho

/-- The body of a node occurs in the context that the node makes for it. -/
theorem occurrences_body (h : (ctx, n) ∈ root.occurrences) (hc : n.child? .body = some c) :
    (ctx.inside n, c) ∈ root.occurrences := by
  refine occurrences_of_below h ?_
  obtain ⟨head, kids⟩ := n
  rw [occurrencesFrom]
  exact List.mem_cons_of_mem _ ((mem_occurrencesIn (child?_mem hc)).1 hc)

/-- Any other child occurs in the context of the node. -/
theorem occurrences_child (h : (ctx, n) ∈ root.occurrences) (hc : c ∈ n.children)
    (hbody : n.child? .body ≠ some c) : (ctx, c) ∈ root.occurrences := by
  refine occurrences_of_below h ?_
  obtain ⟨head, kids⟩ := n
  rw [occurrencesFrom]
  exact List.mem_cons_of_mem _ ((mem_occurrencesIn hc).2 hbody)

/-- So does every child of a node that opens no context. -/
theorem occurrences_plain (h : (ctx, n) ∈ root.occurrences) (hn : n.label.opens = false)
    (hc : c ∈ n.children) : (ctx, c) ∈ root.occurrences := by
  by_cases hbody : n.child? .body = some c
  · have := occurrences_body h hbody
    rwa [Context.inside_eq hn] at this
  · exact occurrences_child h hc hbody

/-- The statements of a block, or of a clause, occur in its context. -/
theorem occurrences_listed (h : (ctx, n) ∈ root.occurrences) (hn : n.label.opens = false) {s : Node}
    (hs : s ∈ n.children ∨ ∃ c ∈ n.children, c.label = .statementList ∧ s ∈ c.children) :
    (ctx, s) ∈ root.occurrences := by
  rcases hs with hs | ⟨c, hc, hlabel, hs⟩
  · exact occurrences_plain h hn hs
  · exact occurrences_plain (occurrences_plain h hn hc) (by rw [hlabel]; rfl) hs

end

/-- Every statement that the walk reacts to lies inside the body of a declaration, and the body of
a loop is a block. -/
structure InFunctions (root : Node) : Prop where
  inFunction : ∀ o ∈ root.occurrences, o.2.label.isConstruct → o.2.label.isFunction = false →
    o.1.function.isSome
  loopBody : ∀ o ∈ root.occurrences, o.2.label = .forStatement →
    ∀ c ∈ o.2.child? .body, c.label = .block

/-- The parts whose statements are walked, but which are not walked themselves, are neither
declarations nor loops: the root, the bodies of functions, and the parts of an if. -/
structure Placed (root : Node) : Prop extends InFunctions root where
  root_plain : root.label.isFunction = false
  functionBody : ∀ o ∈ root.occurrences, o.2.label.isFunction →
    ∀ c ∈ o.2.child? .body, c.label.opens = false
  ifPart : ∀ o ∈ root.occurrences, o.2.label = .ifStatement →
    ∀ f ∈ [Field.consequence, .initializer, .condition],
      ∀ c ∈ o.2.child? f, c.label.opens = false

end Node

end GoFlow
