import GoFlow.Proofs.Visits

/-!
# Down the tree

From a node, a visit goes on to nodes below it. Whatever the nodes of a tree hand on to their
children, then, holds of all the nodes that a visit comes to.

- `Hereditary`: a property that nodes hand on to their children, and so to each row that a rule of
  `Visits` goes on to.
- `Visit.Below`: a visit goes to nodes below those of another.
- `Node.nodes`: all nodes of a tree.
-/

namespace GoFlow

/-- Nodes hand the property on to their children. -/
def Hereditary (P : Node → Prop) : Prop := ∀ n, P n → ∀ c ∈ n.children, P c

namespace Hereditary

variable {P : Node → Prop} {n : Node}

/-- A hereditary property passes to the children of a node, and to those of its statement lists. -/
theorem listed (hP : Hereditary P) (hn : P n) {s : Node}
    (hs : s ∈ n.children ∨ ∃ c ∈ n.children, c.label = .statementList ∧ s ∈ c.children) : P s := by
  rcases hs with hs | ⟨c, hc, -, hs⟩
  · exact hP n hn s hs
  · exact hP c (hP n hn c hc) s hs

theorem named (hP : Hereditary P) (hn : P n) : ∀ s ∈ n.named, P s :=
  fun s hs => hP n hn s (List.mem_filter.1 hs).1

theorem headerParts (hP : Hereditary P) (hn : P n) : ∀ s ∈ n.headerParts, P s :=
  fun s hs => hP n hn s (List.mem_filter.1 hs).1

theorem child? (hP : Hereditary P) (hn : P n) (f : Field) : ∀ s ∈ (n.child? f).toList, P s :=
  fun s hs => hP n hn s (Node.child?_mem (Option.mem_toList.1 hs))

/-- It passes to the statements, whether or not a list holds them. -/
theorem statements (hP : Hereditary P) (hn : P n) : ∀ s ∈ n.statements, P s :=
  fun _ hs => hP.listed hn (Node.mem_statements hs)

theorem statementsUnder (hP : Hereditary P) (hn : P n) (f : Field) :
    ∀ s ∈ n.statementsUnder f, P s := by
  intro s hs
  obtain ⟨c, hc, hs⟩ := Node.mem_statementsUnder hs
  exact hP.statements (hP n hn c (Node.child?_mem hc)) s hs

theorem namedUnder (hP : Hereditary P) (hn : P n) (f : Field) : ∀ s ∈ n.namedUnder f, P s := by
  intro s hs
  obtain ⟨c, hc, hs⟩ := Node.mem_namedUnder hs
  exact hP c (hP n hn c (Node.child?_mem hc)) s hs

/-- It passes to the statements of the clauses, though not to the clauses' own children in front of
the colons. -/
theorem clauseBody (hP : Hereditary P) (hn : P n) :
    ∀ k ∈ n.clauses, ∀ s ∈ k.clauseBody, P s :=
  fun k hk _ hs => hP.listed (hP n hn k (List.mem_filter.1 hk).1) (Node.mem_clauseBody hs)

end Hereditary

namespace Visit

/-- The property holds of the nodes that a visit goes to. -/
def All (P : Node → Prop) : Visit → Prop
  | .node n => P n
  | .nodes ns => ∀ n ∈ ns, P n
  | .clauses _ ks => ∀ k ∈ ks, ∀ s ∈ k.clauseBody, P s

/-- The nodes of the one visit are, or lie below, nodes of the other. -/
def Below (v' v : Visit) : Prop := ∀ P, Hereditary P → v.All P → v'.All P

theorem Below.refl (v : Visit) : v.Below v := fun _ _ hv => hv

end Visit

namespace Node

mutual

/-- A node and all nodes below it. -/
def nodes : Node → List Node
  | .mk head kids => .mk head kids :: nodesIn kids

/-- The nodes of a row and all nodes below them. -/
def nodesIn : List Node → List Node
  | [] => []
  | n :: rest => n.nodes ++ nodesIn rest

end

theorem mem_nodes_self (n : Node) : n ∈ n.nodes := by
  obtain ⟨head, kids⟩ := n
  rw [nodes]
  exact List.mem_cons_self

theorem mem_nodesIn_of_mem {n : Node} : ∀ {ns : List Node}, n ∈ ns → n ∈ nodesIn ns
  | m :: rest, h => by
    rw [nodesIn, List.mem_append]
    rcases List.mem_cons.1 h with rfl | h
    · exact .inl (mem_nodes_self n)
    · exact .inr (mem_nodesIn_of_mem h)

/-- The nodes of a row are those of its trees. -/
theorem mem_nodesIn {m : Node} {ns : List Node} : m ∈ nodesIn ns ↔ ∃ n ∈ ns, m ∈ n.nodes := by
  induction ns with
  | nil => simp [nodesIn]
  | cons n rest ih => simp [nodesIn, ih]

mutual

/-- **Being a node of a tree is hereditary**, so that whatever is required of all nodes of a tree
holds wherever a walk comes to. -/
theorem hereditary_nodes : ∀ root : Node, Hereditary (· ∈ root.nodes)
  | .mk head kids => by
    intro n hn c hc
    rw [nodes] at hn ⊢
    refine List.mem_cons_of_mem _ ?_
    rcases List.mem_cons.1 hn with rfl | hn
    · exact mem_nodesIn_of_mem hc
    · exact hereditary_nodesIn kids n hn c hc

theorem hereditary_nodesIn : ∀ ns : List Node, Hereditary (· ∈ nodesIn ns)
  | [] => by
    intro n hn
    simp [nodesIn] at hn
  | m :: rest => by
    intro n hn c hc
    rw [nodesIn, List.mem_append] at hn ⊢
    exact hn.imp (hereditary_nodes m n · c hc) (hereditary_nodesIn rest n · c hc)

end

end Node

mutual

/-- What a node hands on to its children holds of all nodes below it. -/
theorem Hereditary.nodes {P : Node → Prop} (hP : Hereditary P) :
    ∀ {n m : Node}, P n → m ∈ n.nodes → P m
  | .mk head kids, m, hn, hm => by
    rw [Node.nodes] at hm
    rcases List.mem_cons.1 hm with rfl | hm
    · exact hn
    · exact hP.nodesIn (fun c hc => hP _ hn c hc) hm

/-- A hereditary property of the nodes of a row holds of everything below them. -/
theorem Hereditary.nodesIn {P : Node → Prop} (hP : Hereditary P) :
    ∀ {ns : List Node} {m : Node}, (∀ n ∈ ns, P n) → m ∈ Node.nodesIn ns → P m
  | n :: rest, m, hns, hm => by
    rw [Node.nodesIn, List.mem_append] at hm
    rcases hm with hm | hm
    · exact hP.nodes (hns n List.mem_cons_self) hm
    · exact hP.nodesIn (fun c hc => hns c (List.mem_cons_of_mem n hc)) hm

end

theorem Node.mem_nodes_of_child {n c m : Node} (hc : c ∈ n.children) (hm : m ∈ c.nodes) :
    m ∈ n.nodes :=
  (hereditary_nodes n).nodes (hereditary_nodes n n n.mem_nodes_self c hc) hm

theorem Node.mem_nodes_of_below {n m : Node} (hm : m ∈ nodesIn n.children) : m ∈ n.nodes := by
  obtain ⟨c, hc, hm⟩ := mem_nodesIn.1 hm
  exact mem_nodes_of_child hc hm

/-- A child of a node of a declaration lies inside the declaration. -/
theorem Node.child_below {d n c : Node} (hn : n ∈ d.nodes) (hc : c ∈ n.children) :
    c ∈ nodesIn d.children := by
  obtain ⟨head, kids⟩ := d
  rw [nodes] at hn
  rcases List.mem_cons.1 hn with rfl | hn
  · exact mem_nodesIn_of_mem hc
  · exact hereditary_nodesIn kids n hn c hc

/-- What lies inside a declaration at the top lies in the tree. -/
theorem Node.mem_nodes_of_inside {root d n : Node} (hd : d ∈ root.children)
    (hn : n ∈ nodesIn d.children) : n ∈ root.nodes :=
  mem_nodes_of_child hd (mem_nodes_of_below hn)

/-- Statements are nodes of what they are statements of. -/
theorem Node.mem_nodes_of_statements {n s : Node} (hs : s ∈ n.statements) : s ∈ n.nodes :=
  (hereditary_nodes n).statements n.mem_nodes_self s hs

/-- So are those of a clause. -/
theorem Node.mem_nodes_of_clauseBody {n s : Node} (hs : s ∈ n.clauseBody) : s ∈ n.nodes :=
  (hereditary_nodes n).listed n.mem_nodes_self (mem_clauseBody hs)

end GoFlow
