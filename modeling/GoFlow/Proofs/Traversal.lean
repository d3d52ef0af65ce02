import GoFlow.Proofs.Descent

/-!
# Traversals with a stack

A traversal does something at each node that it comes to, and goes on to some of the children. It
can be run as a loop over a stack of the nodes still to come, or as a recursion down the tree.

- `Traversal.loop`: the loop, for at most so many turns.
- `Traversal.walk`, `Traversal.row`: the recursion, from a node and along a row of nodes.
- `Traversal.loop_eq`: with as many turns as there are nodes on the stack and below, the loop comes
  to its end, and does what the recursion does.
-/

namespace GoFlow

/-- What is done at a node, and which children of the node come next. -/
structure Traversal (σ ε : Type) where
  visit : Node → σ → Except ε σ
  below : Node → Node → Bool

namespace Traversal

variable {σ ε : Type} (t : Traversal σ ε)

/-- The nodes that come next behind a node. -/
def next (n : Node) : List Node := n.children.filter (t.below n)

/-- One turn of the loop takes the last node off the stack and puts the nodes that come next there,
in reverse order. On an empty stack nothing is left to do. -/
def turn (stack : List Node) (s : σ) : Except ε (List Node × σ) :=
  match stack.getLast? with
  | none => .ok (stack, s)
  | some n => do return (stack.dropLast ++ (t.next n).reverse, ← t.visit n s)

/-- Runs the loop for so many turns and gives back what is left on the stack. -/
def loop : Nat → List Node → σ → Except ε (List Node × σ)
  | 0, stack, s => .ok (stack, s)
  | turns + 1, stack, s => do
    let (stack, s) ← t.turn stack s
    loop turns stack s

mutual

/-- Visits a node and goes on to the children that come next, each with all that is below it. -/
def walk : Node → σ → Except ε σ
  | .mk head kids, s => do walkKept (t.below (.mk head kids)) kids (← t.visit (.mk head kids) s)

/-- Walks those nodes of a row that are to be kept. -/
def walkKept (keep : Node → Bool) : List Node → σ → Except ε σ
  | [], s => .ok s
  | n :: rest, s =>
    if keep n then do walkKept keep rest (← walk n s) else walkKept keep rest s

end

/-- Walks a row of nodes from left to right. -/
def row (ns : List Node) (s : σ) : Except ε σ := ns.foldlM (fun s n => t.walk n s) s

@[simp] theorem row_nil (s : σ) : t.row [] s = .ok s := rfl

@[simp] theorem row_cons (n : Node) (ns : List Node) (s : σ) :
    t.row (n :: ns) s = t.walk n s >>= t.row ns := List.foldlM_cons

/-- Two rows are walked one after the other. -/
theorem row_append (ns ms : List Node) (s : σ) :
    t.row (ns ++ ms) s = t.row ns s >>= t.row ms := List.foldlM_append

/-- Skipping nodes is walking the row without them. -/
theorem walkKept_eq (keep : Node → Bool) (ns : List Node) :
    ∀ s, t.walkKept keep ns s = t.row (ns.filter keep) s := by
  induction ns with
  | nil => intro s; rw [walkKept]; rfl
  | cons n rest ih =>
    intro s
    rw [walkKept]
    by_cases hn : keep n
    · rw [if_pos hn, List.filter_cons_of_pos hn, row_cons]
      exact congrArg _ (funext ih)
    · rw [if_neg hn, List.filter_cons_of_neg hn, ih]

/-- The recursion, one step down. -/
theorem walk_eq (n : Node) (s : σ) : t.walk n s = t.visit n s >>= t.row (t.next n) := by
  obtain ⟨head, kids⟩ := n
  rw [walk]
  exact congrArg _ (funext (t.walkKept_eq _ kids))

end Traversal

namespace Node

theorem length_nodesIn_append (ns ms : List Node) :
    (nodesIn (ns ++ ms)).length = (nodesIn ns).length + (nodesIn ms).length := by
  induction ns with
  | nil => simp [nodesIn]
  | cons n rest ih =>
    rw [List.cons_append, nodesIn, nodesIn, List.length_append, List.length_append, ih]
    omega

theorem length_nodesIn_reverse (ns : List Node) :
    (nodesIn ns.reverse).length = (nodesIn ns).length := by
  induction ns with
  | nil => rfl
  | cons n rest ih =>
    rw [List.reverse_cons, length_nodesIn_append, ih, nodesIn, nodesIn, nodesIn,
      List.append_nil, List.length_append, Nat.add_comm]

theorem length_nodesIn_filter (keep : Node → Bool) (ns : List Node) :
    (nodesIn (ns.filter keep)).length ≤ (nodesIn ns).length := by
  induction ns with
  | nil => exact Nat.le_refl _
  | cons n rest ih =>
    rw [nodesIn, List.length_append]
    by_cases hn : keep n
    · rw [List.filter_cons_of_pos hn, nodesIn, List.length_append]
      omega
    · rw [List.filter_cons_of_neg hn]
      omega

theorem length_nodes (n : Node) : n.nodes.length = (nodesIn n.children).length + 1 := by
  obtain ⟨head, kids⟩ := n
  rw [nodes]
  rfl

end Node

namespace Traversal

variable {σ ε : Type} (t : Traversal σ ε)

/-- What comes next is less than the node it comes behind. -/
theorem length_next_lt (n : Node) : (Node.nodesIn (t.next n)).length < n.nodes.length := by
  rw [n.length_nodes]
  exact Nat.lt_succ_of_le (Node.length_nodesIn_filter _ _)

theorem turn_nil (s : σ) : t.turn [] s = .ok ([], s) := rfl

/-- One turn takes the top of the stack and puts the children in its place, the first of them on
top. -/
theorem turn_concat (stack : List Node) (n : Node) (s : σ) :
    t.turn (stack ++ [n]) s = do return (stack ++ (t.next n).reverse, ← t.visit n s) := by
  rw [turn, List.getLast?_concat, List.dropLast_concat]

/-- A loop with something on its stack visits the last node and goes on with what comes next. -/
theorem loop_succ (turns : Nat) (stack : List Node) (n : Node) (s : σ) :
    t.loop (turns + 1) (stack ++ [n]) s
      = t.visit n s >>= t.loop turns (stack ++ (t.next n).reverse) := by
  rw [loop, turn_concat]
  cases t.visit n s with
  | error e => rfl
  | ok s' => rfl

/-- **The loop is the recursion**: each turn takes one node away, so that in the end the stack is
empty. Until then it holds the nodes that are still to be walked, the next one last. -/
theorem loop_eq {turns : Nat} : ∀ {stack : List Node} {s : σ},
    (Node.nodesIn stack).length ≤ turns →
      t.loop turns stack s = do return ([], ← t.row stack.reverse s) := by
  induction turns with
  | zero =>
    intro stack s hturns
    cases stack with
    | nil => rfl
    | cons n rest =>
      rw [Node.nodesIn, List.length_append, n.length_nodes] at hturns
      omega
  | succ turns ih =>
    intro stack s hturns
    rcases List.eq_nil_or_concat stack with rfl | ⟨rest, n, hconcat⟩
    · rw [loop, turn_nil]
      exact ih (by simp [Node.nodesIn])
    · obtain rfl : stack = rest ++ [n] := hconcat.trans List.concat_eq_append
      rw [Node.length_nodesIn_append, Node.nodesIn, Node.nodesIn, List.append_nil] at hturns
      have hnext := t.length_next_lt n
      have hstack : (Node.nodesIn (rest ++ (t.next n).reverse)).length ≤ turns := by
        rw [Node.length_nodesIn_append, Node.length_nodesIn_reverse]
        omega
      rw [loop_succ, List.reverse_append, List.reverse_singleton, List.singleton_append, row_cons,
        walk_eq]
      cases t.visit n s with
      | error e => rfl
      | ok s' =>
        show t.loop turns _ s' = do return ([], ← t.row (t.next n) s' >>= t.row rest.reverse)
        rw [ih hstack, List.reverse_append, List.reverse_reverse, row_append]

end Traversal

end GoFlow
