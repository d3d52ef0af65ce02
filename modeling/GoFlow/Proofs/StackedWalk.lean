import GoFlow.Proofs.Accounts
import GoFlow.Proofs.Traversal

/-!
# The walk with a stack

Between constructs, a walk passes through nodes that mean nothing to it. It does so in a loop, with
a stack of the nodes still to come, so that it nests as deep as constructs do and no deeper. At a
construct it stops for what is to be done there, part of which is to walk further in, in loops of
the same sort.

- `descent`: the traversal between constructs. What is done at the constructs, their arm, is open.
- `construct`: what is done at a construct, all loops included, up to the arm of the constructs
  further in.
- `nested`: the walk of constructs that nest up to some depth.
- `row_descent_eq`, `construct_eq`: where the arms agree with the walk over the outline, so do the
  loops, and then the next arms.
- `loop_eq_recursion`: the loop does what a recursion over the named children does.
-/

namespace GoFlow

/-! ## Between constructs -/

section

variable {δ : Type} (arm : Node → Walk → Except δ Walk)

/-- Goes down to the nearest constructs, and leaves these to their arm. -/
def descent : Traversal Walk δ where
  visit n w := if n.label.isConstruct then arm n w else .ok w
  below n c := !n.label.isConstruct && c.head.named

/-- The recursion leaves constructs to the arm, and goes on to the named children of other nodes. -/
theorem walk_descent (n : Node) (w : Walk) :
    (descent arm).walk n w
      = if n.label.isConstruct then arm n w else (descent arm).row n.named w := by
  rw [Traversal.walk_eq]
  by_cases hlabel : n.label.isConstruct
  · have hnext : (descent arm).next n = [] := by
      simp [Traversal.next, descent, hlabel]
    rw [hnext, if_pos hlabel]
    show (if n.label.isConstruct then arm n w else .ok w) >>= (descent arm).row [] = _
    rw [if_pos hlabel]
    cases arm n w <;> rfl
  · have hnext : (descent arm).next n = n.named := by
      simp [Traversal.next, descent, hlabel, Node.named]
    rw [hnext, if_neg hlabel]
    show (if n.label.isConstruct then arm n w else .ok w) >>= (descent arm).row n.named = _
    rw [if_neg hlabel]
    rfl

/-- Walks what is inside a node in a loop, until nothing is left on the stack. -/
def loopInside (n : Node) (w : Walk) : Except δ Walk := do
  let (_, w) ← (descent arm).loop (Node.nodesIn n.named).length n.named.reverse w
  return w

/-- Visits a node: a construct is left to the arm. -/
def visitNode (n : Node) (w : Walk) : Except δ Walk :=
  if n.label.isConstruct then arm n w else loopInside arm n w

/-- Visits nodes from left to right. -/
def visitRow (ns : List Node) (w : Walk) : Except δ Walk :=
  ns.foldlM (fun w n => visitNode arm n w) w

/-- The loop over the children is a traversal of the row. -/
theorem loopInside_eq (n : Node) (w : Walk) :
    loopInside arm n w = (descent arm).row n.named w := by
  have hstack := Nat.le_of_eq (Node.length_nodesIn_reverse n.named)
  rw [loopInside, (descent arm).loop_eq hstack, List.reverse_reverse]
  cases (descent arm).row n.named w <;> rfl

theorem visitRow_eq (ns : List Node) (w : Walk) : visitRow arm ns w = (descent arm).row ns w := by
  have hvisit : ∀ n w, visitNode arm n w = (descent arm).walk n w := fun n w => by
    rw [visitNode, loopInside_eq, walk_descent]
  rw [visitRow, Traversal.row]
  simp only [hvisit]

end

/-! ## At a construct -/

section

variable {ε : Type} (decode : List UInt8 → Except ε String)
variable (arm : Node → Walk → Except (Stopped ε) Walk)

/-- Walks what is inside the first child that is held under the field. -/
def loopUnder (f : Field) (n : Node) (w : Walk) : Except (Stopped ε) Walk :=
  (n.child? f).elim (.ok w) fun c => loopInside arm c w

/-- Walks the clauses of a switch or select from left to right. -/
def visitClauses (form : Choice) (ks : List Node) (w : Walk) : Except (Stopped ε) Walk :=
  ks.foldlM (fun w k => do
    let entry := Outline.clauseEntry form k
    let outer := w.scope
    let w ← visitRow arm k.clauseBody (w.enterClause entry.1 entry.2)
    return w.leaveClause entry.1 outer) w

/-- Walks a declaration. -/
def visitFunction (n : Node) (w : Walk) : Except (Stopped ε) Walk := do
  let name ← Walk.decodeName decode w (Outline.nameText n)
  (n.child? .body).elim
    (.ok { w.enterFunction name n.startLine none with scope := w.scope }) fun body => do
      let returns := Outline.returnLines body
      let inner := (w.enterFunction name n.startLine (some n.endLine)).foresee returns n.endLine
      let inner ← visitRow arm body.statements inner
      return (inner.closeOn returns n.endLine).leaveFunction name n.startLine w.scope

/-- Walks an if. Its header comes behind the consequence. -/
def visitCond (n : Node) (w : Walk) : Except (Stopped ε) Walk := do
  let elseLine := (Outline.falsePath n).1
  let elseEnd := w.scope.elseEnd n
  let w ← visitRow arm (n.statementsUnder .consequence) (w.enterCond n.startLine elseLine elseEnd)
  let w ← loopUnder arm .initializer n (w.leaveCond elseLine elseEnd)
  let w ← loopUnder arm .condition n w
  visitRow arm (n.child? .alternative).toList w

/-- Walks a for. -/
def visitLoop (n : Node) (w : Walk) : Except (Stopped ε) Walk := do
  let outer := w.scope
  let w ← visitRow arm n.headerParts w
  let w ← visitRow arm (n.statementsUnder .body)
    ((w.aimAt outer.returnTarget).enterLoop n.startLine)
  return w.leaveLoop n.startLine n.endLine outer

/-- Walks a switch or select. -/
def visitChoice (form : Choice) (n : Node) (w : Walk) : Except (Stopped ε) Walk := do
  let outer := w.scope
  let w ← visitRow arm n.headerParts w
  let w ← visitClauses arm form n.clauses
    ((w.aimAt outer.returnTarget).enterChoice form n.startLine)
  return { w with scope := { w.scope with switchHeader := outer.switchHeader } }

/-- Walks a construct. The constructs further in are left to the arm. -/
def construct (n : Node) (w : Walk) : Except (Stopped ε) Walk :=
  if n.label.isFunction then visitFunction decode arm n w
  else if n.label = .returnStatement then loopInside arm n (w.enterReturn n.startLine)
  else if n.label = .goStatement then loopInside arm n (w.add n.startLine .goStatement)
  else if n.label = .ifStatement then visitCond arm n w
  else if n.label = .forStatement then visitLoop arm n w
  else n.label.choice?.elim (.ok w) fun form => visitChoice arm form n w

/-- Walks constructs that nest up to some depth. What nests deeper is left to `deeper`. -/
def nested (deeper : Node → Walk → Except (Stopped ε) Walk) :
    Nat → Node → Walk → Except (Stopped ε) Walk
  | 0 => deeper
  | depth + 1 => construct decode (nested deeper depth)

end

namespace Node

mutual

/-- How many constructs lie one inside the other in a tree, at most. -/
def depth : Node → Nat
  | .mk head kids => (if head.label.isConstruct then 1 else 0) + depthIn kids

/-- The greatest depth in a row. -/
def depthIn : List Node → Nat
  | [] => 0
  | n :: rest => max n.depth (depthIn rest)

end

theorem depth_le_depthIn {n : Node} {ns : List Node} (h : n ∈ ns) : n.depth ≤ depthIn ns := by
  induction ns with
  | nil => cases h
  | cons m rest ih =>
    rw [depthIn]
    rcases List.mem_cons.1 h with rfl | h
    · exact Nat.le_max_left _ _
    · exact Nat.le_trans (ih h) (Nat.le_max_right _ _)

/-- The depth counts the constructs around the deepest one. -/
theorem depth_eq (n : Node) :
    n.depth = (if n.label.isConstruct then 1 else 0) + depthIn n.children := by
  obtain ⟨head, kids⟩ := n
  rw [depth]
  rfl

/-- Trees do not get deeper on the way down. -/
theorem hereditary_depth (d : Nat) : Hereditary fun n => n.depth ≤ d := by
  intro n hn c hc
  have := depth_le_depthIn hc
  rw [depth_eq] at hn
  omega

theorem depth_le_of_mem_nodesIn {ns : List Node} {d : Nat} (h : depthIn ns ≤ d) {s : Node}
    (hs : s ∈ nodesIn ns) : s.depth ≤ d := by
  obtain ⟨n, hn, hs⟩ := mem_nodesIn.1 hs
  exact (hereditary_depth d).nodes (Nat.le_trans (depth_le_depthIn hn) h) hs

end Node

/-! ## Agreement with the walk over the outline -/

section

variable {ε : Type} {decode : List UInt8 → Except ε String}
variable {arm : Node → Walk → Except (Stopped ε) Walk} {n : Node} {ns : List Node}

/-- The arm does at a construct what the walk over the outline does. -/
def Agrees (decode : List UInt8 → Except ε String) (arm : Node → Walk → Except (Stopped ε) Walk)
    (n : Node) : Prop :=
  n.label.isConstruct → ∀ w, arm n w = Walk.items decode (Outline.ofNode n) w

/-- If the traversal walks every node of a row, it walks the row. -/
theorem row_eq_of_walk
    (h : ∀ n ∈ ns, ∀ w, (descent arm).walk n w = Walk.items decode (Outline.ofNode n) w) :
    ∀ w, (descent arm).row ns w = Walk.items decode (Outline.ofNodes ns) w := by
  induction ns with
  | nil =>
    intro w
    rw [Outline.ofNodes_nil, Walk.items]
    rfl
  | cons n rest ih =>
    intro w
    have hrest := funext (ih fun m hm => h m (List.mem_cons_of_mem n hm))
    rw [Traversal.row_cons, Outline.ofNodes_cons, items_append, h n List.mem_cons_self, hrest]

/-- By induction on the size of the node: what it goes on to is smaller. -/
theorem walk_descent_eq (h : ∀ s ∈ n.nodes, Agrees decode arm s) :
    ∀ w, (descent arm).walk n w = Walk.items decode (Outline.ofNode n) w := by
  induction hsize : sizeOf n using Nat.strongRecOn generalizing n with
  | ind _ ih =>
    subst hsize
    intro w
    rw [walk_descent]
    by_cases hlabel : n.label.isConstruct
    · rw [if_pos hlabel]
      exact h n n.mem_nodes_self hlabel w
    · rw [if_neg hlabel, Outline.ofNode_other (by simpa using hlabel)]
      refine row_eq_of_walk (fun c hc => ?_) w
      have hc' := (List.mem_filter.1 hc).1
      exact ih _ (Node.sizeOf_lt_of_mem hc') (fun s hs => h s (Node.mem_nodes_of_child hc' hs)) rfl

/-- **Between constructs**, the recursion is the walk over the outline. -/
theorem row_descent_eq (h : ∀ s ∈ Node.nodesIn ns, Agrees decode arm s) (w : Walk) :
    (descent arm).row ns w = Walk.items decode (Outline.ofNodes ns) w :=
  row_eq_of_walk (fun _ hn => walk_descent_eq fun s hs => h s (Node.mem_nodesIn.2 ⟨_, hn, hs⟩)) w

/-- Clauses are walked one after the other. -/
theorem visitClauses_eq {form : Choice} {ks : List Node}
    (h : ∀ k ∈ ks, ∀ w, visitRow arm k.clauseBody w
      = Walk.items decode (Outline.ofNodes k.clauseBody) w) :
    ∀ w, visitClauses arm form ks w = Walk.clauses decode (ks.map (Outline.ofClause form)) w := by
  induction ks with
  | nil =>
    intro w
    rw [List.map_nil, Walk.clauses]
    rfl
  | cons k ks ih =>
    intro w
    rw [List.map_cons, Outline.ofClause, Walk.clauses, ← h k List.mem_cons_self]
    show (visitRow arm k.clauseBody _ >>= _) >>= visitClauses arm form ks = _
    cases visitRow arm k.clauseBody _ with
    | error e => rfl
    | ok w₁ => exact ih (fun j hj => h j (List.mem_cons_of_mem k hj)) _

section

-- the arm agrees with the walk over the outline at all constructs further in
variable (h : ∀ s ∈ Node.nodesIn n.children, Agrees decode arm s) (w : Walk)

include h

/-- A row that a construct picks from its parts. -/
theorem row_eq_items (hns : ∀ s ∈ ns, s ∈ Node.nodesIn n.children) :
    (descent arm).row ns w = Walk.items decode (Outline.ofNodes ns) w :=
  row_descent_eq (fun s hs => h s ((Node.hereditary_nodesIn n.children).nodesIn hns hs)) w

/-- Below a node whose depth is bounded, rows are walked as their outlines are. -/
theorem visitRow_eq_items (hns : ∀ s ∈ ns, s ∈ Node.nodesIn n.children) :
    visitRow arm ns w = Walk.items decode (Outline.ofNodes ns) w := by
  rw [visitRow_eq, row_eq_items h w hns]

theorem loopInside_eq_items :
    loopInside arm n w = Walk.items decode (Outline.ofNodes n.named) w := by
  have hnamed : ∀ s ∈ n.named, s ∈ Node.nodesIn n.children :=
    fun _ hs => Node.mem_nodesIn_of_mem (List.mem_filter.1 hs).1
  rw [loopInside_eq, row_eq_items h w hnamed]

theorem visitHeader_eq_items :
    visitRow arm n.headerParts w = Walk.items decode (Outline.ofNodes n.headerParts) w :=
  visitRow_eq_items h w fun _ hs => Node.mem_nodesIn_of_mem (List.mem_filter.1 hs).1

theorem visitUnder_eq_items (f : Field) :
    visitRow arm (n.statementsUnder f) w
      = Walk.items decode (Outline.ofNodes (n.statementsUnder f)) w := by
  refine visitRow_eq_items h w fun s hs => ?_
  obtain ⟨c, hc, hs⟩ := Node.mem_statementsUnder hs
  exact (Node.hereditary_nodesIn n.children).statements
    (Node.mem_nodesIn_of_mem (Node.child?_mem hc)) s hs

theorem loopUnder_eq_items (f : Field) :
    loopUnder arm f n w = Walk.items decode (Outline.ofNodes (n.namedUnder f)) w := by
  rw [loopUnder, Node.namedUnder]
  cases hc : n.child? f with
  | none => rw [Option.elim_none, Option.elim_none, Outline.ofNodes_nil, Walk.items]
  | some c =>
    have hnamed := (Node.hereditary_nodesIn n.children).named
      (Node.mem_nodesIn_of_mem (Node.child?_mem hc))
    rw [Option.elim_some, Option.elim_some, loopInside_eq, row_eq_items h w hnamed]

theorem visitFunction_eq (label : n.label.isFunction) :
    visitFunction decode arm n w = Walk.items decode (Outline.ofNode n) w := by
  rw [visitFunction]
  cases hbody : n.child? .body with
  | none =>
    rw [Outline.ofNode_prototype label hbody, items_singleton, Walk.item]
    rfl
  | some body =>
    have hstatements := (Node.hereditary_nodesIn n.children).statements
      (Node.mem_nodesIn_of_mem (Node.child?_mem hbody))
    rw [Outline.ofNode_function label hbody, items_singleton, Walk.item]
    simp only [Option.elim_some, visitRow_eq_items h _ hstatements]

theorem visitCond_eq (label : n.label = .ifStatement) :
    visitCond arm n w = Walk.items decode (Outline.ofNode n) w := by
  have halternative : ∀ s ∈ (n.child? .alternative).toList, s ∈ Node.nodesIn n.children :=
    fun s hs => Node.mem_nodesIn_of_mem (Node.child?_mem (Option.mem_toList.1 hs))
  rw [visitCond, Outline.ofNode_cond label, items_singleton, Walk.item]
  simp only [visitUnder_eq_items h, loopUnder_eq_items h, visitRow_eq_items h _ halternative,
    Outline.ofNodes_append, items_append, bind_assoc]
  rfl

theorem visitLoop_eq (label : n.label = .forStatement) :
    visitLoop arm n w = Walk.items decode (Outline.ofNode n) w := by
  rw [visitLoop, Outline.ofNode_loop label, items_singleton, Walk.item]
  simp only [visitHeader_eq_items h, visitUnder_eq_items h]

theorem visitChoice_eq {form : Choice} (label : n.label.choice? = some form) :
    visitChoice arm form n w = Walk.items decode (Outline.ofNode n) w := by
  have hclauses : ∀ k ∈ n.clauses, ∀ w, visitRow arm k.clauseBody w
      = Walk.items decode (Outline.ofNodes k.clauseBody) w := by
    refine fun k hk w => visitRow_eq_items h w fun s hs => ?_
    exact (Node.hereditary_nodesIn n.children).listed
      (Node.mem_nodesIn_of_mem (List.mem_filter.1 hk).1) (Node.mem_clauseBody hs)
  rw [visitChoice, Outline.ofNode_choice label, items_singleton, Walk.item]
  simp only [visitHeader_eq_items h, visitClauses_eq hclauses]

/-- **At a construct**, all loops further in do what the walk over the outline does, if the arm
does. -/
theorem construct_eq (hlabel : n.label.isConstruct) :
    construct decode arm n w = Walk.items decode (Outline.ofNode n) w := by
  rw [construct]
  rcases n.label.construct_cases with
    plain | label | label | label | label | label | ⟨form, label⟩
  · rw [hlabel] at plain
    cases plain
  · rw [if_pos label, visitFunction_eq h w label]
  · simp only [label, Label.isFunction, reduceCtorEq, if_false, if_true]
    rw [loopInside_eq_items h, Outline.ofNode_ret label, items_singleton, Walk.item]
  · simp only [label, Label.isFunction, reduceCtorEq, if_false, if_true]
    rw [loopInside_eq_items h, Outline.ofNode_spawn label, items_singleton, Walk.item]
  · simp only [label, Label.isFunction, reduceCtorEq, if_false, if_true]
    exact visitCond_eq h w label
  · simp only [label, Label.isFunction, reduceCtorEq, if_false, if_true]
    exact visitLoop_eq h w label
  · rw [label, Option.elim_some, visitChoice_eq h w label]
    cases hl : n.label <;> simp_all [Label.choice?, Label.isFunction]

end

/-- Constructs that nest no deeper than the depth are walked as over the outline, whatever would be
done with deeper ones. -/
theorem nested_agrees (deeper : Node → Walk → Except (Stopped ε) Walk) {depth : Nat} :
    ∀ {n : Node}, n.depth ≤ depth → Agrees decode (nested decode deeper depth) n := by
  induction depth with
  | zero =>
    intro n hn hlabel
    rw [n.depth_eq, if_pos hlabel] at hn
    omega
  | succ depth ih =>
    intro n hn hlabel w
    rw [n.depth_eq, if_pos hlabel] at hn
    exact construct_eq (fun s hs => ih (Node.depth_le_of_mem_nodesIn (by omega) hs)) w hlabel

end

/-! ## The stack and the recursion -/

/-- A recursion that leaves constructs to the arm, and goes on to the named children of all other
nodes from left to right. -/
def Recurses {δ : Type} (arm visit : Node → Walk → Except δ Walk) : Prop :=
  ∀ n w, visit n w
    = if n.label.isConstruct then arm n w else n.named.foldlM (fun w c => visit c w) w

theorem recurses_walk {δ : Type} (arm : Node → Walk → Except δ Walk) :
    Recurses arm (descent arm).walk := walk_descent arm

/-- The stack starts with the named children of a node, the first of them on top. -/
theorem loop_descent_eq {δ : Type} (arm : Node → Walk → Except δ Walk) {n : Node} {turns : Nat}
    (hturns : (Node.nodesIn n.named).length ≤ turns) (w : Walk) :
    (descent arm).loop turns n.named.reverse w = do
      return ([], ← (descent arm).row n.named w) := by
  rw [← Node.length_nodesIn_reverse] at hturns
  rw [(descent arm).loop_eq hturns, List.reverse_reverse]

/-- **The loop is the recursion.** The loop over the stack empties it within as many turns as there
are nodes below, and leaves the graph, the scope and the log, or the failure, that a recursion
leaves which visits the named children from left to right, whatever is done at the constructs. With
loops at all constructs further in too, that is the walk over the outline. -/
theorem loop_eq_recursion {ε : Type} (decode : List UInt8 → Except ε String) :
    (∀ {δ : Type} (arm : Node → Walk → Except δ Walk), ∃ visit, Recurses arm visit ∧
      ∀ (n : Node) (w : Walk) (turns : Nat), (Node.nodesIn n.named).length ≤ turns →
        (descent arm).loop turns n.named.reverse w = do
          return ([], ← n.named.foldlM (fun w c => visit c w) w)) ∧
      ∀ (deeper : Node → Walk → Except (Stopped ε) Walk) (n : Node) (depth : Nat) (w : Walk)
        (turns : Nat), n.depth ≤ depth → (Node.nodesIn n.named).length ≤ turns →
        (descent (nested decode deeper depth)).loop turns n.named.reverse w = do
          return ([], ← Walk.items decode (Outline.inside n.children) w) := by
  constructor
  · intro δ arm
    exact ⟨(descent arm).walk, recurses_walk arm, fun n w turns hturns =>
      loop_descent_eq arm hturns w⟩
  · intro deeper n depth w turns hdepth hturns
    have hagrees : ∀ s ∈ Node.nodesIn n.named, Agrees decode (nested decode deeper depth) s := by
      intro s hs
      obtain ⟨c, hc, hs⟩ := Node.mem_nodesIn.1 hs
      exact nested_agrees deeper ((Node.hereditary_depth depth).nodes hdepth
        (Node.mem_nodes_of_child (List.mem_filter.1 hc).1 hs))
    rw [loop_descent_eq _ hturns, row_descent_eq hagrees, Outline.inside_eq]
    rfl

/-- A function on lines 1 to 10 that calls with two arguments: on line 2, a literal that returns a
literal with a loop on line 4, and in brackets on line 8, a literal that spawns. -/
def callFile : Node :=
  .mk { label := .other "source_file", span := { startRow := 0, endRow := 10 } } [
    .mk { label := .functionDeclaration, span := { startRow := 0, endRow := 9 } } [
      .mk { label := .block, span := { startRow := 0, endRow := 9 }, field := some .body } [
        .mk { label := .other "call_expression", span := { startRow := 1, endRow := 8 } } [
          .mk { label := .other "func_literal", span := { startRow := 1, endRow := 6 } } [
            .mk { label := .block, span := { startRow := 1, endRow := 6 }, field := some .body } [
              .mk { label := .returnStatement, span := { startRow := 2, endRow := 5 } } [
                .mk { label := .other "func_literal", span := { startRow := 2, endRow := 5 } } [
                  .mk { label := .block, span := { startRow := 2, endRow := 5 },
                        field := some .body } [
                    .mk { label := .forStatement, span := { startRow := 3, endRow := 4 } } []]]]]],
          .mk { label := .other "parenthesized_expression",
                span := { startRow := 7, endRow := 8 } } [
            .mk { label := .other "func_literal", span := { startRow := 7, endRow := 8 } } [
              .mk { label := .block, span := { startRow := 7, endRow := 8 },
                    field := some .body } [
                .mk { label := .goStatement, span := { startRow := 7, endRow := 7 } } []]]]]]]]

/-- Thirteen turns suffice for the file, with the arms of three constructs one inside the other. -/
theorem loop_eq_recursion_callFile :
    callFile.depth ≤ 3 ∧ (Node.nodesIn callFile.named).length ≤ 13 ∧
      ∃ w : Walk, w.graph.lines.map Prod.fst = [1, 10, 3, 4, 5, 8] ∧
        (descent (nested spell (fun _ w => .ok w) 3)).loop 13 callFile.named.reverse {}
          = .ok ([], w) ∧
        ∃ visit, Recurses (nested spell (fun _ w => .ok w) 3) visit ∧
          callFile.named.foldlM (fun w c => visit c w) {} = .ok w := by
  have hdepth : callFile.depth ≤ 3 := by decide
  have hturns : (Node.nodesIn callFile.named).length ≤ 13 := by decide
  have hwalk : ∃ w : Walk, Walk.items spell (Outline.inside callFile.children) {} = .ok w ∧
      w.graph.lines.map Prod.fst = [1, 10, 3, 4, 5, 8] := ⟨_, rfl, rfl⟩
  obtain ⟨w, hw, hlines⟩ := hwalk
  obtain ⟨hrecursion, houtline⟩ := loop_eq_recursion spell
  have hloop := houtline (fun _ w => .ok w) callFile 3 {} 13 hdepth hturns
  rw [hw] at hloop
  obtain ⟨visit, hvisit, heq⟩ := hrecursion (nested spell (fun _ w => .ok w) 3)
  refine ⟨hdepth, hturns, w, hlines, hloop, visit, hvisit, ?_⟩
  have hrow := (heq callFile {} 13 hturns).symm.trans hloop
  cases h : callFile.named.foldlM (fun w c => visit c w) ({} : Walk) with
  | error e => rw [h] at hrow; cases hrow
  | ok w₁ => rw [h] at hrow; cases hrow; rfl

end GoFlow
