import GoFlow.Proofs.Coverage
import GoFlow.Proofs.Rewriting

/-!
# Statement lists

Some versions of the Go grammar wrap the statements of a block, and those of a clause, in a
statement list, others hold them directly. The walk finds the same statements either way.

- `Node.flattened`: the tree of a front end that does not wrap statements. Its build is that of the
  tree as it came.
-/

namespace GoFlow

namespace Node

mutual

/-- The tree in which the statement lists of blocks, and those behind the colon of a clause, give
way to their own children. -/
def flattened : Node → Node
  | .mk head kids => .mk head (flattenedIn head.label.isClause (head.label == .block) kids)

/-- A row of children. With `unwraps`, statement lists give way to their children; in a clause this
starts behind the colon. -/
def flattenedIn (clause unwraps : Bool) : List Node → List Node
  | [] => []
  | .mk head kids :: rest =>
    (if unwraps && head.label == .statementList then flattenedIn false false kids
      else [flattened (.mk head kids)])
      ++ flattenedIn clause (unwraps || clause && head.label == .colon) rest

end

/-- Statement lists are named, and none holds another. -/
def ListsFlat (root : Node) : Prop :=
  ∀ n ∈ root.nodes, n.label = .statementList →
    n.head.named ∧ ∀ c ∈ n.children, c.label ≠ .statementList

/-- What is asked of the lists of a tree holds of those of its parts. -/
theorem hereditary_listsFlat : Hereditary ListsFlat :=
  fun _ hn _ hc m hm => hn m (mem_nodes_of_child hc hm)

@[simp] theorem head_flattened (n : Node) : n.flattened.head = n.head := by
  obtain ⟨head, kids⟩ := n
  rw [flattened]
  rfl

@[simp] theorem label_flattened (n : Node) : n.flattened.label = n.label :=
  congrArg Head.label n.head_flattened

theorem flattenedIn_closed (ns : List Node) :
    flattenedIn false false ns = ns.map flattened := by
  induction ns with
  | nil => rw [flattenedIn]; rfl
  | cons n rest ih =>
    obtain ⟨head, kids⟩ := n
    rw [flattenedIn]
    simpa using ih

theorem children_flattened (n : Node) :
    n.flattened.children = flattenedIn n.label.isClause (n.label == .block) n.children := by
  obtain ⟨head, kids⟩ := n
  rw [flattened]
  rfl

/-- Only blocks and clauses lose statement lists. -/
theorem children_flattened_of_other {n : Node} (hclause : n.label.isClause = false)
    (hblock : n.label ≠ .block) : n.flattened.children = n.children.map flattened := by
  rw [children_flattened, hclause, beq_false_of_ne hblock, flattenedIn_closed]

theorem children_flattened_of_list {n : Node} (hlabel : n.label = .statementList) :
    n.flattened.children = n.children.map flattened :=
  children_flattened_of_other (by rw [hlabel]; rfl) (by rw [hlabel]; decide)

/-- What a child becomes. -/
def unwrapped (unwraps : Bool) (n : Node) : List Node :=
  if unwraps && n.label == .statementList then n.children.map flattened else [n.flattened]

/-- From left to right, a list gives way to what it holds once the row has come to its statements.
-/
theorem flattenedIn_cons (clause unwraps : Bool) (n : Node) (rest : List Node) :
    flattenedIn clause unwraps (n :: rest) = n.unwrapped unwraps
      ++ flattenedIn clause (unwraps || clause && n.label == .colon) rest := by
  obtain ⟨head, kids⟩ := n
  rw [flattenedIn, flattenedIn_closed]
  rfl

/-- A row of children is rewritten as each of its members is, wherever it is cut. -/
theorem flattenedIn_hom {β : Type} {F G : List Node → List β} {ns : List Node}
    (hF : F [] = G []) (hcons : ∀ n ∈ ns, ∀ u as rest, F as = G rest →
      F (n.unwrapped u ++ as) = G (n :: rest)) (clause unwraps : Bool) :
    F (flattenedIn clause unwraps ns) = G ns := by
  induction ns generalizing unwraps with
  | nil => rw [flattenedIn, hF]
  | cons n rest ih =>
    rw [flattenedIn_cons]
    refine hcons n List.mem_cons_self _ _ _ (ih (fun m hm => ?_) _)
    exact hcons m (List.mem_cons_of_mem n hm)

/-! ## Statements -/

@[simp] theorem isStatement_flattened (n : Node) : n.flattened.isStatement = n.isStatement := by
  rw [isStatement, head_flattened, label_flattened, isStatement]

/-- Flattening makes no statements and loses none. -/
theorem filter_isStatement_flattened (ns : List Node) :
    (ns.map flattened).filter isStatement = (ns.filter isStatement).map flattened := by
  rw [List.filter_map]
  exact congrArg (List.map flattened) (List.filter_congr fun n _ => n.isStatement_flattened)

theorem statementsIn_append (ns ms : List Node) :
    statementsIn (ns ++ ms) = statementsIn ns ++ statementsIn ms := List.flatMap_append

theorem statementsIn_list {n : Node} (hlabel : n.label = .statementList) (hnamed : n.head.named) :
    statementsIn [n] = n.children.filter isStatement := by
  simp [statementsIn, hlabel, hnamed]

theorem statementsIn_of_no_list {ns : List Node} (h : ∀ n ∈ ns, n.label ≠ .statementList) :
    statementsIn ns = ns.filter isStatement := by
  induction ns with
  | nil => rfl
  | cons n rest ih =>
    have ih := ih fun m hm => h m (List.mem_cons_of_mem n hm)
    have hn : (n.head.named && n.label == .statementList) = false := by
      simp [h n List.mem_cons_self]
    rw [statementsIn] at ih ⊢
    rw [List.flatMap_cons, ih, hn, List.filter_cons]
    cases n.isStatement <;> rfl

/-- The statements that a child gives, whether it stays or gives way. -/
theorem statementsIn_unwrapped {n : Node} (hn : n.ListsFlat) (unwraps : Bool) :
    statementsIn (n.unwrapped unwraps) = (statementsIn [n]).map flattened := by
  by_cases hlabel : n.label = .statementList
  · obtain ⟨hnamed, hflat⟩ := hn n n.mem_nodes_self hlabel
    rw [statementsIn_list hlabel hnamed, ← filter_isStatement_flattened, unwrapped]
    cases unwraps with
    | true =>
      rw [if_pos (by simp [hlabel])]
      refine statementsIn_of_no_list fun c hc => ?_
      obtain ⟨m, hm, rfl⟩ := List.mem_map.1 hc
      rw [label_flattened]
      exact hflat m hm
    | false =>
      rw [if_neg (by simp), statementsIn_list (n.label_flattened.trans hlabel) (by simpa),
        children_flattened_of_list hlabel]
  · rw [unwrapped, if_neg (by simp [hlabel]), statementsIn_of_no_list (by simpa),
      statementsIn_of_no_list (by simpa)]
    exact filter_isStatement_flattened [n]

/-- **The statements of a row** are the same with and without lists. -/
theorem statementsIn_flattenedIn {ns : List Node} (hns : ∀ n ∈ ns, n.ListsFlat)
    (clause unwraps : Bool) :
    statementsIn (flattenedIn clause unwraps ns) = (statementsIn ns).map flattened := by
  refine @flattenedIn_hom Node statementsIn (fun ns => (statementsIn ns).map flattened) ns rfl
    (fun n hn u as rest hrest => ?_) clause unwraps
  rw [statementsIn_append, statementsIn_unwrapped (hns n hn), hrest, ← List.map_append,
    ← statementsIn_append]
  rfl

/-! ## Clauses -/

theorem children_flattened_of_clause {n : Node} (hclause : n.label.isClause) :
    n.flattened.children = flattenedIn true false n.children := by
  have hblock : (n.label == .block) = false := by
    cases hl : n.label <;> simp_all [Label.isClause]
  rw [children_flattened, hclause, hblock]

/-- Behind the colon of a clause, all lists give way. -/
theorem afterColon_flattenedIn (ns : List Node) :
    afterColon (flattenedIn true false ns) = flattenedIn true true (afterColon ns) := by
  induction ns with
  | nil => simp [afterColon, flattenedIn]
  | cons n rest ih =>
    have hstays : n.unwrapped false = [n.flattened] := rfl
    rw [flattenedIn_cons, hstays]
    unfold afterColon at ih ⊢
    by_cases hcolon : n.label = .colon
    · simp [hcolon]
    · simpa [hcolon, beq_false_of_ne hcolon] using ih

/-- Where statement lists are named, a clause has its statements as a block has. -/
theorem clauseBody_eq {n : Node} (h : ∀ c ∈ n.children, c.label = .statementList → c.head.named) :
    n.clauseBody = statementsIn (afterColon n.children) := by
  refine List.flatMap_congr fun c hc => ?_
  by_cases hlabel : c.label = .statementList
  · simp [hlabel, h c (mem_of_mem_afterColon hc) hlabel]
  · simp [hlabel]

theorem mem_flattenedIn {clause unwraps : Bool} {ns : List Node} {c : Node}
    (hc : c ∈ flattenedIn clause unwraps ns) :
    ∃ n ∈ ns, ∃ u : Bool, (unwraps → u) ∧ c ∈ n.unwrapped u := by
  induction ns generalizing unwraps with
  | nil => rw [flattenedIn] at hc; cases hc
  | cons n rest ih =>
    rw [flattenedIn_cons] at hc
    rcases List.mem_append.1 hc with hc | hc
    · exact ⟨n, List.mem_cons_self, unwraps, id, hc⟩
    · obtain ⟨m, hm, u, hu, hc⟩ := ih hc
      exact ⟨m, List.mem_cons_of_mem n hm, u, fun h => hu (by simp [h]), hc⟩

/-- What a child becomes is made of the child or of its children. -/
theorem mem_unwrapped {n c : Node} {u : Bool} (hc : c ∈ n.unwrapped u) :
    ∃ m, (m = n ∨ m ∈ n.children) ∧ c = m.flattened := by
  unfold unwrapped at hc
  split at hc
  · obtain ⟨m, hm, rfl⟩ := List.mem_map.1 hc
    exact ⟨m, .inr hm, rfl⟩
  · exact ⟨n, .inl rfl, List.mem_singleton.1 hc⟩

/-- The children of a flattened node are flattened nodes from below it. -/
theorem mem_children_flattened {n c : Node} (hn : n.ListsFlat) (hc : c ∈ n.flattened.children) :
    ∃ m : Node, m.ListsFlat ∧ c = m.flattened := by
  rw [children_flattened] at hc
  obtain ⟨k, hk, u, -, hc⟩ := mem_flattenedIn hc
  have hk := hereditary_listsFlat n hn k hk
  obtain ⟨m, rfl | hm, rfl⟩ := mem_unwrapped hc
  · exact ⟨m, hk, rfl⟩
  · exact ⟨m, hereditary_listsFlat k hk m hm, rfl⟩

/-- A clause without lists has the statements that it had. -/
theorem clauseBody_flattened {n : Node} (hn : n.ListsFlat) (hclause : n.label.isClause) :
    n.flattened.clauseBody = n.clauseBody.map flattened := by
  have hnamed : ∀ {m : Node}, m.ListsFlat → m.label = .statementList → m.head.named :=
    fun hm hlabel => (hm _ (mem_nodes_self _) hlabel).1
  have hkids := hereditary_listsFlat n hn
  rw [clauseBody_eq fun c hc => hnamed (hkids c hc), clauseBody_eq,
    children_flattened_of_clause hclause, afterColon_flattenedIn, statementsIn_flattenedIn]
  · exact fun c hc => hkids c (mem_of_mem_afterColon hc)
  · intro c hc hlabel
    obtain ⟨m, hm, rfl⟩ := mem_children_flattened hn hc
    rw [label_flattened] at hlabel
    rw [head_flattened]
    exact hnamed hm hlabel

/-! ## The parts of a node -/

/-- A statement list that gives way leaves its outline behind. -/
theorem ofNodes_unwrapped {n : Node} (hn : n.ListsFlat)
    (houtline : ∀ m ∈ n.nodes, Outline.ofNode m.flattened = Outline.ofNode m) (unwraps : Bool) :
    Outline.ofNodes ((n.unwrapped unwraps).filter (·.head.named))
      = Outline.ofNodes ([n].filter (·.head.named)) := by
  have hstays := houtline n n.mem_nodes_self
  unfold unwrapped
  split
  · rename_i hlist
    have hlabel : n.label = .statementList := by simp_all
    have hnamed := (hn n n.mem_nodes_self hlabel).1
    have hplain : n.label.isConstruct = false := by rw [hlabel]; rfl
    rw [Outline.ofNodes_filter_cons, hnamed, ← hstays,
      Outline.ofNode_other (by rwa [label_flattened]), named, children_flattened_of_list hlabel]
    simp
  · rw [Outline.ofNodes_filter_cons, Outline.ofNodes_filter_cons, head_flattened, hstays]

/-- Flattening keeps what the walk picks from a node. -/
theorem ListsFlat.keeps {n : Node} (hn : n.ListsFlat) : Outline.Keeps flattened n := by
  have hkids := hereditary_listsFlat n hn
  -- lists give way in blocks and clauses only, and these are no constructs
  have hother : n.label.isConstruct → n.flattened.children = n.children.map flattened := by
    intro hconstruct
    apply children_flattened_of_other <;>
      cases hl : n.label <;>
      simp_all [Label.isConstruct, Label.isClause, Label.isFunction, Label.choice?]
  have hfilter : n.label.isConstruct → ∀ p : Node → Bool, (∀ m, p m.flattened = p m) →
      n.flattened.children.filter p = (n.children.filter p).map flattened := by
    intro hconstruct p hp
    rw [hother hconstruct, List.filter_map]
    exact congrArg (List.map flattened) (List.filter_congr fun c _ => hp c)
  constructor
  case head_eq => exact n.head_flattened
  case statements =>
    rw [statements, children_flattened, statementsIn_flattenedIn hkids, statements]
  case clauseBody => exact clauseBody_flattened hn
  case child? =>
    intro hconstruct f
    rw [child?, ← List.head?_filter, hfilter hconstruct, List.head?_map, List.head?_filter, child?]
    intro m
    rw [head_flattened]
  case headerParts =>
    exact fun hconstruct => hfilter hconstruct _ fun m => by simp [Outline.isHeaderPart]
  case clauses => exact fun hconstruct => hfilter hconstruct _ fun m => by simp [isClause]
  case named =>
    intro houtline
    rw [named, children_flattened]
    refine @flattenedIn_hom Item (fun ns => Outline.ofNodes (ns.filter (·.head.named)))
      (fun ns => Outline.ofNodes (ns.filter (·.head.named))) n.children rfl
      (fun c hc u as rest hrest => ?_) _ _
    have hbelow : ∀ m ∈ c.nodes, Outline.ofNode m.flattened = Outline.ofNode m :=
      fun m hm => houtline m (mem_nodesIn.2 ⟨c, hc, hm⟩)
    rw [List.filter_append, Outline.ofNodes_append, ofNodes_unwrapped (hkids c hc) hbelow, hrest,
      Outline.ofNodes_filter_cons, Outline.ofNodes_filter_cons]
    simp

/-! ## What flattening does to the tree -/

/-- The heads of the nodes other than statement lists, in the order of the tree. -/
def plainHeads (ns : List Node) : List Head :=
  (ns.map head).filter (·.label != .statementList)

theorem plainHeads_append (ns ms : List Node) :
    plainHeads (ns ++ ms) = plainHeads ns ++ plainHeads ms := by
  rw [plainHeads, List.map_append, List.filter_append, plainHeads, plainHeads]

theorem plainHeads_nodes (n : Node) :
    plainHeads n.nodes = plainHeads [n] ++ plainHeads (nodesIn n.children) := by
  obtain ⟨head, kids⟩ := n
  rw [nodes, ← plainHeads_append]
  rfl

theorem nodesIn_append (ns ms : List Node) : nodesIn (ns ++ ms) = nodesIn ns ++ nodesIn ms := by
  induction ns with
  | nil => rw [nodesIn]; rfl
  | cons n rest ih => rw [List.cons_append, nodesIn, ih, nodesIn, List.append_assoc]

/-- Only statement lists are lost, and the other nodes keep their order. -/
theorem plainHeads_flattened (n : Node) : plainHeads n.flattened.nodes = plainHeads n.nodes := by
  induction hsize : sizeOf n using Nat.strongRecOn generalizing n with
  | ind _ ih =>
    subst hsize
    have hunwrapped : ∀ c ∈ n.children, ∀ u,
        plainHeads (nodesIn (c.unwrapped u)) = plainHeads c.nodes := by
      intro c hc u
      rw [← ih _ (sizeOf_lt_of_mem hc) c rfl, unwrapped]
      split
      · rename_i hlist
        have hlabel : c.label = .statementList := by simp_all
        have hlost : plainHeads [c.flattened] = [] := by
          simp [plainHeads, show c.head.label = .statementList from hlabel]
        rw [plainHeads_nodes, hlost, children_flattened_of_list hlabel]
        rfl
      · simp [nodesIn]
    have hkids := @flattenedIn_hom Head (fun ns => plainHeads (nodesIn ns))
      (fun ns => plainHeads (nodesIn ns)) n.children rfl
      (fun c hc u as rest hrest => by
        rw [nodesIn_append, plainHeads_append, hunwrapped c hc, hrest, ← plainHeads_append,
          nodesIn])
      n.label.isClause (n.label == .block)
    rw [plainHeads_nodes, plainHeads_nodes n, children_flattened, hkids]
    simp [plainHeads]

/-- Where lists give way, none is left. -/
theorem label_ne_of_mem_flattenedIn {clause : Bool} {ns : List Node} {c : Node}
    (hns : ∀ n ∈ ns, n.ListsFlat) (hc : c ∈ flattenedIn clause true ns) :
    c.label ≠ .statementList := by
  obtain ⟨n, hn, u, hu, hc⟩ := mem_flattenedIn hc
  rw [hu rfl, unwrapped] at hc
  split at hc
  · rename_i hlist
    have hlabel : n.label = .statementList := by simp_all
    obtain ⟨m, hm, rfl⟩ := List.mem_map.1 hc
    rw [label_flattened]
    exact (hns n hn n n.mem_nodes_self hlabel).2 m hm
  · rename_i hother
    rw [List.mem_singleton.1 hc, label_flattened]
    simpa using hother

/-- No statement list stands directly in a block, or behind the colon of a clause. -/
def Unwrapped (root : Node) : Prop :=
  ∀ n ∈ root.nodes, (n.label = .block → ∀ c ∈ n.children, c.label ≠ .statementList) ∧
    (n.label.isClause → ∀ c ∈ afterColon n.children, c.label ≠ .statementList)

/-- **After flattening, no list is left** where statements are looked for. -/
theorem ListsFlat.unwrapped {root : Node} (hroot : root.ListsFlat) :
    root.flattened.Unwrapped := by
  have hdown : Hereditary fun n => ∃ m : Node, m.ListsFlat ∧ n = m.flattened := by
    rintro _ ⟨m, hm, rfl⟩ c hc
    exact mem_children_flattened hm hc
  intro n hn
  obtain ⟨m, hm, rfl⟩ := hdown.nodes ⟨root, hroot, rfl⟩ hn
  have hkids := hereditary_listsFlat m hm
  rw [label_flattened]
  constructor
  · intro hlabel c hc
    rw [children_flattened, hlabel] at hc
    exact label_ne_of_mem_flattenedIn hkids hc
  · intro hclause c hc
    rw [children_flattened_of_clause hclause, afterColon_flattenedIn] at hc
    exact label_ne_of_mem_flattenedIn (fun k hk => hkids k (mem_of_mem_afterColon hk)) hc

end Node

/-- **The build does not depend on statement lists.** Where the statement lists of a tree are named
and none holds another, letting those of blocks and those behind the colon of a clause give way to
their children, all other nodes staying as they are, leaves the build unchanged. -/
theorem build_flattened {ε : Type} {decode : List UInt8 → Except ε String} {root : Node}
    (hroot : root.ListsFlat) (start : Graph) :
    root.flattened.Unwrapped ∧
      Node.plainHeads root.flattened.nodes = Node.plainHeads root.nodes ∧
      build decode root.flattened start = build decode root start :=
  ⟨hroot.unwrapped, root.plainHeads_flattened,
    build_of_keeps Node.hereditary_listsFlat (fun _ hn => hn.keeps) hroot start⟩

/-- Statement lists in the body of a function, behind the colon of a clause and in front of one. -/
def wrappedTree : Node :=
  .mk { label := .other "source_file", span := { startRow := 0, endRow := 8 } } [
    .mk { label := .functionDeclaration, span := { startRow := 0, endRow := 8 } } [
      .mk { label := .block, span := { startRow := 0, endRow := 8 }, field := some .body } [
        .mk { label := .statementList, span := { startRow := 1, endRow := 7 } } [
          .mk { label := .selectStatement, span := { startRow := 1, endRow := 6 } } [
            .mk { label := .communicationCase, span := { startRow := 2, endRow := 4 } } [
              .mk { label := .statementList, span := { startRow := 2, endRow := 2 } } [],
              .mk { label := .colon, span := { startRow := 2, endRow := 2 }, named := false } [],
              .mk { label := .statementList, span := { startRow := 3, endRow := 4 } } [
                .mk { label := .goStatement, span := { startRow := 3, endRow := 3 } } [],
                .mk { label := .comment, span := { startRow := 4, endRow := 4 } } []]],
            .mk { label := .defaultCase, span := { startRow := 5, endRow := 5 } } [
              .mk { label := .colon, span := { startRow := 5, endRow := 5 }, named := false } []]],
          .mk { label := .goStatement, span := { startRow := 7, endRow := 7 } } []]]]]

/-- A small file with lists in a body and in a clause, and one that stands elsewhere and stays. -/
theorem build_flattened_wrappedTree :
    wrappedTree.ListsFlat ∧ wrappedTree.nodes.countP (·.label = .statementList) = 3 ∧
      wrappedTree.flattened.nodes.countP (·.label = .statementList) = 1 ∧
      (wrappedTree.flattened.Unwrapped ∧
        Node.plainHeads wrappedTree.flattened.nodes = Node.plainHeads wrappedTree.nodes ∧
        build (fun _ => (.ok "" : Except Empty String)) wrappedTree.flattened {}
          = build (fun _ => .ok "") wrappedTree {}) ∧
      ∃ b, build (fun _ => (.ok "" : Except Empty String)) wrappedTree {} = .ok b ∧
        b.listing = [.line 1, .line 2, .line 4, .line 6, .line 8, .line 9] := by
  have hflat : wrappedTree.ListsFlat := by
    unfold Node.ListsFlat
    decide
  exact ⟨hflat, by decide, by decide, build_flattened hflat {}, _, rfl, by decide⟩

end GoFlow
