import GoFlow.Proofs.Rewriting

/-!
# Comments

The walk steps over comments wherever it picks parts of a node, and finds nothing inside them. So
the graph of a tree is that of the tree without its comments.

- `Node.withoutComments`: the tree without its comments, which the build does not tell apart from
  the tree.
-/

namespace GoFlow

/-- Nodes without an outline can be left out of a row. -/
theorem Outline.ofNodes_filter_of_nil {p : Node → Bool} {ns : List Node}
    (h : ∀ n ∈ ns, p n = false → ofNode n = []) : ofNodes (ns.filter p) = ofNodes ns := by
  induction ns with
  | nil => rfl
  | cons n rest ih =>
    have ih := ih fun m hm => h m (List.mem_cons_of_mem n hm)
    rw [ofNodes_filter_cons, ih, ofNodes_cons]
    cases hp : p n with
    | true => rfl
    | false => rw [h n List.mem_cons_self hp]; rfl

namespace Node

mutual

/-- The tree without the comments below its root. All other nodes stay as they are. -/
def withoutComments : Node → Node
  | .mk head kids => .mk head (withoutCommentsIn kids)

/-- A row of trees without their comments. -/
def withoutCommentsIn : List Node → List Node
  | [] => []
  | n :: rest =>
    if n.label == .comment then withoutCommentsIn rest
    else n.withoutComments :: withoutCommentsIn rest

end

/-- The comments of the tree have nothing inside, and are held under no field. -/
def CommentsBare (root : Node) : Prop :=
  ∀ n ∈ root.nodes, n.label = .comment → n.children.isEmpty ∧ n.head.field = none

/-- What is asked of the comments of a tree holds of those of its parts. -/
theorem hereditary_commentsBare : Hereditary CommentsBare :=
  fun _ hn _ hc m hm => hn m (mem_nodes_of_child hc hm)

@[simp] theorem head_withoutComments (n : Node) : n.withoutComments.head = n.head := by
  obtain ⟨head, kids⟩ := n
  rw [withoutComments]
  rfl

@[simp] theorem label_withoutComments (n : Node) : n.withoutComments.label = n.label :=
  congrArg Head.label n.head_withoutComments

/-- Dropping comments is a filter on each row of children. -/
theorem withoutCommentsIn_eq (ns : List Node) :
    withoutCommentsIn ns = (ns.filter (·.label != .comment)).map withoutComments := by
  induction ns with
  | nil => rw [withoutCommentsIn]; rfl
  | cons n rest ih =>
    rw [withoutCommentsIn]
    by_cases hn : n.label = .comment
    · simp [hn, ih]
    · simp [hn, ih]

theorem children_withoutComments (n : Node) :
    n.withoutComments.children = (n.children.filter (·.label != .comment)).map withoutComments := by
  obtain ⟨head, kids⟩ := n
  rw [withoutComments]
  exact withoutCommentsIn_eq kids

/-- What is picked by the head, and is never a comment, is picked as before. -/
theorem filter_withoutComments {p : Node → Bool} {ns : List Node}
    (hhead : ∀ n ∈ ns, p n.withoutComments = p n)
    (hcomment : ∀ n ∈ ns, n.label = .comment → p n = false) :
    ((ns.filter (·.label != .comment)).map withoutComments).filter p
      = (ns.filter p).map withoutComments := by
  rw [List.filter_map, List.filter_filter]
  refine congrArg (List.map withoutComments) (List.filter_congr fun n hn => ?_)
  by_cases hlabel : n.label = .comment
  · simp [hlabel, hcomment n hn hlabel]
  · simp [hlabel, hhead n hn]

/-- What the nodes of a row give, where comments give nothing. -/
theorem flatMap_withoutComments {g : Node → List Node} {ns : List Node}
    (hg : ∀ n ∈ ns, g n.withoutComments = (g n).map withoutComments)
    (hcomment : ∀ n ∈ ns, n.label = .comment → g n = []) :
    ((ns.filter (·.label != .comment)).map withoutComments).flatMap g
      = (ns.flatMap g).map withoutComments := by
  induction ns with
  | nil => rfl
  | cons n rest ih =>
    have ih := ih (fun m hm => hg m (List.mem_cons_of_mem n hm))
      fun m hm => hcomment m (List.mem_cons_of_mem n hm)
    by_cases hn : n.label = .comment
    · simpa [hn, hcomment n List.mem_cons_self hn] using ih
    · simpa [hn, hg n List.mem_cons_self] using ih

@[simp] theorem isStatement_withoutComments (n : Node) :
    n.withoutComments.isStatement = n.isStatement := by
  rw [isStatement, head_withoutComments, label_withoutComments, isStatement]

/-- Comments are no statements, so that a row keeps all of its statements. -/
theorem filter_isStatement_withoutComments (ns : List Node) :
    ((ns.filter (·.label != .comment)).map withoutComments).filter isStatement
      = (ns.filter isStatement).map withoutComments := by
  refine filter_withoutComments (fun n _ => n.isStatement_withoutComments) fun n _ hlabel => ?_
  simp [isStatement, hlabel]

/-- A comment is no colon: the first one stays where it was. -/
theorem afterColon_withoutComments (ns : List Node) :
    afterColon ((ns.filter (·.label != .comment)).map withoutComments)
      = ((afterColon ns).filter (·.label != .comment)).map withoutComments := by
  induction ns with
  | nil => rfl
  | cons n rest ih =>
    unfold afterColon at ih ⊢
    by_cases hcolon : n.label = .colon
    · simp [hcolon]
    · by_cases hcomment : n.label = .comment
      · simpa [hcomment] using ih
      · simpa [hcolon, hcomment] using ih

/-- Without its comments, a node has the same statements. -/
theorem statements_withoutComments (n : Node) :
    n.withoutComments.statements = n.statements.map withoutComments := by
  rw [statements, children_withoutComments, statementsIn, flatMap_withoutComments]
  · rfl
  · intro c _
    rw [head_withoutComments, label_withoutComments, children_withoutComments,
      filter_isStatement_withoutComments, isStatement_withoutComments]
    split
    · rfl
    · split <;> rfl
  · intro c _ hlabel
    simp [isStatement, hlabel]

/-- So has a clause. -/
theorem clauseBody_withoutComments (n : Node) :
    n.withoutComments.clauseBody = n.clauseBody.map withoutComments := by
  rw [clauseBody, children_withoutComments, afterColon_withoutComments, flatMap_withoutComments]
  · rfl
  · intro c _
    rw [label_withoutComments, children_withoutComments, filter_isStatement_withoutComments,
      isStatement_withoutComments]
    split
    · rfl
    · split <;> rfl
  · intro c _ hlabel
    simp [isStatement, hlabel]

/-- A comment without anything inside leaves no trace in the outline. -/
theorem ofNode_comment {n : Node} (hlabel : n.label = .comment) (hempty : n.children.isEmpty) :
    Outline.ofNode n = [] := by
  rw [Outline.ofNode_other (by rw [hlabel]; rfl), named, List.isEmpty_iff.1 hempty]
  rfl

mutual

/-- The nodes that stay are those that are no comments, in the order of the tree. -/
theorem heads_withoutComments : ∀ {n : Node}, n.CommentsBare → n.label ≠ .comment →
    n.withoutComments.nodes.map head
      = (n.nodes.map head).filter (·.label != .comment)
  | .mk head kids, hn, hlabel => by
    have hkept : (head.label != .comment) = true := bne_iff_ne.2 hlabel
    have hkids : (nodesIn (withoutCommentsIn kids)).map Node.head
        = ((nodesIn kids).map Node.head).filter (·.label != .comment) :=
      heads_withoutCommentsIn (hereditary_commentsBare _ hn)
    rw [withoutComments, nodes, nodes, List.map_cons, List.map_cons,
      List.filter_cons_of_pos (by exact hkept), hkids]
    rfl

/-- In a row, nothing but the comments is gone. -/
theorem heads_withoutCommentsIn : ∀ {ns : List Node}, (∀ n ∈ ns, n.CommentsBare) →
    (nodesIn (withoutCommentsIn ns)).map head
      = ((nodesIn ns).map head).filter (·.label != .comment)
  | [], _ => by simp [withoutCommentsIn, nodesIn]
  | n :: rest, hns => by
    have hn := hns n List.mem_cons_self
    have hrest := heads_withoutCommentsIn fun m hm => hns m (List.mem_cons_of_mem n hm)
    rw [withoutCommentsIn, nodesIn, List.map_append, List.filter_append, ← hrest]
    by_cases hlabel : n.label = .comment
    · have hempty := List.isEmpty_iff.1 (hn n n.mem_nodes_self hlabel).1
      have hnodes : n.nodes = [n] := by
        obtain ⟨head, kids⟩ := n
        rw [nodes, show kids = [] from hempty, nodesIn]
      simp [hlabel, hnodes, show n.head.label = .comment from hlabel]
    · rw [if_neg (by simpa using hlabel), nodesIn, List.map_append,
        heads_withoutComments hn hlabel]

end

/-- Deleting comments keeps what the walk picks from a node. -/
theorem CommentsBare.keeps {n : Node} (hn : n.CommentsBare) :
    Outline.Keeps withoutComments n := by
  have hfilter : ∀ p : Node → Bool, (∀ m, p m.withoutComments = p m) →
      (∀ c ∈ n.children, c.label = .comment → p c = false) →
      n.withoutComments.children.filter p = (n.children.filter p).map withoutComments := by
    intro p hhead hcomment
    rw [children_withoutComments, filter_withoutComments (fun m _ => hhead m) hcomment]
  have hbare : ∀ c ∈ n.children, c.label = .comment → c.children.isEmpty ∧ c.head.field = none :=
    fun c hc => hn c (mem_nodes_of_child hc c.mem_nodes_self)
  constructor
  case head_eq => exact n.head_withoutComments
  case statements => exact n.statements_withoutComments
  case clauseBody => exact fun _ => n.clauseBody_withoutComments
  case child? =>
    intro _ f
    rw [child?, ← List.head?_filter, hfilter, List.head?_map, List.head?_filter, child?]
    · intro m
      rw [head_withoutComments]
    · intro c hc hlabel
      rw [(hbare c hc hlabel).2]
      rfl
  case headerParts =>
    intro _
    refine hfilter _ (fun m => ?_) fun c _ hlabel => ?_
    · simp [Outline.isHeaderPart]
    · simp [Outline.isHeaderPart, isStatement, hlabel]
  case clauses =>
    intro _
    refine hfilter _ (fun m => ?_) fun c _ hlabel => ?_
    · simp [isClause]
    · simp [isClause, Label.isClause, hlabel]
  case named =>
    -- comments are named, but there is nothing to walk inside them
    intro houtline
    have hswap : n.withoutComments.named
        = (n.named.filter (·.label != .comment)).map withoutComments := by
      rw [named, children_withoutComments, List.filter_map, named, List.filter_filter,
        List.filter_filter]
      simp [Bool.and_comm]
    have hsub : ∀ c ∈ n.named, c ∈ n.children := fun c hc => (List.mem_filter.1 hc).1
    rw [hswap, Outline.ofNodes_map, Outline.ofNodes_filter_of_nil]
    · intro c hc hcomment
      have hlabel : c.label = .comment := by simpa using hcomment
      exact ofNode_comment hlabel (hbare c (hsub c hc) hlabel).1
    · intro c hc
      exact houtline c (mem_nodesIn_of_mem (hsub c (List.mem_filter.1 hc).1))

end Node

/-- **Comments do not influence the graph.** Where the comments of a tree have nothing inside and
are held under no field, deleting them all, and nothing else, leaves the build as it is. -/
theorem build_withoutComments {ε : Type} {decode : List UInt8 → Except ε String} {root : Node}
    (hroot : root.CommentsBare) (start : Graph) :
    (Node.nodesIn root.withoutComments.children).map Node.head
        = ((Node.nodesIn root.children).map Node.head).filter (·.label != .comment) ∧
      build decode root.withoutComments start = build decode root start := by
  have hkept := Node.heads_withoutCommentsIn (Node.hereditary_commentsBare _ hroot)
  rw [Node.children_withoutComments, ← Node.withoutCommentsIn_eq]
  exact ⟨hkept, build_of_keeps Node.hereditary_commentsBare (fun _ hn => hn.keeps) hroot start⟩

/-- Comments above a function, in its body, in the header of a switch, in front of the colon of a
clause and behind its last statement. -/
def remarkedTree : Node :=
  .mk { label := .other "source_file", span := { startRow := 0, endRow := 9 } } [
    .mk { label := .comment, span := { startRow := 0, endRow := 0 } } [],
    .mk { label := .functionDeclaration, span := { startRow := 1, endRow := 9 } } [
      .mk { label := .block, span := { startRow := 1, endRow := 9 }, field := some .body } [
        .mk { label := .comment, span := { startRow := 2, endRow := 2 } } [],
        .mk { label := .statementList, span := { startRow := 3, endRow := 8 } } [
          .mk { label := .expressionSwitch, span := { startRow := 3, endRow := 7 } } [
            .mk { label := .comment, span := { startRow := 3, endRow := 3 } } [],
            .mk { label := .expressionCase, span := { startRow := 4, endRow := 6 } } [
              .mk { label := .comment, span := { startRow := 4, endRow := 4 } } [],
              .mk { label := .colon, span := { startRow := 4, endRow := 4 }, named := false } [],
              .mk { label := .goStatement, span := { startRow := 5, endRow := 5 } } [],
              .mk { label := .comment, span := { startRow := 6, endRow := 6 } } []]],
          .mk { label := .comment, span := { startRow := 8, endRow := 8 } } []]]]]

/-- A small file with a comment in every place where one may stand. -/
theorem build_withoutComments_remarkedTree :
    remarkedTree.CommentsBare ∧ remarkedTree.nodes.countP (·.label = .comment) = 6 ∧
      ((Node.nodesIn remarkedTree.withoutComments.children).map Node.head
          = ((Node.nodesIn remarkedTree.children).map Node.head).filter (·.label != .comment) ∧
        build (fun _ => (.ok "" : Except Empty String)) remarkedTree.withoutComments {}
          = build (fun _ => .ok "") remarkedTree {}) ∧
      ∃ b, build (fun _ => (.ok "" : Except Empty String)) remarkedTree {} = .ok b ∧
        b.listing = [.line 2, .line 4, .line 6, .line 10] := by
  have hbare : remarkedTree.CommentsBare := by
    unfold Node.CommentsBare
    decide
  exact ⟨hbare, by decide, build_withoutComments hbare {}, _, rfl, by decide⟩

end GoFlow
