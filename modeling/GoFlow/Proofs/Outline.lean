import GoFlow.Outline

/-!
# Outlines, node by node

The outline of a row of nodes is the outlines of those nodes that the walk picks from it, one after
the other. `Outline.inside_eq` and its companions say which nodes these are, so that
`Outline.ofNode` can be read as a plain recursion over nodes, one equation for each label.
-/

namespace GoFlow

namespace Label

/-- Whether the rule declares a function or a method. -/
def isFunction : Label → Bool
  | .functionDeclaration | .methodDeclaration => true
  | _ => false

/-- The statement of the rule that picks one of several clauses. -/
def choice? : Label → Option Choice
  | .expressionSwitch => some .onValue
  | .typeSwitch => some .onType
  | .selectStatement => some .onComm
  | _ => none

/-- Whether the walk reacts to the rule with blocks of its own. -/
def isConstruct : Label → Bool
  | .returnStatement | .goStatement | .ifStatement | .forStatement => true
  | l => l.isFunction || l.choice?.isSome

/-- The rules that the walk tells apart. -/
theorem construct_cases (l : Label) :
    l.isConstruct = false ∨ l.isFunction ∨ l = .returnStatement ∨ l = .goStatement ∨
      l = .ifStatement ∨ l = .forStatement ∨ ∃ form, l.choice? = some form := by
  cases l <;> simp [isConstruct, isFunction, choice?]

theorem isConstruct_of_isFunction {l : Label} (h : l.isFunction) : l.isConstruct := by
  cases l <;> first | rfl | cases h

theorem isConstruct_of_choice {l : Label} {form : Choice} (h : l.choice? = some form) :
    l.isConstruct := by
  cases l <;> first | rfl | cases h

theorem isFunction_of_not_construct {l : Label} (h : l.isConstruct = false) :
    l.isFunction = false := by
  cases l <;> first | rfl | cases h

theorem isFunction_of_choice {l : Label} {form : Choice} (h : l.choice? = some form) :
    l.isFunction = false := by
  cases l <;> first | rfl | cases h

theorem choice?_of_isFunction {l : Label} (h : l.isFunction) : l.choice? = none := by
  cases l <;> first | rfl | cases h

end Label

namespace Node

/-- The statements of the first child held under the field. -/
def statementsUnder (n : Node) (f : Field) : List Node := statementsOf (n.child? f)

/-- What is inside the first child held under the field. -/
def namedUnder (n : Node) (f : Field) : List Node := (n.child? f).elim [] named

/-- The parts of a loop, switch or select that are walked before its block is registered. -/
def headerParts (n : Node) : List Node := n.children.filter Outline.isHeaderPart

/-- Whether the node is a clause to the walk. -/
def isClause (n : Node) : Bool := n.head.named && n.label.isClause

/-- The clauses of a switch or select. -/
def clauses (n : Node) : List Node := n.children.filter isClause

/-- Whether the parent holds the node under the field. -/
def isUnder (f : Field) (n : Node) : Bool := n.head.field == some f

theorem child?_mem {n c : Node} {f : Field} (h : n.child? f = some c) : c ∈ n.children :=
  List.mem_of_find?_eq_some h

/-- A statement of a block is a child of the block, or of a statement list in it. -/
theorem mem_statements {n s : Node} (h : s ∈ n.statements) :
    s ∈ n.children ∨ ∃ c ∈ n.children, c.label = .statementList ∧ s ∈ c.children := by
  obtain ⟨c, hc, hs⟩ := List.mem_flatMap.1 h
  split at hs
  · rename_i hlist
    simp only [Bool.and_eq_true, beq_iff_eq] at hlist
    exact .inr ⟨c, hc, hlist.2, (List.mem_filter.1 hs).1⟩
  · split at hs
    · exact .inl (List.mem_singleton.1 hs ▸ hc)
    · cases hs

/-- So is a statement of a clause. -/
theorem mem_clauseBody {n s : Node} (h : s ∈ n.clauseBody) :
    s ∈ n.children ∨ ∃ c ∈ n.children, c.label = .statementList ∧ s ∈ c.children := by
  obtain ⟨c, hc, hs⟩ := List.mem_flatMap.1 h
  have hc : c ∈ n.children := (List.dropWhile_sublist _).mem (List.mem_of_mem_tail hc)
  split at hs
  · rename_i hlist
    exact .inr ⟨c, hc, beq_iff_eq.1 hlist, (List.mem_filter.1 hs).1⟩
  · split at hs
    · exact .inl (List.mem_singleton.1 hs ▸ hc)
    · cases hs

/-- A statement under a field is one of the child held there. -/
theorem mem_statementsUnder {n s : Node} {f : Field} (h : s ∈ n.statementsUnder f) :
    ∃ c, n.child? f = some c ∧ s ∈ c.statements := by
  unfold statementsUnder at h
  cases hc : n.child? f with
  | none => rw [hc] at h; cases h
  | some c => rw [hc] at h; exact ⟨c, rfl, h⟩

/-- What is inside a field is a child of the child held there. -/
theorem mem_namedUnder {n s : Node} {f : Field} (h : s ∈ n.namedUnder f) :
    ∃ c, n.child? f = some c ∧ s ∈ c.children := by
  unfold namedUnder at h
  cases hc : n.child? f with
  | none => rw [hc] at h; cases h
  | some c => rw [hc] at h; exact ⟨c, rfl, (List.mem_filter.1 h).1⟩

/-! ## Parts are smaller -/

theorem sizeOf_lt_of_mem {n c : Node} (h : c ∈ n.children) : sizeOf c < sizeOf n := by
  obtain ⟨head, kids⟩ := n
  have := List.sizeOf_lt_of_mem (show c ∈ kids from h)
  rw [Node.mk.sizeOf_spec]
  omega

/-- A statement is smaller than what it is a statement of, also if a list holds it. -/
theorem sizeOf_lt_of_mem_list {n s : Node}
    (h : s ∈ n.children ∨ ∃ c ∈ n.children, c.label = .statementList ∧ s ∈ c.children) :
    sizeOf s < sizeOf n := by
  rcases h with h | ⟨c, hc, -, hs⟩
  · exact sizeOf_lt_of_mem h
  · exact Nat.lt_trans (sizeOf_lt_of_mem hs) (sizeOf_lt_of_mem hc)

end Node

namespace Outline

/-- The outline of a row of nodes. -/
def ofNodes (ns : List Node) : List Item := ns.flatMap ofNode

/-- The outline of a clause of a switch or select. -/
def ofClause (form : Choice) (k : Node) : Clause :=
  .mk (clauseEntry form k).1 (clauseEntry form k).2 (ofNodes k.clauseBody)

@[simp] theorem ofNodes_nil : ofNodes [] = [] := rfl

@[simp] theorem ofNodes_cons (n : Node) (ns : List Node) :
    ofNodes (n :: ns) = ofNode n ++ ofNodes ns := List.flatMap_cons

@[simp] theorem ofNodes_append (ns ms : List Node) :
    ofNodes (ns ++ ms) = ofNodes ns ++ ofNodes ms := List.flatMap_append

/-- A row of nodes of which some are passed over. -/
theorem ofNodes_filter_cons (p : Node → Bool) (n : Node) (ns : List Node) :
    ofNodes ((n :: ns).filter p) = (if p n then ofNode n else []) ++ ofNodes (ns.filter p) := by
  by_cases hp : p n
  · rw [List.filter_cons_of_pos hp, if_pos hp, ofNodes_cons]
  · rw [List.filter_cons_of_neg hp, if_neg hp]
    rfl

/-- **Outlines of rows are outlines of filtered rows**, so that it does not matter where a recursion
on children skips a child. -/
theorem inside_eq : ∀ kids : List Node, inside kids = ofNodes (kids.filter (·.head.named))
  | [] => by simp [inside]
  | n :: rest => by rw [inside, ofNodes_filter_cons, inside_eq rest]

theorem listed_eq : ∀ kids : List Node, listed kids = ofNodes (kids.filter Node.isStatement)
  | [] => by simp [listed]
  | n :: rest => by rw [listed, ofNodes_filter_cons, listed_eq rest]

theorem headerOf_eq : ∀ kids : List Node, headerOf kids = ofNodes (kids.filter isHeaderPart)
  | [] => by simp [headerOf]
  | n :: rest => by rw [headerOf, ofNodes_filter_cons, headerOf_eq rest]

/-- One member of a row of statements: a statement list gives way to its own statements. -/
theorem ofNodes_unwrap (head : Head) (kids : List Node) (isList isStatement : Bool) :
    (if isList then listed kids else if isStatement then ofNode (.mk head kids) else [])
      = ofNodes (if isList then kids.filter Node.isStatement
          else if isStatement then [.mk head kids] else []) := by
  cases isList with
  | true => exact listed_eq kids
  | false => cases isStatement <;> simp

/-- The statements of a body are those of the row once lists have given way to what they hold. -/
theorem statementsOf_eq : ∀ kids : List Node, statementsOf kids = ofNodes (Node.statementsIn kids)
  | [] => by simp [statementsOf, Node.statementsIn]
  | .mk head kids :: rest => by
    rw [statementsOf, statementsOf_eq rest, ofNodes_unwrap, ← ofNodes_append]
    rfl

theorem clauseStatements_eq : ∀ kids : List Node,
    clauseStatements kids = ofNodes (kids.flatMap fun c =>
      if c.label == .statementList then c.children.filter Node.isStatement
      else if c.isStatement then [c]
      else [])
  | [] => by simp [clauseStatements]
  | .mk head kids :: rest => by
    rw [clauseStatements, clauseStatements_eq rest, ofNodes_unwrap, ← ofNodes_append]
    rfl

/-- A clause starts behind its first colon. -/
theorem behindColon_eq : ∀ kids : List Node,
    behindColon kids = clauseStatements (Node.afterColon kids)
  | [] => by simp [behindColon, Node.afterColon, clauseStatements]
  | n :: rest => by
    rw [behindColon]
    by_cases hc : (n.label == .colon) = true
    · rw [if_pos hc, Node.afterColon, List.dropWhile_cons_of_neg (by simpa using hc)]
      rfl
    · rw [if_neg hc, behindColon_eq rest, Node.afterColon, Node.afterColon,
        List.dropWhile_cons_of_pos (by simpa using hc)]

theorem behindColon_eq_ofNodes (head : Head) (kids : List Node) :
    behindColon kids = ofNodes (Node.mk head kids).clauseBody := by
  rw [behindColon_eq, clauseStatements_eq]
  rfl

/-- The clauses of a row, each with its own outline. -/
theorem clausesOf_eq (form : Choice) : ∀ kids : List Node,
    clausesOf form kids
      = (kids.filter Node.isClause).map (ofClause form)
  | [] => by simp [clausesOf]
  | .mk head kids :: rest => by
    rw [clausesOf, clausesOf_eq form rest, behindColon_eq_ofNodes head]
    by_cases hc : (Node.mk head kids).isClause
    · rw [if_pos (show (head.named && head.label.isClause) = true from hc),
        List.filter_cons_of_pos hc]
      rfl
    · rw [if_neg (show ¬ (head.named && head.label.isClause) = true from hc),
        List.filter_cons_of_neg hc]

/-! ## Under a field -/

/-- A field stands for the first child that is held under it. -/
theorem statementsUnder_eq (f : Field) : ∀ kids : List Node,
    statementsUnder f kids
      = ofNodes ((kids.find? (Node.isUnder f)).elim [] Node.statements)
  | [] => by simp [statementsUnder]
  | .mk head kids :: rest => by
    rw [statementsUnder]
    by_cases hf : Node.isUnder f (.mk head kids)
    · rw [if_pos (show (head.field == some f) = true from hf), List.find?_cons_of_pos hf,
        statementsOf_eq]
      rfl
    · rw [if_neg (show ¬ (head.field == some f) = true from hf), List.find?_cons_of_neg hf,
        statementsUnder_eq f rest]

theorem insideUnder_eq (f : Field) : ∀ kids : List Node,
    insideUnder f kids = ofNodes ((kids.find? (Node.isUnder f)).elim [] Node.named)
  | [] => by simp [insideUnder]
  | .mk head kids :: rest => by
    rw [insideUnder]
    by_cases hf : Node.isUnder f (.mk head kids)
    · rw [if_pos (show (head.field == some f) = true from hf), List.find?_cons_of_pos hf, inside_eq]
      rfl
    · rw [if_neg (show ¬ (head.field == some f) = true from hf), List.find?_cons_of_neg hf,
        insideUnder_eq f rest]

theorem nodeUnder_eq (f : Field) : ∀ kids : List Node,
    nodeUnder f kids = ofNodes (kids.find? (Node.isUnder f)).toList
  | [] => by simp [nodeUnder]
  | n :: rest => by
    rw [nodeUnder]
    by_cases hf : n.isUnder f
    · rw [if_pos (show (n.head.field == some f) = true from hf), List.find?_cons_of_pos hf]
      simp
    · rw [if_neg (show ¬ (n.head.field == some f) = true from hf), List.find?_cons_of_neg hf,
        nodeUnder_eq f rest]

/-! ## One equation for each label -/

/-- A node that is no construct has the outline of what is inside it. -/
theorem ofNode_other {n : Node} (h : n.label.isConstruct = false) :
    ofNode n = ofNodes n.named := by
  obtain ⟨head, kids⟩ := n
  rw [Node.named, Node.children, ← inside_eq, ofNode]
  cases hl : head.label <;> simp_all [Node.label, Node.head, Label.isConstruct, Label.isFunction,
    Label.choice?]

/-- A declaration without a body is a prototype. -/
theorem ofNode_prototype {n : Node} (h : n.label.isFunction) (hbody : n.child? .body = none) :
    ofNode n = [.prototype (nameText n) n.startLine] := by
  obtain ⟨head, kids⟩ := n
  rw [ofNode]
  cases hl : head.label <;> simp_all [Node.label, Node.head, Label.isFunction]

/-- One with a body comes with its statements and the lines of their returns. -/
theorem ofNode_function {n body : Node} (h : n.label.isFunction)
    (hbody : n.child? .body = some body) :
    ofNode n = [.function (nameText n) n.startLine n.endLine (returnLines body)
      (ofNodes body.statements)] := by
  obtain ⟨head, kids⟩ := n
  have hkids : statementsUnder .body kids = ofNodes body.statements := by
    rw [statementsUnder_eq, show kids.find? (Node.isUnder .body) = some body from hbody]
    rfl
  rw [ofNode]
  cases hl : head.label <;> simp_all [Node.label, Node.head, Label.isFunction]

theorem ofNode_ret {n : Node} (h : n.label = .returnStatement) :
    ofNode n = [.ret n.startLine (ofNodes n.named)] := by
  obtain ⟨head, kids⟩ := n
  rw [Node.named, Node.children, ← inside_eq, ofNode, show head.label = _ from h]

theorem ofNode_spawn {n : Node} (h : n.label = .goStatement) :
    ofNode n = [.spawn n.startLine (ofNodes n.named)] := by
  obtain ⟨head, kids⟩ := n
  rw [Node.named, Node.children, ← inside_eq, ofNode, show head.label = _ from h]

/-- The consequence of an if is walked first, its header second. -/
theorem ofNode_cond {n : Node} (h : n.label = .ifStatement) :
    ofNode n = [.cond n.startLine (falsePath n).1 (falsePath n).2
      (ofNodes (n.statementsUnder .consequence))
      (ofNodes (n.namedUnder .initializer ++ n.namedUnder .condition))
      (ofNodes (n.child? .alternative).toList)] := by
  obtain ⟨head, kids⟩ := n
  rw [ofNodes_append, ofNode, show head.label = _ from h]
  simp only [statementsUnder_eq, insideUnder_eq, nodeUnder_eq]
  rfl

/-- The header of a loop is walked in front of its body. -/
theorem ofNode_loop {n : Node} (h : n.label = .forStatement) :
    ofNode n = [.loop n.startLine n.endLine (ofNodes n.headerParts)
      (ofNodes (n.statementsUnder .body))] := by
  obtain ⟨head, kids⟩ := n
  rw [ofNode, show head.label = _ from h]
  simp only [headerOf_eq, statementsUnder_eq]
  rfl

/-- The header of a switch or select is walked in front of its clauses. -/
theorem ofNode_choice {n : Node} {form : Choice} (h : n.label.choice? = some form) :
    ofNode n = [.choice form n.startLine (ofNodes n.headerParts)
      (n.clauses.map (ofClause form))] := by
  obtain ⟨head, kids⟩ := n
  rw [ofNode]
  simp only [headerOf_eq, clausesOf_eq]
  cases hl : head.label <;> simp_all [Node.label, Node.head, Label.choice?]
  all_goals
    subst h
    exact ⟨rfl, rfl⟩

end Outline

end GoFlow
