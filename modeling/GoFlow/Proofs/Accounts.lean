import GoFlow.Proofs.LoopBodies
import GoFlow.Proofs.OwedEdges

/-!
# Every block is accounted for

Whichever construct took a line over last, some node of the tree stands behind the block: a node
with the kind and the line of the block, in the declaration that the block is filed under.

- `Node.owned`: all nodes of a tree, each with the nearest declaration around it.
- `Node.Accounts`: the ways in which a node stands behind a block.
- `Node.Attributed`: the trees in which a walk enters every declaration whose statements it visits.
- `Followed`, `Ledger`: properties of nodes all the way that a walk goes, and properties of changes
  that the registrations for these nodes have.
- `Visits.tally`: all changes of a visit then have the property.
- `Visits.accounted`: a visit registers nothing but what its nodes account for.
-/

namespace GoFlow

/-- The kind of the block on the first line of a statement. -/
def Label.headKind? : Label → Option BlockKind
  | .goStatement => some .goStatement
  | .ifStatement => some .ifCondition
  | .forStatement => some .forStatement
  | l => l.choice?.map Choice.kind

theorem Label.headKind?_of_choice {l : Label} {form : Choice} (h : l.choice? = some form) :
    l.headKind? = some form.kind := by
  cases l <;> simp_all [headKind?, choice?]

theorem Label.isConstruct_of_headKind? {l : Label} {kind : BlockKind}
    (h : l.headKind? = some kind) : l.isConstruct := by
  cases l <;> simp_all [headKind?, choice?, isConstruct, isFunction]

/-- The body of a loop is no statement, so no statement starts with a block for one. -/
theorem Label.headKind?_ne_forBody {l : Label} {kind : BlockKind} (h : l.headKind? = some kind) :
    kind ≠ .forBody := by
  rintro rfl
  cases l <;> simp [headKind?, choice?, Choice.kind] at h

namespace Node

/-- The declaration that a node belongs to, inside the declaration `d`: itself if it is one. -/
def owner (d : Option Node) (n : Node) : Option Node := if n.label.isFunction then some n else d

mutual

/-- A node and all nodes below it, each with the declaration that it belongs to. -/
def ownedFrom (d : Option Node) : Node → List (Option Node × Node)
  | .mk head kids =>
    (owner d (.mk head kids), .mk head kids) :: ownedIn (owner d (.mk head kids)) kids

/-- The nodes of a row. -/
def ownedIn (d : Option Node) : List Node → List (Option Node × Node)
  | [] => []
  | n :: rest => n.ownedFrom d ++ ownedIn d rest

end

/-- All nodes of a tree, each with the nearest declaration around it, itself included. -/
def owned (root : Node) : List (Option Node × Node) := root.ownedFrom none

section

variable {d : Option Node} {n c : Node}

/-- A node that is no declaration belongs to the declaration around it. -/
theorem owner_of_plain (h : n.label.isFunction = false) : n.owner d = d := by
  simp [owner, h]

theorem owner_of_isFunction (h : n.label.isFunction) : n.owner d = some n := by
  simp [owner, h]

/-- A node is listed with the declaration it belongs to. -/
theorem mem_ownedFrom_self (d : Option Node) (n : Node) : (n.owner d, n) ∈ n.ownedFrom d := by
  obtain ⟨head, kids⟩ := n
  rw [ownedFrom]
  exact List.mem_cons_self

/-- So are the nodes of a row. -/
theorem mem_ownedIn_of_mem : ∀ {ns : List Node}, c ∈ ns → (c.owner d, c) ∈ ownedIn d ns
  | m :: rest, h => by
    rw [ownedIn, List.mem_append]
    rcases List.mem_cons.1 h with rfl | h
    · exact .inl (mem_ownedFrom_self d c)
    · exact .inr (mem_ownedIn_of_mem h)

end

mutual

/-- The children of a node belong to the same declaration, unless they are declarations. -/
theorem ownedFrom_child (d : Option Node) : ∀ (root : Node) {e : Option Node} {n c : Node},
    (e, n) ∈ root.ownedFrom d → c ∈ n.children → (c.owner e, c) ∈ root.ownedFrom d
  | .mk head kids, e, n, c, hn, hc => by
    rw [ownedFrom] at hn ⊢
    refine List.mem_cons_of_mem _ ?_
    rcases List.mem_cons.1 hn with heq | hn
    · cases heq
      exact mem_ownedIn_of_mem hc
    · exact ownedIn_child _ kids hn hc

/-- What stands below a listed node is listed with the declaration that the node belongs to. -/
theorem ownedIn_child (d : Option Node) : ∀ (ns : List Node) {e : Option Node} {n c : Node},
    (e, n) ∈ ownedIn d ns → c ∈ n.children → (c.owner e, c) ∈ ownedIn d ns
  | [], e, n, c, hn, _ => by simp [ownedIn] at hn
  | m :: rest, e, n, c, hn, hc => by
    rw [ownedIn, List.mem_append] at hn ⊢
    exact hn.imp (ownedFrom_child d m · hc) (ownedIn_child d rest · hc)

end

/-! ## Standing behind a block -/

/-- Line on which the false path of an if starts: the first of its alternative, or else the last of
its consequence. -/
def elseStart (n : Node) : Int :=
  match n.child? .alternative with
  | some a => a.startLine
  | none => ((n.child? .consequence).getD n).endLine

/-- Whether a clause is left with a block of its own, on line `l`: no return and no expression
switch is among its statements, and the last of them, or else the clause itself, ends there. -/
def ClosesOn (k : Node) (l : Int) : Prop :=
  (∀ s ∈ k.clauseBody, s.label ≠ .returnStatement ∧ s.label ≠ .expressionSwitch) ∧
    (k.clauseBody.getLast?.getD k).endLine = l

instance (k : Node) (l : Int) : Decidable (k.ClosesOn l) := inferInstanceAs (Decidable (_ ∧ _))

/-- Whether a node of the declaration `d` stands behind a block of the kind on line `l`. -/
def Accounts (d : Option Node) (n : Node) (l : Int) : BlockKind → Prop
  | .functionEntry => n.label.isFunction ∧ n.startLine = l
  | .returnStatement => n.ReturnsOn l
  | .goStatement => n.label = .goStatement ∧ n.startLine = l
  | .ifCondition => n.label = .ifStatement ∧ n.startLine = l
  | .elseCondition => n.label = .ifStatement ∧ n.elseStart = l
  | .elseBody => n.label = .ifStatement ∧ Context.elseEnd { function := d } n = l
  | .forStatement => n.label = .forStatement ∧ n.startLine = l
  | .forBody => n.label = .forStatement ∧ n.endLine = l
  | .switchStatement => (n.label = .expressionSwitch ∨ n.label = .typeSwitch) ∧ n.startLine = l
  | .selectStatement => n.label = .selectStatement ∧ n.startLine = l
  | .caseClause => (n.label = .expressionSwitch ∨ n.label = .typeSwitch) ∧
      ∃ k ∈ n.clauses, k.ClosesOn l
  | .commClause => n.label = .selectStatement ∧ ∃ k ∈ n.clauses, k.ClosesOn l
  | .start | .exit | .unknown => False

instance (d : Option Node) (n : Node) (l : Int) : ∀ kind, Decidable (n.Accounts d l kind)
  | .functionEntry | .goStatement | .ifCondition | .elseCondition | .elseBody | .forStatement
  | .forBody | .switchStatement | .selectStatement | .caseClause | .commClause =>
    inferInstanceAs (Decidable (_ ∧ _))
  | .returnStatement => inferInstanceAs (Decidable (n.ReturnsOn l))
  | .start | .exit | .unknown => inferInstanceAs (Decidable False)

/-- The outline reads the same line. -/
theorem elseStart_eq (n : Node) : (Outline.falsePath n).1 = n.elseStart := by
  rw [Outline.falsePath, elseStart]
  cases n.child? .alternative <;> rfl

/-- The block on the first line of a statement. -/
theorem accounts_head {n : Node} {kind : BlockKind} (h : n.label.headKind? = some kind)
    (d : Option Node) : n.Accounts d n.startLine kind := by
  cases label : n.label <;> simp [label, Label.headKind?, Label.choice?, Choice.kind] at h <;>
    subst h <;> simp [Accounts, label]

/-- The block of a clause: a statement of the clause lends its kind, or else the switch or select
stands behind it. -/
theorem accounts_clause {n k : Node} {form : Choice} (h : n.label.choice? = some form)
    (hk : k ∈ n.clauses) (d : Option Node) :
    n.Accounts d (Outline.clauseEntry form k).1 (Outline.clauseEntry form k).2 ∨
      ∃ s ∈ k.clauseBody, s.label.isFunction = false ∧
        s.Accounts d (Outline.clauseEntry form k).1 (Outline.clauseEntry form k).2 := by
  unfold Outline.clauseEntry
  split
  · rename_i entry hfind
    obtain ⟨s, hs, hentry⟩ := List.exists_of_findSome?_eq_some hfind
    obtain ⟨kind, hkind, rfl⟩ := Option.map_eq_some_iff.1 hentry
    refine .inr ⟨s, hs, ?_⟩
    unfold Outline.lentKind? at hkind
    split at hkind <;> cases hkind <;> simp_all [Accounts, ReturnsOn, Label.isFunction]
  · rename_i hfind
    have hcloses : k.ClosesOn (k.clauseBody.getLast?.getD k).endLine := by
      refine ⟨fun s hs => ?_, rfl⟩
      have hnone := List.findSome?_eq_none_iff.1 hfind s hs
      rw [Option.map_eq_none_iff, Outline.lentKind?] at hnone
      constructor <;> intro hlabel <;> simp [hlabel] at hnone
    refine .inl ?_
    unfold Label.choice? at h
    split at h <;> cases h <;> simp_all [Accounts, Choice.clauseKind] <;> exact ⟨k, hk, hcloses⟩

end Node

/-! ## Going down with the declarations -/

/-- The name that a block is filed under in the declaration `d`: that of the declaration, or none
outside declarations. -/
def Names {ε : Type} (decode : List UInt8 → Except ε String) (d : Option Node) (name : String) :
    Prop :=
  d.elim (name = "") fun n => Named decode (Outline.nameText n) name

namespace Node

variable {n : Node}

/-- What the walk goes on to from the header of a node. -/
def headerRow (n : Node) : List Node :=
  if n.label = .ifStatement then n.namedUnder .initializer ++ n.namedUnder .condition
  else if n.label = .forStatement ∨ n.label.choice?.isSome then n.headerParts
  else []

/-- What the walk goes on to from a node, its header apart. -/
def innerRow (n : Node) : List Node :=
  if n.label.isFunction then (n.child? .body).elim [] statements
  else if n.label = .ifStatement then
    n.statementsUnder .consequence ++ (n.child? .alternative).toList
  else if n.label = .forStatement then n.statementsUnder .body
  else if n.label.choice?.isSome then n.clauses.flatMap clauseBody
  else n.named

theorem headerRow_cond (label : n.label = .ifStatement) :
    n.headerRow = n.namedUnder .initializer ++ n.namedUnder .condition := by
  rw [headerRow, if_pos label]

theorem headerRow_loop (label : n.label = .forStatement) : n.headerRow = n.headerParts := by
  simp [headerRow, label]

theorem headerRow_choice {form : Choice} (label : n.label.choice? = some form) :
    n.headerRow = n.headerParts := by
  have hif : n.label ≠ .ifStatement := fun h => by rw [h] at label; cases label
  rw [headerRow, if_neg hif, if_pos (.inr (by rw [label]; rfl))]

/-- Of a declaration, the walk goes on to the statements of the body. -/
theorem innerRow_function {body : Node} (label : n.label.isFunction)
    (hbody : n.child? .body = some body) : n.innerRow = body.statements := by
  rw [innerRow, if_pos label, hbody, Option.elim_some]

/-- Of an if, it goes on to the consequence and then to the alternative, as one node. -/
theorem innerRow_cond (label : n.label = .ifStatement) :
    n.innerRow = n.statementsUnder .consequence ++ (n.child? .alternative).toList := by
  simp [innerRow, label, Label.isFunction]

theorem innerRow_loop (label : n.label = .forStatement) :
    n.innerRow = n.statementsUnder .body := by
  simp [innerRow, label, Label.isFunction]

/-- Of a switch or select, it goes on to what the clauses hold behind their colons. -/
theorem innerRow_choice {form : Choice} (label : n.label.choice? = some form) :
    n.innerRow = n.clauses.flatMap clauseBody := by
  cases hl : n.label <;> simp_all [innerRow, Label.choice?, Label.isFunction]

/-- All other nodes pass the walk on to their named children. -/
theorem innerRow_of_plain (label : n.label.isConstruct = false) : n.innerRow = n.named := by
  cases hl : n.label <;> simp_all [innerRow, Label.isConstruct, Label.choice?, Label.isFunction]

theorem innerRow_ret (label : n.label = .returnStatement) : n.innerRow = n.named := by
  simp [innerRow, label, Label.choice?, Label.isFunction]

theorem innerRow_spawn (label : n.label = .goStatement) : n.innerRow = n.named := by
  simp [innerRow, label, Label.choice?, Label.isFunction]

end Node

/-- A property that holds of nodes with their declarations all the way that a walk goes, except
that the headers of some nodes are skipped. -/
structure Followed (P : Option Node → Node → Prop) (skip : Node → Prop) : Prop where
  inner : ∀ {d n}, P d n → ∀ c ∈ n.innerRow, P (c.owner d) c
  header : ∀ {d n}, P d n → ¬ skip n → ∀ c ∈ n.headerRow, P (c.owner d) c

/-- A property that holds of nodes with their declarations all the way down. The parts that a walk
passes over, going on to what is inside them, are no declarations. -/
structure Surveys (P : Option Node → Node → Prop) : Prop where
  child : ∀ {d n c}, P d n → c ∈ n.children → P (c.owner d) c
  body : ∀ {d n}, P d n → n.label.opens → ∀ c ∈ n.child? .body, c.label.isFunction = false
  ifPart : ∀ {d n}, P d n → n.label = .ifStatement →
    ∀ f ∈ [Field.consequence, .initializer, .condition],
      ∀ c ∈ n.child? f, c.label.isFunction = false

/-- The nodes that a visit goes to belong to the declaration `d`, or are declarations inside. -/
def Visit.Owned (P : Option Node → Node → Prop) (d : Option Node) : Visit → Prop
  | .node n => P (n.owner d) n
  | .nodes ns => ∀ n ∈ ns, P (n.owner d) n
  | .clauses form ks => ∃ n, P d n ∧ n.label.choice? = some form ∧ ks ⊆ n.clauses

namespace Surveys

variable {P : Option Node → Node → Prop} {d : Option Node} {n : Node}

/-- A property of nodes with their declarations passes to the parts that are no declarations. -/
theorem plain (hP : Surveys P) (hn : P d n) {c : Node} (hc : c ∈ n.children)
    (hlabel : c.label.isFunction = false) : P d c := by
  have := hP.child hn hc
  rwa [Node.owner_of_plain hlabel] at this

/-- Going on to the named children keeps to the declaration. -/
theorem named (hP : Surveys P) (hn : P d n) : (Visit.nodes n.named).Owned P d :=
  fun _ hs => hP.child hn (List.mem_filter.1 hs).1

/-- A child, or a child of a statement list, has the property with its own declaration. -/
theorem listed (hP : Surveys P) (hn : P d n) {s : Node}
    (hs : s ∈ n.children ∨ ∃ c ∈ n.children, c.label = .statementList ∧ s ∈ c.children) :
    P (s.owner d) s := by
  rcases hs with hs | ⟨c, hc, hlabel, hs⟩
  · exact hP.child hn hs
  · exact hP.child (hP.plain hn hc (by rw [hlabel]; rfl)) hs

/-- So have the statements of a part that the walk passes over. -/
theorem statements (hP : Surveys P) (hn : P d n) {c : Node} (hc : c ∈ n.children)
    (hlabel : c.label.isFunction = false) : ∀ s ∈ c.statements, P (s.owner d) s :=
  fun _ hs => hP.listed (hP.plain hn hc hlabel) (Node.mem_statements hs)

/-- The statements of a declaration belong to the declaration, not to what is around it. -/
theorem inner_function (hP : Surveys P) (hn : P d n) (label : n.label.isFunction) :
    ∀ s ∈ n.innerRow, P (s.owner d) s := by
  rw [Node.innerRow, if_pos label]
  cases hbody : n.child? .body with
  | none => simp
  | some body =>
    exact hP.statements hn (Node.child?_mem hbody)
      (hP.body hn (by simp [Label.opens, label]) body hbody)

/-- Both branches of an if belong to the declaration of the if. -/
theorem inner_cond (hP : Surveys P) (hn : P d n) (label : n.label = .ifStatement) :
    ∀ s ∈ n.innerRow, P (s.owner d) s := by
  rw [Node.innerRow_cond label]
  intro s hs
  rcases List.mem_append.1 hs with hs | hs
  · obtain ⟨c, hc, hs⟩ := Node.mem_statementsUnder hs
    have hplain := hP.ifPart hn label .consequence (by simp) c hc
    exact hP.statements hn (Node.child?_mem hc) hplain s hs
  · exact hP.child hn (Node.child?_mem (Option.mem_toList.1 hs))

/-- So does the body of a loop. -/
theorem inner_loop (hP : Surveys P) (hn : P d n) (label : n.label = .forStatement) :
    ∀ s ∈ n.innerRow, P (s.owner d) s := by
  rw [Node.innerRow_loop label]
  intro s hs
  obtain ⟨c, hc, hs⟩ := Node.mem_statementsUnder hs
  exact hP.statements hn (Node.child?_mem hc) (hP.body hn (by rw [label]; rfl) c hc) s hs

/-- So do the clauses of a switch or select. -/
theorem inner_choice (hP : Surveys P) (hn : P d n) {form : Choice}
    (label : n.label.choice? = some form) : ∀ s ∈ n.innerRow, P (s.owner d) s := by
  rw [Node.innerRow_choice label]
  intro s hs
  obtain ⟨k, hk, hs⟩ := List.mem_flatMap.1 hs
  have hclause : k.isClause := (List.mem_filter.1 hk).2
  have hlabel : k.label.isFunction = false := by
    unfold Node.isClause at hclause
    cases hl : k.label <;> simp_all [Label.isClause, Label.isFunction]
  exact hP.listed (hP.plain hn (List.mem_filter.1 hk).1 hlabel) (Node.mem_clauseBody hs)

/-- The initializer and the condition of an if are no declarations themselves. -/
theorem header_cond (hP : Surveys P) (hn : P d n) (label : n.label = .ifStatement) :
    ∀ s ∈ n.headerRow, P (s.owner d) s := by
  have hunder : ∀ f ∈ [Field.consequence, .initializer, .condition], ∀ s ∈ n.namedUnder f,
      P (s.owner d) s := by
    intro f hf s hs
    obtain ⟨c, hc, hs⟩ := Node.mem_namedUnder hs
    exact hP.child (hP.plain hn (Node.child?_mem hc) (hP.ifPart hn label f hf c hc)) hs
  rw [Node.headerRow_cond label]
  intro s hs
  rcases List.mem_append.1 hs with hs | hs
  · exact hunder .initializer (by simp) s hs
  · exact hunder .condition (by simp) s hs

/-- In particular it holds all the way that a walk goes. -/
theorem followed (hP : Surveys P) (skip : Node → Prop) : Followed P skip where
  inner := by
    intro d n hn
    rcases n.label.construct_cases with label | label | label | label | label | label | ⟨_, label⟩
    · exact Node.innerRow_of_plain label ▸ hP.named hn
    · exact hP.inner_function hn label
    · exact Node.innerRow_ret label ▸ hP.named hn
    · exact Node.innerRow_spawn label ▸ hP.named hn
    · exact hP.inner_cond hn label
    · exact hP.inner_loop hn label
    · exact hP.inner_choice hn label
  header := by
    intro d n hn _
    by_cases label : n.label = .ifStatement
    · exact hP.header_cond hn label
    · rw [Node.headerRow, if_neg label]
      split
      · exact fun _ hs => hP.child hn (List.mem_filter.1 hs).1
      · simp

end Surveys

/-! ## What a visit registers -/

/-- What is registered ahead of the body is a return: one of its statements, or the last line of a
declaration that has none. -/
theorem exists_of_mem_foresee {body : Node} {name : String} {last : Int} {c : Change}
    (h : c ∈ Walk.foreseeChanges name (Outline.returnLines body) last) :
    ∃ l, c = .register l .returnStatement name ∧ ((Outline.returnLines body = [] ∧ l = last) ∨
      ∃ r ∈ body.statements, r.label = .returnStatement ∧ r.startLine = l) := by
  unfold Walk.foreseeChanges at h
  split at h
  · rename_i hnone
    exact ⟨last, List.mem_singleton.1 h, .inl ⟨List.isEmpty_iff.1 hnone, rfl⟩⟩
  · obtain ⟨l, hl, rfl⟩ := List.mem_map.1 h
    obtain ⟨r, hr, rfl⟩ := List.mem_map.1 hl
    obtain ⟨hr, hlabel⟩ := List.mem_filter.1 hr
    exact ⟨_, rfl, .inr ⟨r, hr, by simpa using hlabel, rfl⟩⟩

/-- At the end of a declaration, only a last line without returns is registered once more. -/
theorem eq_of_mem_close {body : Node} {name : String} {last : Int} {c : Change}
    (h : c ∈ Walk.closeChanges name (Outline.returnLines body) last) :
    c = .register last .returnStatement name ∧ Outline.returnLines body = [] := by
  unfold Walk.closeChanges at h
  split at h
  · rename_i hnone
    exact ⟨List.mem_singleton.1 h, List.isEmpty_iff.1 hnone⟩
  · cases h

section

variable {ε : Type} {decode : List UInt8 → Except ε String}

/-- The scope files blocks under the declaration `d`. -/
structure Scope.FilesUnder (decode : List UInt8 → Except ε String) (d : Option Node) (s : Scope) :
    Prop where
  names : Names decode d s.function
  functionEnd : s.functionEnd = d.map Node.endLine

/-- A visit does not change that. -/
theorem Visits.filesUnder {d : Option Node} {v : Visit} {w w' : Walk} {cs : List Change}
    (h : Visits decode v w cs w') (hw : w.scope.FilesUnder decode d) :
    w'.scope.FilesUnder decode d :=
  ⟨h.function_eq ▸ hw.names, h.functionEnd_eq ▸ hw.functionEnd⟩

namespace Scope.FilesUnder

variable {d : Option Node} {w : Walk}

/-! Nor does the way into a construct, or from one of its parts to the next. -/

/-- A return moves the return target and leaves the name and the end of the function alone. The same
goes for the steps below. -/
theorem enterReturn (hw : w.scope.FilesUnder decode d) (line : Int) :
    (w.enterReturn line).scope.FilesUnder decode d := by
  rw [Walk.scope_enterReturn]
  exact ⟨hw.names, hw.functionEnd⟩

theorem leaveCond (hw : w.scope.FilesUnder decode d) (elseLine elseEnd : Int) :
    (w.leaveCond elseLine elseEnd).scope.FilesUnder decode d := by
  rwa [Walk.scope_leaveCond]

theorem enterLoop (hw : w.scope.FilesUnder decode d) (t : Option Int) (line : Int) :
    ((w.aimAt t).enterLoop line).scope.FilesUnder decode d := by
  rw [Walk.scope_enterLoop, Walk.scope_aimAt]
  exact ⟨hw.names, hw.functionEnd⟩

theorem enterChoice (hw : w.scope.FilesUnder decode d) (t : Option Int) (form : Choice)
    (line : Int) : ((w.aimAt t).enterChoice form line).scope.FilesUnder decode d := by
  rw [Walk.scope_enterChoice, Walk.scope_aimAt]
  exact ⟨hw.names, hw.functionEnd⟩

theorem enterClause (hw : w.scope.FilesUnder decode d) (line : Int) (kind : BlockKind) :
    (w.enterClause line kind).scope.FilesUnder decode d := by
  rwa [Walk.scope_enterClause]

theorem leaveClause (hw : w.scope.FilesUnder decode d) (line : Int) (s : Scope) :
    (w.leaveClause line s).scope.FilesUnder decode d := by
  rw [Walk.scope_leaveClause]
  exact ⟨hw.names, hw.functionEnd⟩

end Scope.FilesUnder

/-- Whether the walk registers line `l` with the kind for a node of the declaration `d`. For the
body of a loop it does so only if nothing is registered there. -/
def Node.Registers (decode : List UInt8 → Except ε String) (d : Option Node) (n : Node) (l : Int)
    (kind : BlockKind) : Prop :=
  n.Accounts d l kind ∧ (kind = .forBody → ∃ u ds u',
    Visits decode (.nodes (n.statementsUnder .body)) u ds u' ∧ registeredBy ds = [])

/-- Except for the body of a loop, standing behind a block is enough for the walk to register it. -/
theorem Node.registers_of_accounts {d : Option Node} {n : Node} {l : Int} {kind : BlockKind}
    (h : n.Accounts d l kind) (hkind : kind ≠ .forBody) : n.Registers decode d l kind :=
  ⟨h, fun heq => absurd heq hkind⟩

/-- A property of changes that holds of all that a walk makes, if it holds of what is registered for
the nodes with the property `P`. Where the header of a node is skipped, it holds of whatever comes
in front of the block of the node. -/
structure Ledger (decode : List UInt8 → Except ε String) (P : Option Node → Node → Prop)
    (skip : Node → Prop) (Q : List Change → Prop) : Prop where
  append : ∀ {cs ds}, Q cs → Q ds → Q (cs ++ ds)
  links : ∀ {cs}, registeredBy cs = [] → Q cs
  register : ∀ {d n l kind name}, P d n → Names decode d name → n.Registers decode d l kind →
    Q [.register l kind name]
  overwrite : ∀ {d n kind} {name : String} cs, P d n → skip n → n.label.headKind? = some kind →
    Q (cs ++ [.register n.startLine kind name])

namespace Ledger

variable {P : Option Node → Node → Prop} {skip : Node → Prop} {Q : List Change → Prop}
variable {d : Option Node} {n : Node} {name : String} {cs : List Change}

/-- A ledger that holds of each change holds of all of them. -/
theorem of_registers (hQ : Ledger decode P skip Q) (h : ∀ c ∈ cs, Q [c]) : Q cs := by
  induction cs with
  | nil => exact hQ.links rfl
  | cons c cs ih =>
    exact hQ.append (h c List.mem_cons_self) (ih fun x hx => h x (List.mem_cons_of_mem c hx))

/-- The block on the first line of a statement. -/
theorem head (hQ : Ledger decode P skip Q) (hn : P d n) (hname : Names decode d name)
    {kind : BlockKind} (hkind : n.label.headKind? = some kind) :
    Q [.register n.startLine kind name] :=
  hQ.register hn hname (Node.registers_of_accounts (Node.accounts_head hkind d)
    (Label.headKind?_ne_forBody hkind))

/-- The block on the first line of a statement, behind its header. -/
theorem headed (hQ : Ledger decode P skip Q) (hn : P d n) (hname : Names decode d name)
    {kind : BlockKind} (hkind : n.label.headKind? = some kind) (hheader : ¬ skip n → Q cs) :
    Q (cs ++ [.register n.startLine kind name]) := by
  by_cases hskip : skip n
  · exact hQ.overwrite cs hn hskip hkind
  · exact hQ.append (hheader hskip) (hQ.head hn hname hkind)

/-- The returns of a function, as they are foreseen. -/
theorem foresee (hQ : Ledger decode P skip Q) (hP : Followed P skip) (hn : P (some n) n)
    (hname : Names decode (some n) name) (label : n.label.isFunction) {body : Node}
    (hbody : n.child? .body = some body) :
    Q (Walk.foreseeChanges name (Outline.returnLines body) n.endLine) := by
  refine hQ.of_registers fun c hc => ?_
  obtain ⟨l, rfl, ⟨hnone, rfl⟩ | ⟨r, hr, hlabel, rfl⟩⟩ := exists_of_mem_foresee hc
  · exact hQ.register hn hname
      (Node.registers_of_accounts (.inr ⟨label, rfl, body, hbody, hnone⟩) (by simp))
  · have hr' := hP.inner hn r (by rwa [Node.innerRow_function label hbody])
    rw [Node.owner_of_plain (by rw [hlabel]; rfl)] at hr'
    exact hQ.register hr' hname (Node.registers_of_accounts (.inl ⟨hlabel, rfl⟩) (by simp))

/-- The last line of a function, once its body was walked. -/
theorem close (hQ : Ledger decode P skip Q) (hn : P (some n) n) (hname : Names decode (some n) name)
    (label : n.label.isFunction) {body : Node} (hbody : n.child? .body = some body) :
    Q (Walk.closeChanges name (Outline.returnLines body) n.endLine) := by
  refine hQ.of_registers fun c hc => ?_
  obtain ⟨rfl, hnone⟩ := eq_of_mem_close hc
  exact hQ.register hn hname
    (Node.registers_of_accounts (.inr ⟨label, rfl, body, hbody, hnone⟩) (by simp))

/-- The three blocks of an if. The scope knows the last line of `d`, to which the end of the false
path is clamped. -/
theorem cond (hQ : Ledger decode P skip Q) (hn : P d n) {w : Walk}
    (hw : w.scope.FilesUnder decode d) (label : n.label = .ifStatement) :
    Q (Walk.condChanges w.scope n.startLine (Outline.falsePath n).1 (w.scope.elseEnd n)) := by
  have hblock : ∀ {l kind}, n.Accounts d l kind → kind ≠ .forBody →
      Q [.register l kind w.scope.function] :=
    fun haccounts hkind => hQ.register hn hw.names (Node.registers_of_accounts haccounts hkind)
  have helse : n.Accounts d (Outline.falsePath n).1 .elseCondition :=
    ⟨label, (Node.elseStart_eq n).symm⟩
  have hend : n.Accounts d (w.scope.elseEnd n) .elseBody :=
    ⟨label, (Scope.elseEnd_of_functionEnd hw.functionEnd n).symm⟩
  exact hQ.append (hQ.head hn hw.names (by rw [label]; rfl))
    (hQ.append (hblock helse (by simp)) (hQ.append (hblock hend (by simp)) (hQ.links rfl)))

/-- The block that a loop may get for its body. -/
theorem loopEnd (hQ : Ledger decode P skip Q) (hn : P d n) (label : n.label = .forStatement)
    {w w' : Walk} {ds : List Change}
    (body : Visits decode (.nodes (n.statementsUnder .body)) (w.enterLoop n.startLine) ds w')
    (hw' : w'.scope.FilesUnder decode d) : Q (w'.loopEndChanges n.startLine n.endLine) := by
  refine hQ.of_registers fun c hc => ?_
  cases c with
  | link s t => exact hQ.links rfl
  | register l kind owner =>
    obtain ⟨rfl, rfl, rfl⟩ := eq_of_register_mem_loopEnd hc
    exact hQ.register hn hw'.names
      ⟨⟨label, rfl⟩, fun _ => ⟨_, ds, w', body, body.registeredBy_eq_nil_of_forBody hc⟩⟩

/-- The block of a clause. It may have the kind of a statement of the clause, which then stands
behind it. -/
theorem clause (hQ : Ledger decode P skip Q) (hP : Followed P skip) (hn : P d n) {s : Scope}
    (hname : Names decode d s.function) {form : Choice} (label : n.label.choice? = some form)
    {k : Node} (hk : k ∈ n.clauses) :
    Q (Walk.clauseChanges s (Outline.clauseEntry form k).1 (Outline.clauseEntry form k).2) := by
  have hkind := (Outline.clauseEntry_kind form k).2
  have hentry : Q [.register (Outline.clauseEntry form k).1 (Outline.clauseEntry form k).2
      s.function] := by
    rcases Node.accounts_clause label hk d with haccounts | ⟨x, hx, hplain, haccounts⟩
    · exact hQ.register hn hname (Node.registers_of_accounts haccounts hkind)
    · have hx' := hP.inner hn x (by
        rw [Node.innerRow_choice label]
        exact List.mem_flatMap.2 ⟨k, hk, hx⟩)
      rw [Node.owner_of_plain hplain] at hx'
      exact hQ.register hx' hname (Node.registers_of_accounts haccounts hkind)
  exact hQ.append hentry (hQ.links (by simp))

end Ledger

/-- **What a walk registers**, it registers for the nodes that it comes to: a property of changes
that holds for each of these holds of all changes of a visit. -/
theorem Visits.tally {P : Option Node → Node → Prop} {skip : Node → Prop} {Q : List Change → Prop}
    (hP : Followed P skip) (hQ : Ledger decode P skip Q)
    (hskip : ∀ n, skip n → n.label ≠ .ifStatement) {v : Visit} {w w' : Walk} {cs : List Change}
    (h : Visits decode v w cs w') :
    ∀ {d : Option Node}, v.Owned P d → w.scope.FilesUnder decode d → Q cs := by
  induction h with
  | @other n _ _ _ label _ ih =>
    intro d hn hw
    rw [Visit.Owned, Node.owner_of_plain (Label.isFunction_of_not_construct label)] at hn
    exact ih (Node.innerRow_of_plain label ▸ hP.inner hn) hw
  | @prototype n _ name label _ named =>
    intro d hn _
    rw [Visit.Owned, Node.owner_of_isFunction label] at hn
    exact hQ.register hn named (Node.registers_of_accounts ⟨label, rfl⟩ (by simp))
  | @function n w body name cs w' label hbody named _ ih =>
    intro d hn _
    rw [Visit.Owned, Node.owner_of_isFunction label] at hn
    -- from here on, blocks are filed under this declaration
    have hfiles : Scope.FilesUnder decode (some n) ((w.enterFunction name n.startLine
        (some n.endLine)).foresee (Outline.returnLines body) n.endLine).scope := by
      rw [Walk.scope_foresee]
      exact ⟨named, rfl⟩
    have hentry : Q [.register n.startLine .functionEntry name] :=
      hQ.register hn named (Node.registers_of_accounts ⟨label, rfl⟩ (by simp))
    have hinside := ih (Node.innerRow_function label hbody ▸ hP.inner hn) hfiles
    exact hQ.append hentry (hQ.append (hQ.foresee hP hn named label hbody)
      (hQ.append hinside (hQ.close hn named label hbody)))
  | @ret n w _ _ label _ ih =>
    intro d hn hw
    rw [Visit.Owned, Node.owner_of_plain (by rw [label]; rfl)] at hn
    have hentry : Q [.register n.startLine .returnStatement w.scope.function] :=
      hQ.register hn hw.names (Node.registers_of_accounts (.inl ⟨label, rfl⟩) (by simp))
    exact hQ.append (hQ.append hentry (hQ.links (registeredBy_linksFrom _ _)))
      (ih (Node.innerRow_ret label ▸ hP.inner hn) (hw.enterReturn _))
  | @spawn n w _ _ label _ ih =>
    intro d hn hw
    rw [Visit.Owned, Node.owner_of_plain (by rw [label]; rfl)] at hn
    exact hQ.append (hQ.head hn hw.names (by rw [label]; rfl))
      (ih (Node.innerRow_spawn label ▸ hP.inner hn) hw)
  | @cond n w cs w₁ ds w₂ es w₃ label consequence header alternative ih₁ ih₂ ih₃ =>
    intro d hn hw
    rw [Visit.Owned, Node.owner_of_plain (by rw [label]; rfl)] at hn
    have hw₁ := (consequence.filesUnder hw).leaveCond (Outline.falsePath n).1 (w.scope.elseEnd n)
    have hinner := hP.inner hn
    rw [Node.innerRow_cond label] at hinner
    have hheader := hP.header hn fun h => hskip n h label
    rw [Node.headerRow_cond label] at hheader
    refine hQ.append (hQ.cond hn hw label) (hQ.append ?_ (hQ.append ?_ (hQ.append ?_ ?_)))
    · exact ih₁ (fun s hs => hinner s (List.mem_append_left _ hs)) hw
    · exact hQ.links (by simp [Walk.falsePathChanges])
    · exact ih₂ hheader hw₁
    · exact ih₃ (fun s hs => hinner s (List.mem_append_right _ hs)) (header.filesUnder hw₁)
  | @loop n w cs w₁ ds w₂ label header body ih₁ ih₂ =>
    intro d hn hw
    rw [Visit.Owned, Node.owner_of_plain (by rw [label]; rfl)] at hn
    have hw₁ := (header.filesUnder hw).enterLoop w.scope.returnTarget n.startLine
    have hkind : n.label.headKind? = some .forStatement := by rw [label]; rfl
    -- of a header that is skipped, nothing is known but that the block of the loop comes last
    have hhead := hQ.headed hn hw.names hkind fun hskip =>
      ih₁ (Node.headerRow_loop label ▸ hP.header hn hskip) hw
    have hbody := ih₂ (Node.innerRow_loop label ▸ hP.inner hn) hw₁
    have hrest := hQ.append (hQ.links (registeredBy_linksTo n.startLine w.scope.returnTarget))
      (hQ.append hbody (hQ.loopEnd hn label body (body.filesUnder hw₁)))
    simpa [Walk.loopChanges] using hQ.append hhead hrest
  | @choice n form w cs w₁ ds w₂ label header _ ih₁ ih₂ =>
    intro d hn hw
    rw [Visit.Owned, Node.owner_of_plain (Label.isFunction_of_choice label)] at hn
    have hhead := hQ.headed hn hw.names (Label.headKind?_of_choice label) fun hskip =>
      ih₁ (Node.headerRow_choice label ▸ hP.header hn hskip) hw
    have hrest := hQ.append (hQ.links (Walk.registeredBy_choiceLinks w.scope form n.startLine))
      (ih₂ ⟨n, hn, label, List.Subset.refl _⟩ ((header.filesUnder hw).enterChoice _ _ _))
    simpa [Walk.choiceChanges] using hQ.append hhead hrest
  | nil => exact fun _ _ => hQ.links rfl
  | cons first _ ih₁ ih₂ =>
    intro d hns hw
    exact hQ.append (ih₁ (hns _ List.mem_cons_self) hw)
      (ih₂ (fun n hn => hns n (List.mem_cons_of_mem _ hn)) (first.filesUnder hw))
  | noClause => exact fun _ _ => hQ.links rfl
  | @clause form k ks w cs w₁ ds w₂ body _ ih₁ ih₂ =>
    rintro d ⟨n, hn, label, hks⟩ hw
    have hk := hks List.mem_cons_self
    have hw₀ := hw.enterClause (Outline.clauseEntry form k).1 (Outline.clauseEntry form k).2
    have hinner := hP.inner hn
    rw [Node.innerRow_choice label] at hinner
    refine hQ.append (hQ.clause hP hn hw.names label hk) (hQ.append ?_ (hQ.append ?_ ?_))
    · exact ih₁ (fun s hs => hinner s (List.mem_flatMap.2 ⟨k, hk, hs⟩)) hw₀
    · exact hQ.links (registeredBy_clauseEnd _ _ _)
    · exact ih₂ ⟨n, hn, label, fun m hm => hks (List.mem_cons_of_mem k hm)⟩
        ((body.filesUnder hw₀).leaveClause _ _)

/-- Some node stands behind a block of the kind on line `l` that is filed under the name. -/
def Accounted (decode : List UInt8 → Except ε String) (P : Option Node → Node → Prop) (l : Int)
    (kind : BlockKind) (name : String) : Prop :=
  ∃ d n, P d n ∧ Names decode d name ∧ n.Accounts d l kind

/-- **What a visit registers is accounted for** by the nodes that it comes to. -/
theorem Visits.accounted {P : Option Node → Node → Prop} (hP : Surveys P) {v : Visit} {w w' : Walk}
    {cs : List Change} (h : Visits decode v w cs w') {l : Int} {kind : BlockKind} {name : String}
    {d : Option Node} (hv : v.Owned P d) (hw : w.scope.FilesUnder decode d)
    (hmem : .register l kind name ∈ cs) : Accounted decode P l kind name := by
  have hledger : Ledger decode P (fun _ => False) fun cs => ∀ l kind name,
      .register l kind name ∈ cs → Accounted decode P l kind name := by
    constructor
    case append =>
      intro cs ds hcs hds l kind name hmem
      exact (List.mem_append.1 hmem).elim (hcs l kind name) (hds l kind name)
    case links =>
      intro cs hlinks l kind name hmem
      exact absurd hmem (register_not_mem_of_links hlinks l kind name)
    case register =>
      intro d n l kind name hn hname hregisters l' kind' name' hmem
      cases List.mem_singleton.1 hmem
      exact ⟨d, n, hn, hname, hregisters.1⟩
    case overwrite => exact fun _ _ hskip => hskip.elim
  exact h.tally (hP.followed _) hledger (fun _ hskip => hskip.elim) hv hw l kind name hmem

end

/-! ## Builds -/

/-- The declarations of a tree are visited as such: the root, the bodies of functions and loops, and
the parts of an if, which a walk passes over, are no declarations. -/
structure Node.Attributed (root : Node) : Prop where
  root_plain : root.label.isFunction = false
  body : ∀ n ∈ root.nodes, n.label.opens → ∀ c ∈ n.child? .body, c.label.isFunction = false
  ifPart : ∀ n ∈ root.nodes, n.label = .ifStatement →
    ∀ f ∈ [Field.consequence, .initializer, .condition],
      ∀ c ∈ n.child? f, c.label.isFunction = false

mutual

/-- Only nodes of the tree are listed. -/
theorem Node.mem_nodes_of_owned (d : Option Node) : ∀ (root : Node) {o : Option Node × Node},
    o ∈ root.ownedFrom d → o.2 ∈ root.nodes
  | .mk head kids, o, h => by
    rw [ownedFrom] at h
    rw [nodes]
    rcases List.mem_cons.1 h with rfl | h
    · exact List.mem_cons_self
    · exact List.mem_cons_of_mem _ (mem_nodesIn_of_owned _ kids h)

theorem Node.mem_nodesIn_of_owned (d : Option Node) : ∀ (ns : List Node) {o : Option Node × Node},
    o ∈ ownedIn d ns → o.2 ∈ nodesIn ns
  | [], o, h => by simp [ownedIn] at h
  | n :: rest, o, h => by
    rw [ownedIn, List.mem_append] at h
    rw [nodesIn, List.mem_append]
    exact h.imp (mem_nodes_of_owned d n) (mem_nodesIn_of_owned d rest)

end

/-- **The listed nodes are surveyed**: being listed goes all the way down. -/
theorem Node.Attributed.surveys {root : Node} (hroot : root.Attributed) :
    Surveys fun d n => (d, n) ∈ root.owned where
  child hn hc := Node.ownedFrom_child none root hn hc
  body hn := hroot.body _ (Node.mem_nodes_of_owned none root hn)
  ifPart hn := hroot.ifPart _ (Node.mem_nodes_of_owned none root hn)

/-- The last registration of a line decides about kind and owner of its block. -/
theorem Build.Finishes.register_mem {b : Build} {cs : List Change} {ls : List Int}
    (h : b.Finishes (({} : Graph).replay cs) ls) (hcs : ({} : Graph).AdmitsAll cs) {x : Block}
    (hx : x ∈ b.blocks) : .register x.endLine x.kind x.owner ∈ cs := by
  obtain ⟨hline, hget⟩ := h.mem_blocks hx
  obtain ⟨pre, kind, owner, post, rfl, hpost⟩ :=
    exists_last_register (Graph.contains_replay_empty.1 ((h.mem_lines x.endLine).1 hline))
  obtain ⟨hkind, howner, -⟩ := h.of_last_register Graph.sound_empty hcs hpost hget
  rw [hkind, howner]
  exact List.mem_append_right _ List.mem_cons_self

/-- **Every block is accounted for**: behind each block of a finished graph stands a node of the
tree that accounts for its line and kind, and the nearest declaration around that node has the name
that the block is filed under. -/
theorem accounted_of_build {ε : Type} {decode : List UInt8 → Except ε String} {root : Node}
    {b : Build} (hroot : root.Attributed) (hb : build decode root {} = .ok b) {x : Block}
    (hx : x ∈ b.blocks) :
    ∃ d n, (d, n) ∈ root.owned ∧ Names decode d x.owner ∧ n.Accounts d x.endLine x.kind := by
  obtain ⟨cs, w, ls, hvisit, hadmit, hfinish⟩ := finishes_of_build Graph.sound_empty hb
  have hself := Node.mem_ownedFrom_self none root
  rw [Node.owner_of_plain hroot.root_plain] at hself
  exact hvisit.accounted hroot.surveys (hroot.surveys.named hself) ⟨rfl, rfl⟩
    (hfinish.register_mem hadmit hx)

/-- Reads the names of the trees below. -/
def spell (text : List UInt8) : Except Empty String := .ok (if text = [102] then "f" else "g")

/-- A function with an if on its last lines but one, behind a switch with an empty clause and a
clause that returns, and a loop with an empty body. -/
def filedTree : Node :=
  .mk { label := .other "source_file" } [
    .mk { label := .functionDeclaration, span := { startRow := 0, endRow := 8 } } [
      .mk { label := .other "identifier", field := some .name, text := some [102] } [],
      .mk { label := .block, field := some .body } [
        .mk { label := .expressionSwitch, span := { startRow := 1, endRow := 4 } } [
          .mk { label := .expressionCase, span := { startRow := 2, endRow := 2 } } [
            .mk { label := .colon, named := false } []],
          .mk { label := .defaultCase, span := { startRow := 3, endRow := 3 } } [
            .mk { label := .colon, named := false } [],
            .mk { label := .returnStatement, span := { startRow := 3, endRow := 3 } } []]],
        .mk { label := .forStatement, span := { startRow := 5, endRow := 6 } } [
          .mk { label := .block, field := some .body } []],
        .mk { label := .ifStatement, span := { startRow := 7, endRow := 8 } } [
          .mk { label := .block, span := { startRow := 7, endRow := 8 },
                field := some .consequence } []]]]]

/-- The blocks of a small file, each with the node behind it. -/
theorem accounted_of_build_filedTree :
    filedTree.Attributed ∧
      ∃ b, build spell filedTree {} = .ok b ∧
        b.blocks.map (fun x => (x.endLine, x.kind)) =
          [(1, .functionEntry), (2, .switchStatement), (3, .caseClause), (4, .returnStatement),
           (6, .forStatement), (7, .forBody), (8, .ifCondition), (9, .returnStatement)] ∧
        ∀ x ∈ b.blocks, ∃ d n, (d, n) ∈ filedTree.owned ∧ Names spell d x.owner ∧
          n.Accounts d x.endLine x.kind := by
  have hroot : filedTree.Attributed := ⟨rfl, by decide, by decide⟩
  exact ⟨hroot, _, rfl, by decide, fun x hx => accounted_of_build hroot rfl hx⟩

/-- A function that is the root of its tree. -/
def bareReturn : Node :=
  .mk { label := .functionDeclaration, span := { startRow := 0, endRow := 2 } } [
    .mk { label := .other "identifier", field := some .name, text := some [102] } [],
    .mk { label := .block, span := { startRow := 0, endRow := 2 }, field := some .body } [
      .mk { label := .returnStatement, span := { startRow := 1, endRow := 1 } } []]]

/-- The return on line 2 is filed under no name, though every node belongs to the function. -/
theorem not_accounted_bareReturn :
    ∃ b, build spell bareReturn {} = .ok b ∧ ∃ x ∈ b.blocks, x.endLine = 2 ∧
      ¬ ∃ d n, (d, n) ∈ bareReturn.owned ∧ Names spell d x.owner ∧
        n.Accounts d x.endLine x.kind := by
  have hname : ∀ o ∈ bareReturn.owned, o.1.bind Outline.nameText = some [102] := by decide
  refine ⟨_, rfl, _, List.mem_singleton.2 rfl, rfl, ?_⟩
  rintro ⟨d, n, hn, hnames, -⟩
  have hd := hname _ hn
  cases d with
  | none => cases hd
  | some f =>
    have hempty : Named spell (some [102]) "" := by
      rw [← hd]
      exact hnames
    exact absurd (Except.ok.inj hempty) (by decide)

end GoFlow
