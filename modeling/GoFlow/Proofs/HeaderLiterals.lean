import GoFlow.Proofs.Accounts
import GoFlow.Proofs.Coverage

/-!
# Literals in headers

A function literal in the header of a statement may have statements on the first line of that
statement. Loops, switches and selects walk their header before they register the line themselves,
so that such literals do not show. An if walks its header behind its consequence.

- `Node.Meets`: the nodes that a walk comes to, those in some headers left out.
- `Node.Occupies`: the ways in which a node has a line registered.
- `Visits.keeps`: where nothing but blocks of one kind is registered outside the header of a
  statement, its first line is left with that kind.
-/

namespace GoFlow

/-! ## Nodes outside headers -/

/-- What nodes hand on to their children, they hand on to the nodes that a walk goes on to. -/
theorem Hereditary.innerRow {P : Node → Prop} {n : Node} (hP : Hereditary P) (hn : P n) :
    ∀ c ∈ n.innerRow, P c := by
  rcases n.label.construct_cases with label | label | label | label | label | label | ⟨_, label⟩
  · exact Node.innerRow_of_plain label ▸ hP.named hn
  · rw [Node.innerRow, if_pos label]
    cases hbody : n.child? .body with
    | none => simp
    | some body => exact hP.statements (hP n hn body (Node.child?_mem hbody))
  · exact Node.innerRow_ret label ▸ hP.named hn
  · exact Node.innerRow_spawn label ▸ hP.named hn
  · rw [Node.innerRow_cond label]
    exact fun c hc => (List.mem_append.1 hc).elim (hP.statementsUnder hn _ c) (hP.child? hn _ c)
  · exact Node.innerRow_loop label ▸ hP.statementsUnder hn _
  · rw [Node.innerRow_choice label]
    intro c hc
    obtain ⟨k, hk, hc⟩ := List.mem_flatMap.1 hc
    exact hP.clauseBody hn k hk c hc

/-- A hereditary property passes to what the walk goes on to from a header. -/
theorem Hereditary.headerRow {P : Node → Prop} {n : Node} (hP : Hereditary P) (hn : P n) :
    ∀ c ∈ n.headerRow, P c := by
  by_cases label : n.label = .ifStatement
  · rw [Node.headerRow_cond label]
    exact fun c hc => (List.mem_append.1 hc).elim (hP.namedUnder hn _ c) (hP.namedUnder hn _ c)
  · rw [Node.headerRow, if_neg label]
    split
    · exact hP.headerParts hn
    · simp

namespace Node

/-- The nodes that a walk comes to, each with the nearest declaration around it, other than by way
of the header of a node that is skipped. -/
inductive Meets (root : Node) (skip : Node → Prop) : Option Node → Node → Prop where
  | top {c} (hc : c ∈ root.named) : Meets root skip (c.owner none) c
  | inner {d n c} (hn : Meets root skip d n) (hc : c ∈ n.innerRow) : Meets root skip (c.owner d) c
  | header {d n c} (hn : Meets root skip d n) (hskip : ¬ skip n) (hc : c ∈ n.headerRow) :
      Meets root skip (c.owner d) c

variable {root : Node} {skip other : Node → Prop} {d : Option Node} {n : Node}

/-- What is met other than through skipped headers goes the way of the walk. -/
theorem followed_meets (root : Node) (skip : Node → Prop) : Followed (root.Meets skip) skip where
  inner hn _ hc := .inner hn hc
  header hn hskip _ hc := .header hn hskip hc

/-- The fewer headers are skipped, the more nodes are met. -/
theorem Meets.mono (h : root.Meets skip d n) (hskip : ∀ m, other m → skip m) :
    root.Meets other d n := by
  induction h with
  | top hc => exact .top hc
  | inner _ hc ih => exact .inner ih hc
  | header _ hn hc ih => exact .header ih (mt (hskip _) hn) hc

/-- Whatever is met lies below one of the nodes at the top. -/
theorem Meets.exists_top (h : root.Meets skip d n) : ∃ c ∈ root.children, n ∈ c.nodes := by
  induction h with
  | @top c hc => exact ⟨c, (List.mem_filter.1 hc).1, c.mem_nodes_self⟩
  | inner _ hc ih =>
    obtain ⟨t, ht, hn⟩ := ih
    exact ⟨t, ht, (hereditary_nodes t).innerRow hn _ hc⟩
  | header _ _ hc ih =>
    obtain ⟨t, ht, hn⟩ := ih
    exact ⟨t, ht, (hereditary_nodes t).headerRow hn _ hc⟩

/-! ## Lines that are occupied -/

/-- Whether a node of the declaration `d` has line `l` registered with the kind. A loop has its last
line registered only if there is no construct in its body. -/
def Occupies (d : Option Node) (n : Node) (l : Int) (kind : BlockKind) : Prop :=
  n.Accounts d l kind ∧ (kind = .forBody → ∀ s ∈ n.statementsUnder .body, ∀ m ∈ s.reached,
    m.label.isConstruct = false)

/-- Outside the headers that are skipped, nodes have the line registered with the kind only. -/
def Keeps (root : Node) (skip : Node → Prop) (l : Int) (kind : BlockKind) : Prop :=
  ∀ d n other, root.Meets skip d n → n.Occupies d l other → other = kind

end Node

section

variable {ε : Type} {decode : List UInt8 → Except ε String} {root n : Node}
variable {skip : Node → Prop} {l : Int} {kind : BlockKind}

/-- What the walk registers for a node that it meets, the node occupies. -/
theorem Node.Registers.occupies {d : Option Node} (h : n.Registers decode d l kind)
    (hroot : root.GoShaped) (hn : root.Meets skip d n) : n.Occupies d l kind := by
  refine ⟨h.1, fun hkind s hs m hm => ?_⟩
  obtain ⟨u, ds, u', hvisit, hnone⟩ := h.2 hkind
  obtain ⟨c, hc, hnc⟩ := hn.exists_top
  by_contra hconstruct
  rw [Bool.not_eq_false] at hconstruct
  have hbelow : ∀ s ∈ n.statementsUnder .body, s ∈ nodesIn c.children := by
    intro s hs
    obtain ⟨b, hb, hs⟩ := mem_statementsUnder hs
    exact (hereditary_nodesIn c.children).statements (child_below hnc (child?_mem hb)) s hs
  -- the body would have registered the line of a construct in it
  obtain ⟨u₁, es, u₂, hvisit, hes⟩ := hvisit.covers hroot hc hconstruct hbelow ⟨s, hs, hm⟩
  obtain ⟨kind, owner, hmem⟩ := mem_registeredBy.1 (hvisit.startLine_mem hconstruct)
  have hmem : m.startLine ∈ registeredBy ds := mem_registeredBy.2 ⟨kind, owner, hes hmem⟩
  rw [hnone] at hmem
  cases hmem

/-! ## The last registration of the line -/

/-- Of the line, the changes leave nothing but the kind. -/
def LeavesOnly (l : Int) (kind : BlockKind) (cs : List Change) : Prop :=
  ∀ k ∈ lastKind? (· == l) cs, k = kind

/-- Changes that leave only the kind do so one after the other. -/
theorem LeavesOnly.append {cs ds : List Change} (hcs : LeavesOnly l kind cs)
    (hds : LeavesOnly l kind ds) : LeavesOnly l kind (cs ++ ds) := by
  intro k hk
  rw [Option.mem_def, lastKind?_append, Option.or_eq_some_iff] at hk
  rcases hk with hk | ⟨-, hk⟩
  · exact hds k hk
  · exact hcs k hk

/-- **A line that is kept** by the nodes outside some headers is left with the kind by every visit,
if the nodes with these headers register it with the kind behind them. -/
theorem Visits.keeps (hroot : root.GoShaped) (hkeeps : root.Keeps skip l kind)
    (hskip : ∀ n, skip n →
      n.startLine = l ∧ n.label.headKind? = some kind ∧ n.label ≠ .ifStatement)
    {w w' : Walk} {cs : List Change} (h : Visits decode (.nodes root.named) w cs w')
    (hw : w.scope.FilesUnder decode none) : LeavesOnly l kind cs := by
  have hledger : Ledger decode (root.Meets skip) skip (LeavesOnly l kind) := by
    constructor
    case append => exact LeavesOnly.append
    case links =>
      intro cs hlinks k hk
      rw [lastKind?_of_links hlinks] at hk
      cases hk
    case register =>
      intro d n m other name hn _ hregisters k hk
      simp only [lastKind?, Option.none_or, beq_iff_eq, Option.mem_def] at hk
      obtain ⟨hline, hother⟩ := Option.ite_none_right_eq_some.1 hk
      subst hline
      obtain rfl := Option.some.inj hother
      exact hkeeps d n _ hn (hregisters.occupies hroot hn)
    case overwrite =>
      intro d n other name cs _ hn hother k hk
      obtain ⟨rfl, hkind, -⟩ := hskip n hn
      obtain rfl := Option.some.inj (hother.symm.trans hkind)
      simp only [lastKind?_append, lastKind?, beq_self_eq_true, if_true, Option.none_or,
        Option.some_or, Option.mem_def] at hk
      exact (Option.some.inj hk).symm
  exact h.tally (Node.followed_meets root skip) hledger (fun n hn => (hskip n hn).2.2)
    (fun c hc => .top hc) hw

/-- The kind of a finished block is that of the last registration of its line. -/
theorem Build.Finishes.lastKind?_eq {b : Build} {cs : List Change} {ls : List Int}
    (h : b.Finishes (({} : Graph).replay cs) ls) {x : Block} (hx : x ∈ b.blocks) :
    lastKind? (· == x.endLine) cs = some x.kind := by
  obtain ⟨hline, hget⟩ := h.mem_blocks hx
  obtain ⟨y, hy, hy'⟩ := h.exists_block hline
  have hkind : y.kind = x.kind := by
    rw [← Option.some.inj (hy'.symm.trans hget), Block.kind_fallInto]
  have hwalked : (({} : Graph).replay cs).kind? (.line x.endLine) = some x.kind := by
    rw [Graph.kind?, hy, Option.map_some, hkind]
  rwa [Graph.kind?_replay_eq, Graph.kind?, Graph.get?_empty, Option.map_none, Option.or_none]
    at hwalked

/-- **A statement keeps its kind over literals in its header**: in a tree of the shape of Go, if
nothing outside the header of a statement has the first line of the statement registered with
another kind, the block on that line has the kind of the statement. For an if, nothing in its header
may do so either. -/
theorem kind_of_keeps {b : Build} (hroot : root.GoShaped) (hb : build decode root {} = .ok b)
    {d body : Node} (hd : d ∈ root.nodes) (hfunction : d.label.isFunction)
    (hbody : d.child? .body = some body) (hn : n ∈ body.reached)
    (hkind : n.label.headKind? = some kind) (hkeeps : root.Keeps (· = n) n.startLine kind)
    (hcond : n.label = .ifStatement → root.Keeps (fun _ => False) n.startLine kind) :
    ∃ x ∈ b.blocks, x.endLine = n.startLine ∧ x.kind = kind := by
  obtain ⟨cs, w, ls, hvisit, hadmit, hfinish⟩ := finishes_of_build Graph.sound_empty hb
  have hconstruct := Label.isConstruct_of_headKind? hkind
  obtain ⟨x, hx, hline⟩ := hfinish.exists_of_registered
    (hvisit.startLine_mem_of_reached hroot hd hfunction hbody hn hconstruct)
  -- the header of an if comes behind its block, and is not skipped
  have hkeeps' : root.Keeps (fun m => m = n ∧ m.label ≠ .ifStatement) n.startLine kind := by
    intro o m other hm hoccupies
    by_cases label : n.label = .ifStatement
    · exact hcond label o m other (hm.mono fun _ h => h.elim) hoccupies
    · exact hkeeps o m other (hm.mono fun _ heq => ⟨heq, heq ▸ label⟩) hoccupies
  have hskip : ∀ m, m = n ∧ m.label ≠ .ifStatement → m.startLine = n.startLine ∧
      m.label.headKind? = some kind ∧ m.label ≠ .ifStatement := by
    rintro m ⟨rfl, label⟩
    exact ⟨rfl, hkind, label⟩
  have hleaves := hvisit.keeps hroot hkeeps' hskip ⟨rfl, rfl⟩
  refine ⟨x, hx, hline, hleaves x.kind ?_⟩
  rw [← hline]
  exact hfinish.lastKind?_eq hx

/-! ## A literal that returns on the line of the header -/

/-- A call of a function literal that returns, all on line 4. -/
def calledLiteral (field : Option Field) : Node :=
  .mk { label := .other "call_expression", span := { startRow := 3, endRow := 3 },
        field := field } [
    .mk { label := .other "func_literal", span := { startRow := 3, endRow := 3 } } [
      .mk { label := .block, span := { startRow := 3, endRow := 3 }, field := some .body } [
        .mk { label := .returnStatement, span := { startRow := 3, endRow := 3 } } []]]]

/-- A loop on lines 4 and 5 over what the literal returns. -/
def literalLoop : Node :=
  .mk { label := .forStatement, span := { startRow := 3, endRow := 4 } } [
    .mk { label := .other "range_clause", span := { startRow := 3, endRow := 3 } } [
      calledLiteral none],
    .mk { label := .block, span := { startRow := 3, endRow := 4 }, field := some .body } []]

/-- An if on lines 4 and 5 under the condition that the literal returns. -/
def literalCond : Node :=
  .mk { label := .ifStatement, span := { startRow := 3, endRow := 4 } } [
    calledLiteral (some .condition),
    .mk { label := .block, span := { startRow := 3, endRow := 4 }, field := some .consequence } []]

/-- A function on lines 3 to 6 with the statement as its body. -/
def functionOf (s : Node) : Node :=
  .mk { label := .functionDeclaration, span := { startRow := 2, endRow := 5 } } [
    .mk { label := .block, span := { startRow := 2, endRow := 5 }, field := some .body } [s]]

def fileOf (s : Node) : Node :=
  .mk { label := .other "source_file", span := { startRow := 0, endRow := 6 } } [functionOf s]

/-- Outside the header of the statement, a walk meets only the function and the statement, if the
statement has nothing else inside. -/
theorem meets_fileOf {s n : Node} {d : Option Node} (hs : s.label.isFunction = false)
    (hstatements : (functionOf s).innerRow = [s]) (hinner : s.innerRow = [])
    (h : (fileOf s).Meets (· = s) d n) : d = some (functionOf s) ∧ (n = functionOf s ∨ n = s) := by
  induction h with
  | @top c hc =>
    obtain rfl : c = functionOf s := List.mem_singleton.1 hc
    exact ⟨rfl, .inl rfl⟩
  | @inner d n c hn hc ih =>
    obtain ⟨rfl, rfl | rfl⟩ := ih
    · rw [hstatements, List.mem_singleton] at hc
      subst hc
      exact ⟨Node.owner_of_plain hs, .inr rfl⟩
    · rw [hinner] at hc
      cases hc
  | @header d n c hn hskip hc ih =>
    obtain ⟨rfl, rfl | heq⟩ := ih
    · cases hc
    · exact absurd heq hskip

/-- In a file of one function with one statement, it is enough to look at these two. -/
theorem keeps_fileOf {s : Node} {kind : BlockKind} (hs : s.label.isFunction = false)
    (hstatements : (functionOf s).innerRow = [s]) (hinner : s.innerRow = [])
    (hkind : ∀ n ∈ [functionOf s, s], ∀ other ∈ BlockKind.all,
      n.Accounts (some (functionOf s)) s.startLine other → other = kind) :
    (fileOf s).Keeps (· = s) s.startLine kind := by
  rintro d n other hn ⟨haccounts, -⟩
  obtain ⟨rfl, hcases⟩ := meets_fileOf hs hstatements hinner hn
  exact hkind n (by simpa using hcases) other (BlockKind.mem_all other) haccounts

/-- The loop has line 4, though the literal returns there. -/
theorem kind_of_keeps_literalLoop :
    (fileOf literalLoop).GoShaped ∧
      (∃ r ∈ Node.nodesIn literalLoop.headerRow, r.label = .returnStatement ∧ r.startLine = 4) ∧
      (fileOf literalLoop).Keeps (· = literalLoop) 4 .forStatement ∧
      ∃ b, build spell (fileOf literalLoop) {} = .ok b ∧
        ∃ x ∈ b.blocks, x.endLine = 4 ∧ x.kind = .forStatement := by
  have hroot : (fileOf literalLoop).GoShaped :=
    ⟨rfl, by decide, by decide, by decide, by decide, by decide, by decide, by decide⟩
  have hkeeps : (fileOf literalLoop).Keeps (· = literalLoop) 4 .forStatement :=
    keeps_fileOf rfl rfl rfl (by decide)
  have hd : functionOf literalLoop ∈ (fileOf literalLoop).nodes :=
    Node.mem_nodes_of_child List.mem_cons_self (Node.mem_nodes_self _)
  have hreached : ∃ body ∈ (functionOf literalLoop).child? .body, literalLoop ∈ body.reached :=
    ⟨_, rfl, Node.mem_reached.2 (.inr ⟨_, List.mem_cons_self, Node.mem_reached_self _⟩)⟩
  obtain ⟨body, hbody, hreached⟩ := hreached
  have hbuild : ∃ b, build spell (fileOf literalLoop) {} = .ok b := ⟨_, rfl⟩
  obtain ⟨b, hb⟩ := hbuild
  exact ⟨hroot, by decide, hkeeps, b, hb,
    kind_of_keeps hroot hb hd rfl hbody hreached rfl hkeeps fun label => by cases label⟩

/-- The literal has line 4, and not the if. -/
theorem kind_literalCond :
    (fileOf literalCond).GoShaped ∧ (fileOf literalCond).hasFault = false ∧
      literalCond.label.headKind? = some .ifCondition ∧ literalCond.startLine = 4 ∧
      (∃ body ∈ (functionOf literalCond).child? .body, literalCond ∈ body.reached) ∧
      (fileOf literalCond).Keeps (· = literalCond) 4 .ifCondition ∧
      ∃ b, build spell (fileOf literalCond) {} = .ok b ∧ 4 ∈ b.blocks.map Block.endLine ∧
        ∀ x ∈ b.blocks, x.endLine = 4 → x.kind = .returnStatement := by
  have hroot : (fileOf literalCond).GoShaped :=
    ⟨rfl, by decide, by decide, by decide, by decide, by decide, by decide, by decide⟩
  have hreached : ∃ body ∈ (functionOf literalCond).child? .body, literalCond ∈ body.reached :=
    ⟨_, rfl, Node.mem_reached.2 (.inr ⟨_, List.mem_cons_self, Node.mem_reached_self _⟩)⟩
  exact ⟨hroot, rfl, rfl, rfl, hreached, keeps_fileOf rfl rfl rfl (by decide), _, rfl, by decide,
    by decide⟩

end

end GoFlow
