import GoFlow.Proofs.Accounts
import GoFlow.Proofs.Confinement
import GoFlow.Proofs.Coverage
import Mathlib.Data.List.Pairwise

/-!
# Statements on lines of their own

Where every statement and every closing brace has a line of its own, the constructs of a tree stand
apart from each other: of two constructs, the one is inside the other or on other lines.

- `Node.Spread`: the layout.
- `Node.Apart`: the constructs of two nodes keep their lines apart. The rows that a walk goes
  through keep apart, one from the other and each in itself (`Visit.Fits`).
- `Node.Spread.eq_of_startLine`: no two constructs start on one line.
-/

namespace GoFlow

/-- In a row of which each member is related to those behind it, different members are related. -/
theorem pairwise_or {α : Type} {R : α → α → Prop} {xs : List α} (h : xs.Pairwise R) {x y : α}
    (hx : x ∈ xs) (hy : y ∈ xs) (hne : x ≠ y) : R x y ∨ R y x := by
  have hor : xs.Pairwise fun x y => R x y ∨ R y x := h.imp Or.inl
  have hsymm : Std.Symm fun x y => R x y ∨ R y x := ⟨fun _ _ => Or.symm⟩
  exact hor.forall hx hy hne

namespace Node

/-- The constructs among a node and the nodes below it. -/
def constructs (n : Node) : List Node := n.nodes.filter (·.label.isConstruct)

/-- Whether a child is a clause of its switch or select, or an if that follows an else: the parts of
a construct without braces, or something like them, around their statements. -/
def hangsOn (c n : Node) : Bool :=
  (n.label.choice?.isSome && c.isClause) ||
    (n.label == .ifStatement && c.isUnder .alternative && c.label.isConstruct)

/-- Constructs below a node stand below its first line and above its last. -/
def Braced (c : Node) : Prop :=
  ∀ m ∈ c.constructs, c.startLine < m.startLine ∧ m.endLine < c.endLine

instance (c : Node) : Decidable c.Braced := inferInstanceAs (Decidable (∀ m ∈ _, _))

/-- Trees with every statement and every closing brace on a line of its own. -/
structure Spread (root : Node) : Prop extends GoShaped root where
  nested : root.nested
  /-- Children come in the order of the source. -/
  ordered : ∀ n ∈ root.nodes, n.children.Pairwise fun a b => a.endLine ≤ b.startLine
  /-- No statement shares a line with what comes behind it. -/
  apart : ∀ d ∈ root.children, ∀ n ∈ d.nodes, n.children.Pairwise fun a b =>
    b.isStatement → ∀ m ∈ a.constructs, m.endLine < b.startLine
  /-- The statements inside a part of a construct have lines between its braces. -/
  braces : ∀ n ∈ root.nodes, n.label.isConstruct → ∀ c ∈ n.children, c.hangsOn n = false → c.Braced
  /-- An alternative comes last, below the first line of the if. -/
  alternative : ∀ n ∈ root.nodes, n.label = .ifStatement → ∀ a ∈ n.child? .alternative,
    n.startLine < a.startLine ∧
      ∀ f ∈ [Field.consequence, .initializer, .condition], ∀ c ∈ n.child? f,
        c.endLine ≤ a.startLine
  /-- The statements of a clause stand below its first line. -/
  clause : ∀ k ∈ root.nodes, k.isClause → ∀ m ∈ k.constructs, k.startLine < m.startLine
  /-- The body of a loop is a block, and its closing brace has a line of its own. -/
  loopBody : ∀ n ∈ root.nodes, n.label = .forStatement → n.startLine < n.endLine ∧
    ∀ c ∈ n.child? .body, c.label = .block

/-! ## Nodes and the constructs in them -/

/-- A child that is found under a field is held under it. -/
theorem child?_field {n c : Node} {f : Field} (h : n.child? f = some c) :
    c.head.field = some f := by
  simpa using List.find?_some h

/-- In a tree of the shape of Go, no part of an if is a construct but the alternative. -/
theorem GoShaped.ifPart_plain {root n c : Node} (hroot : root.GoShaped) (hn : n ∈ root.nodes)
    (hlabel : n.label = .ifStatement) {f : Field}
    (hf : f ∈ [Field.consequence, .initializer, .condition]) (hc : n.child? f = some c) :
    c.label.isConstruct = false := by
  by_cases hstatement : c.isStatement
  · rcases hroot.cond n hn hlabel c (child?_mem hc) hstatement with hfield | ⟨-, hplain⟩
    · rw [child?_field hc] at hfield
      cases hfield
      simp at hf
    · exact hplain
  · exact (hroot.leaf c (hereditary_nodes root n hn c (child?_mem hc))
      (by simpa using hstatement)).1

theorem mem_constructs {m n : Node} : m ∈ n.constructs ↔ m ∈ n.nodes ∧ m.label.isConstruct :=
  List.mem_filter

/-- The constructs of a part are constructs of the whole. -/
theorem constructs_subset {n c : Node} (hn : n ∈ c.nodes) : n.constructs ⊆ c.constructs := by
  intro m hm
  rw [mem_constructs] at hm ⊢
  exact ⟨(hereditary_nodes c).nodes hn hm.1, hm.2⟩

/-- What the header of an if holds lies in its initializer or in its condition. -/
theorem mem_condHeader {n s : Node}
    (hs : s ∈ n.namedUnder .initializer ++ n.namedUnder .condition) :
    ∃ f ∈ [Field.initializer, .condition], ∃ c, n.child? f = some c ∧ s ∈ c.nodes := by
  rcases List.mem_append.1 hs with hs | hs <;> obtain ⟨c, hc, hs⟩ := mem_namedUnder hs
  · exact ⟨.initializer, by simp, c, hc, mem_nodes_of_child hs s.mem_nodes_self⟩
  · exact ⟨.condition, by simp, c, hc, mem_nodes_of_child hs s.mem_nodes_self⟩

theorem isStatement_of_isClause {n : Node} (h : n.isClause) : n.isStatement := by
  unfold isClause at h
  unfold isStatement
  cases hl : n.label <;> simp_all [Label.isClause]

/-- A construct of a node is the node itself or lies in one of its children. -/
theorem constructs_cases {m n : Node} (hm : m ∈ n.constructs) :
    m = n ∨ ∃ c ∈ n.children, m ∈ c.constructs := by
  obtain ⟨head, kids⟩ := n
  obtain ⟨hm, hconstruct⟩ := mem_constructs.1 hm
  rw [nodes] at hm
  rcases List.mem_cons.1 hm with rfl | hm
  · exact .inl rfl
  · obtain ⟨c, hc, hm⟩ := mem_nodesIn.1 hm
    exact .inr ⟨c, hc, mem_constructs.2 ⟨hm, hconstruct⟩⟩

/-- A node lies within the lines of a node around it. -/
theorem nested_nodes {n m : Node} (hn : n.nested) (hm : m ∈ n.nodes) :
    m.nested ∧ n.startLine ≤ m.startLine ∧ m.startLine ≤ m.endLine ∧ m.endLine ≤ n.endLine := by
  have h := (Between.hereditary n.startLine n.endLine).nodes (between_self hn) hm
  exact ⟨h.nested, h.start, startLine_le_endLine h.nested, h.stop⟩

/-- The constructs of two nodes stand on different lines. Where they do not come in order, there is
a line between them. -/
def Apart (x y : Node) : Prop :=
  ∀ a ∈ x.constructs, ∀ b ∈ y.constructs,
    a.endLine < b.startLine ∨ b.endLine + 1 < a.startLine

/-- Nodes that lie apart have parts that lie apart. -/
theorem Apart.mono {x y x' y' : Node} (h : x.Apart y) (hx : x' ∈ x.nodes) (hy : y' ∈ y.nodes) :
    x'.Apart y' :=
  fun a ha b hb => h a (constructs_subset hx ha) b (constructs_subset hy hb)

/-- A relation between each child of a node and those behind it, which nodes further in inherit. -/
structure Spaced (d : Node) (R : Node → Node → Prop) : Prop where
  children : ∀ n ∈ d.nodes, n.children.Pairwise R
  mono : ∀ {x y x' y'}, x ∈ d.nodes → y ∈ d.nodes → R x y → x' ∈ x.nodes → y' ∈ y.nodes → R x' y'

namespace Spaced

variable {d n : Node} {R : Node → Node → Prop}

/-- The members of a row of children, those of a statement list in its place. -/
theorem unwrapped (h : d.Spaced R) (hn : n ∈ d.nodes) {cs : List Node} (hcs : cs.Sublist n.children)
    (isList : Node → Bool) :
    (cs.flatMap fun c => if isList c then c.children.filter isStatement
      else if c.isStatement then [c] else []).Pairwise R := by
  have hin : ∀ c ∈ cs, c ∈ d.nodes := fun c hc => hereditary_nodes d n hn c (hcs.mem hc)
  have hbelow : ∀ {c s : Node}, (s ∈ if isList c then c.children.filter isStatement
      else if c.isStatement then [c] else []) → s ∈ c.nodes := by
    intro c s hs
    split at hs
    · exact mem_nodes_of_child (List.mem_filter.1 hs).1 s.mem_nodes_self
    · split at hs
      · exact List.mem_singleton.1 hs ▸ s.mem_nodes_self
      · cases hs
  refine List.pairwise_flatMap.2 ⟨fun c hc => ?_, ?_⟩
  · split
    · exact (h.children c (hin c hc)).filter _
    · split
      · exact List.pairwise_singleton _ _
      · exact List.Pairwise.nil
  · exact ((h.children n hn).sublist hcs).imp_of_mem fun hx hy hxy a ha b hb =>
      h.mono (hin _ hx) (hin _ hy) hxy (hbelow ha) (hbelow hb)

/-- Spacing passes from children to statements, whether or not a list holds them. -/
theorem statements (h : d.Spaced R) (hn : n ∈ d.nodes) : n.statements.Pairwise R :=
  h.unwrapped hn (List.Sublist.refl _) _

theorem clauseBody (h : d.Spaced R) (hn : n ∈ d.nodes) : n.clauseBody.Pairwise R :=
  h.unwrapped hn ((List.tail_sublist _).trans (List.dropWhile_sublist _)) _

end Spaced

namespace Spread

variable {root d n c : Node}

theorem nested_of_mem (hroot : root.Spread) (hn : n ∈ root.nodes) : n.nested :=
  (nested_nodes hroot.nested hn).1

/-- The constructs of a node lie between its lines. -/
theorem lines_of_mem (hroot : root.Spread) (hn : n ∈ root.nodes) {m : Node}
    (hm : m ∈ n.constructs) :
    n.startLine ≤ m.startLine ∧ m.startLine ≤ m.endLine ∧ m.endLine ≤ n.endLine :=
  (nested_nodes (hroot.nested_of_mem hn) (mem_constructs.1 hm).1).2

/-- Children of one node keep their constructs apart. -/
theorem children_apart (hroot : root.Spread) (hd : d ∈ root.children) (hn : n ∈ d.nodes) :
    n.children.Pairwise Apart := by
  refine (hroot.apart d hd n hn).imp_of_mem fun {x y} hx hy hxy a ha b hb => .inl ?_
  have hy' := mem_nodes_of_child hd (hereditary_nodes d n hn y hy)
  obtain ⟨hby, hconstruct⟩ := mem_constructs.1 hb
  have hlt := hxy (hroot.isStatement_of_mem hy' hby hconstruct) a ha
  have hle := (hroot.lines_of_mem hy' hb).1
  omega

/-- Below a construct, constructs start on later lines. -/
theorem startLine_lt (hroot : root.Spread) (hn : n ∈ root.nodes) (hconstruct : n.label.isConstruct)
    (hc : c ∈ n.children) {m : Node} (hm : m ∈ c.constructs) : n.startLine < m.startLine := by
  have hc' := hereditary_nodes root n hn c hc
  have hstart := ((between_self (hroot.nested_of_mem hn)).child hc).start
  cases hhangs : c.hangsOn n with
  | false =>
    have := (hroot.braces n hn hconstruct c hc hhangs m hm).1
    omega
  | true =>
    simp only [hangsOn, Bool.or_eq_true, Bool.and_eq_true, beq_iff_eq, isUnder] at hhangs
    rcases hhangs with ⟨-, hclause⟩ | ⟨⟨hlabel, hfield⟩, -⟩
    · have := hroot.clause c hc' hclause m hm
      omega
    · have halternative := child?_eq_some (hroot.fields n hn (.inl hlabel)) hc hfield
      have hlt := (hroot.alternative n hn hlabel c halternative).1
      have hle := (hroot.lines_of_mem hc' hm).1
      omega

/-- **No two constructs start on one line.** -/
theorem eq_of_startLine (hroot : root.Spread) (hd : d ∈ root.children) (hn : n ∈ d.nodes)
    {a b : Node} (ha : a ∈ n.constructs) (hb : b ∈ n.constructs)
    (hline : a.startLine = b.startLine) : a = b := by
  induction hsize : sizeOf n using Nat.strongRecOn generalizing n with
  | ind _ ih =>
    subst hsize
    have hn' := mem_nodes_of_child hd hn
    rcases constructs_cases ha with rfl | ⟨c, hc, ha'⟩
    · rcases constructs_cases hb with rfl | ⟨c, hc, hb'⟩
      · rfl
      · have := hroot.startLine_lt hn' (mem_constructs.1 ha).2 hc hb'
        omega
    rcases constructs_cases hb with rfl | ⟨c', hc', hb'⟩
    · have := hroot.startLine_lt hn' (mem_constructs.1 hb).2 hc ha'
      omega
    by_cases hcc : c = c'
    · subst hcc
      exact ih _ (sizeOf_lt_of_mem hc) (hereditary_nodes d n hn c hc) ha' hb' rfl
    · -- constructs of different children are on different lines
      have hale := (hroot.lines_of_mem hn' ha).2.1
      have hble := (hroot.lines_of_mem hn' hb).2.1
      rcases pairwise_or (hroot.children_apart hd hn) hc hc' hcc with h | h
      · have := h a ha' b hb'
        omega
      · have := h b hb' a ha'
        omega

/-! ### Rows -/

/-- A part of a construct that does not hang on it holds its constructs between its braces. -/
theorem braced_of_field (hroot : root.Spread) (hn : n ∈ root.nodes)
    (hlabel : n.label = .ifStatement) {f : Field} (hf : f ≠ .alternative)
    (hc : n.child? f = some c) : c.Braced := by
  refine hroot.braces n hn (by rw [hlabel]; rfl) c (child?_mem hc) ?_
  have hfield := child?_field hc
  simp [hangsOn, hlabel, isUnder, hfield, hf, Label.choice?]

/-- The constructs in a part of a loop lie strictly between the lines of the part. -/
theorem braced_of_loop (hroot : root.Spread) (hn : n ∈ root.nodes)
    (hlabel : n.label = .forStatement) (hc : c ∈ n.children) : c.Braced :=
  hroot.braces n hn (by rw [hlabel]; rfl) c hc (by simp [hangsOn, hlabel, Label.choice?])

/-- Constructs in the parts of a loop are clear of its first and its last line. -/
theorem inside_loop (hroot : root.Spread) (hn : n ∈ root.nodes) (hlabel : n.label = .forStatement)
    (hc : c ∈ n.children) {m : Node} (hm : m ∈ c.constructs) :
    n.startLine < m.startLine ∧ m.endLine < n.endLine := by
  have hbraced := hroot.braced_of_loop hn hlabel hc m hm
  have hpart := (between_self (hroot.nested_of_mem hn)).child hc
  have hstart := hpart.start
  have hstop := hpart.stop
  omega

/-- Different parts with braces keep apart, whichever is walked first. -/
theorem apart_of_braced (hroot : root.Spread) (hn : n ∈ root.nodes) {x y : Node}
    (hx : x ∈ n.children) (hy : y ∈ n.children) (hne : x ≠ y) (hbx : x.Braced) (hby : y.Braced) :
    x.Apart y := by
  intro a ha b hb
  have ha' := hbx a ha
  have hb' := hby b hb
  rcases pairwise_or (hroot.ordered n hn) hx hy hne with h | h <;> omega

/-- In a file that is spread, the parts of a declaration lie apart. -/
theorem spaced_apart (hroot : root.Spread) (hd : d ∈ root.children) : d.Spaced Apart where
  children _ hn := hroot.children_apart hd hn
  mono _ _ h hx hy := h.mono hx hy

/-- They come one below the other. -/
theorem spaced_ordered (hroot : root.Spread) (hd : d ∈ root.children) :
    d.Spaced fun a b => a.endLine ≤ b.startLine where
  children n hn := hroot.ordered n (mem_nodes_of_child hd hn)
  mono := by
    intro x y x' y' hx hy h hx' hy'
    have := (nested_nodes (hroot.nested_of_mem (mem_nodes_of_child hd hx)) hx').2.2.2
    have := (nested_nodes (hroot.nested_of_mem (mem_nodes_of_child hd hy)) hy').2.1
    omega

/-- The parts of an if keep apart in the order in which they are walked. -/
theorem cond_apart (hroot : root.Spread) (hn : n ∈ root.nodes) (hlabel : n.label = .ifStatement) :
    (∀ x ∈ n.statementsUnder .consequence,
      (∀ y ∈ n.namedUnder .initializer ++ n.namedUnder .condition, x.Apart y) ∧
        ∀ a ∈ (n.child? .alternative).toList, x.Apart a) ∧
      ∀ y ∈ n.namedUnder .initializer ++ n.namedUnder .condition,
        ∀ a ∈ (n.child? .alternative).toList, y.Apart a := by
  have hfields : ∀ {f g x y}, n.child? f = some x → n.child? g = some y → f ≠ g → x ≠ y := by
    rintro f g x _ hx hy hfg rfl
    exact hfg (Option.some.inj ((child?_field hx).symm.trans (child?_field hy)))
  -- a part with braces ends no later than the alternative starts
  have hlast : ∀ f ∈ [Field.consequence, .initializer, .condition], ∀ {x a},
      n.child? f = some x → n.child? .alternative = some a → x.Apart a := by
    intro f hf x a hx ha m hm b hb
    have hbraced := hroot.braced_of_field hn hlabel (by rintro rfl; simp at hf) hx m hm
    have hle := (hroot.alternative n hn hlabel a ha).2 f hf x hx
    have hstart := (hroot.lines_of_mem (hereditary_nodes root n hn a (child?_mem ha)) hb).1
    omega
  refine ⟨fun x hx => ?_, fun y hy a ha => ?_⟩
  · obtain ⟨c, hc, hx⟩ := mem_statementsUnder hx
    have hx' := mem_nodes_of_statements hx
    refine ⟨fun y hy => ?_, fun a ha => ?_⟩
    · obtain ⟨f, hf, h, hh, hy'⟩ := mem_condHeader hy
      have hne : f ≠ .consequence ∧ f ≠ .alternative := by
        constructor <;> rintro rfl <;> simp at hf
      exact (hroot.apart_of_braced hn (child?_mem hc) (child?_mem hh) (hfields hc hh hne.1.symm)
        (hroot.braced_of_field hn hlabel (by decide) hc)
        (hroot.braced_of_field hn hlabel hne.2 hh)).mono hx' hy'
    · exact (hlast .consequence (by simp) hc (Option.mem_toList.1 ha)).mono hx' a.mem_nodes_self
  · obtain ⟨f, hf, h, hh, hy'⟩ := mem_condHeader hy
    have hlast := hlast f (List.mem_cons_of_mem _ hf) hh (Option.mem_toList.1 ha)
    exact hlast.mono hy' a.mem_nodes_self

/-- The header of a loop keeps apart from its body. -/
theorem loop_apart (hroot : root.Spread) (hn : n ∈ root.nodes) (hlabel : n.label = .forStatement) :
    ∀ x ∈ n.headerParts, ∀ y ∈ n.statementsUnder .body, x.Apart y := by
  intro x hx y hy
  obtain ⟨c, hc, hy⟩ := mem_statementsUnder hy
  obtain ⟨hx, hheader⟩ := List.mem_filter.1 hx
  have hne : x ≠ c := by
    rintro rfl
    simp [Outline.isHeaderPart, (hroot.loopBody n hn hlabel).2 x hc] at hheader
  exact (hroot.apart_of_braced hn hx (child?_mem hc) hne (hroot.braced_of_loop hn hlabel hx)
    (hroot.braced_of_loop hn hlabel (child?_mem hc))).mono x.mem_nodes_self
      (mem_nodes_of_statements hy)

/-- The header of a switch or select stands between braces, and apart from the clauses. -/
theorem choice_apart (hroot : root.Spread) (hd : d ∈ root.children) (hn : n ∈ d.nodes)
    {form : Choice} (hlabel : n.label.choice? = some form) {x : Node} (hx : x ∈ n.headerParts) :
    x.Braced ∧ ∀ k ∈ n.clauses, x.Apart k := by
  have hn' := mem_nodes_of_child hd hn
  obtain ⟨hx, hheader⟩ := List.mem_filter.1 hx
  have hbraced : x.Braced := by
    refine hroot.braces n hn' (Label.isConstruct_of_choice hlabel) x hx ?_
    have hif : n.label ≠ .ifStatement := by
      intro h
      rw [h] at hlabel
      cases hlabel
    simp_all [hangsOn, Outline.isHeaderPart, isClause]
  refine ⟨hbraced, fun k hk a ha b hb => ?_⟩
  obtain ⟨hk, hclause⟩ := List.mem_filter.1 hk
  have hne : x ≠ k := by
    rintro rfl
    simp_all [Outline.isHeaderPart, isClause]
  have ha' := hbraced a ha
  have hstatement : x.isStatement := by
    simp only [Outline.isHeaderPart, Bool.and_eq_true] at hheader
    exact hheader.1.1
  -- a clause in front of the header would leave the first line of the header free
  rcases pairwise_or (hroot.apart d hd n hn) hx hk hne with h | h
  · have hstart := (hroot.lines_of_mem (hereditary_nodes root n hn' k hk) hb).1
    have := h (isStatement_of_isClause hclause) a ha
    omega
  · have := h hstatement b hb
    omega

end Spread

end Node

/-- The stretches of a declaration that a walk comes to: each node keeps apart from those that are
walked behind it. -/
def Visit.Fits (d : Node) : Visit → Prop
  | .node n => n ∈ Node.nodesIn d.children
  | .nodes ns => (∀ n ∈ ns, n ∈ Node.nodesIn d.children) ∧ ns.Pairwise Node.Apart
  | .clauses form ks => ∃ n ∈ Node.nodesIn d.children, n.label.choice? = some form ∧
      ks.Sublist n.clauses

namespace Node.Spread

variable {root d n : Node}

/-- A walk that picks some of the children keeps their order and spacing. The rows below are all of
this sort. -/
theorem fits_filter (hroot : root.Spread) (hd : d ∈ root.children) (hn : n ∈ nodesIn d.children)
    (p : Node → Bool) : (Visit.nodes (n.children.filter p)).Fits d :=
  ⟨fun s hs => hereditary_nodesIn d.children n hn s (List.mem_filter.1 hs).1,
    (hroot.children_apart hd (mem_nodes_of_below hn)).filter p⟩

theorem fits_statements (hroot : root.Spread) (hd : d ∈ root.children)
    (hn : n ∈ nodesIn d.children) : (Visit.nodes n.statements).Fits d :=
  ⟨(hereditary_nodesIn d.children).statements hn,
    (hroot.spaced_apart hd).statements (mem_nodes_of_below hn)⟩

theorem fits_statementsUnder (hroot : root.Spread) (hd : d ∈ root.children)
    (hn : n ∈ nodesIn d.children) (f : Field) : (Visit.nodes (n.statementsUnder f)).Fits d := by
  unfold statementsUnder
  cases hc : n.child? f with
  | none => exact ⟨by simp, List.Pairwise.nil⟩
  | some c => exact hroot.fits_statements hd (hereditary_nodesIn d.children n hn c (child?_mem hc))

/-- The initializer of an if stands in front of its condition. -/
theorem fits_condHeader (hroot : root.Spread) (hd : d ∈ root.children)
    (hn : n ∈ nodesIn d.children) (hlabel : n.label = .ifStatement) :
    (Visit.nodes (n.namedUnder .initializer ++ n.namedUnder .condition)).Fits d := by
  have hn' := mem_nodes_of_inside hd hn
  have hunder : ∀ f, (Visit.nodes (n.namedUnder f)).Fits d := by
    intro f
    unfold namedUnder
    cases hc : n.child? f with
    | none => exact ⟨by simp, List.Pairwise.nil⟩
    | some c => exact hroot.fits_filter hd (hereditary_nodesIn d.children n hn c (child?_mem hc)) _
  refine ⟨fun s hs => ?_, List.pairwise_append.2
    ⟨(hunder _).2, (hunder _).2, fun x hx y hy => ?_⟩⟩
  · exact (List.mem_append.1 hs).elim ((hunder _).1 s) ((hunder _).1 s)
  · obtain ⟨i, hi, hx⟩ := mem_namedUnder hx
    obtain ⟨c, hc, hy⟩ := mem_namedUnder hy
    have hne : i ≠ c := by
      rintro rfl
      exact absurd ((child?_field hi).symm.trans (child?_field hc)) (by decide)
    exact (hroot.apart_of_braced hn' (child?_mem hi) (child?_mem hc) hne
      (hroot.braced_of_field hn' hlabel (by decide) hi)
      (hroot.braced_of_field hn' hlabel (by decide) hc)).mono
        (mem_nodes_of_child hx x.mem_nodes_self) (mem_nodes_of_child hy y.mem_nodes_self)

theorem fits_child? (hn : n ∈ nodesIn d.children) (f : Field) :
    (Visit.nodes (n.child? f).toList).Fits d := by
  refine ⟨(hereditary_nodesIn d.children).child? hn f, ?_⟩
  cases n.child? f with
  | none => exact List.Pairwise.nil
  | some c => exact List.pairwise_singleton _ _

theorem fits_clauseBody (hroot : root.Spread) (hd : d ∈ root.children)
    (hn : n ∈ nodesIn d.children) : (Visit.nodes n.clauseBody).Fits d :=
  ⟨fun _ hs => (hereditary_nodesIn d.children).listed hn (mem_clauseBody hs),
    (hroot.spaced_apart hd).clauseBody (mem_nodes_of_below hn)⟩

end Node.Spread

end GoFlow
