import GoFlow.Proofs.LoopMarks
import GoFlow.Proofs.Paths

/-!
# Functions that do not return early

Functions whose body does not return, with every statement and every closing brace on a line of its
own. Nothing leaves such a function but its last line.

- `Node.Unbroken`: the functions, in their file.
- `Node.Spread.nested_or_apart`: of two constructs, one is inside the other, or they are on
  different lines.
- `Node.Unbroken.lt_elseEnd`: what stands inside an if ends above the end of the false path.
- `Node.Unbroken.clauseEntry_off`: the block of a clause lies on no line inside a construct that
  stands next to it.
- `Node.Unbroken.solo`: the function may be taken out into a file of its own.
-/

namespace GoFlow

namespace Node

/-- The part of a row of children up to the first colon. -/
def upToColon (children : List Node) : List Node :=
  children.take (children.length - (afterColon children).length)

/-- The parts of a node in which no statement of it stands: the signature of a function, the
initializer and condition of an if, the header of a loop, switch or select, and what a clause has
in front of its colon. -/
def aside (n : Node) : List Node :=
  if n.label.isFunction then n.children.filter (!·.isUnder .body)
  else if n.label = .ifStatement then
    n.children.filter fun c => c.isUnder .initializer || c.isUnder .condition
  else if n.label = .forStatement || n.label.choice?.isSome then n.headerParts
  else if n.label.isClause then upToColon n.children
  else []

/-- A function of a file with every statement and every closing brace on a line of its own. Its body
does not return, and all its statements stand in bodies and clauses: elsewhere it would take a
function literal. -/
structure Unbroken (root d : Node) : Prop extends Spread root where
  declared : d ∈ root.children
  function : d.label.isFunction
  hasBody : (d.child? .body).isSome
  partFields : (d.children.filterMap (·.head.field)).Nodup
  returnless : ∀ n ∈ d.nodes, n.label ≠ .returnStatement
  bare : ∀ n ∈ d.nodes, ∀ c ∈ n.aside, c.constructs = []
  /-- The closing brace of a function is not on its first line. -/
  first_lt_last : d.startLine < d.endLine
  /-- Nor is that of the consequence of an if. -/
  consequence : ∀ n ∈ d.nodes, n.label = .ifStatement →
    n.startLine < ((n.child? .consequence).getD n).endLine
  /-- What follows an else is a block or another if. -/
  elsePart : ∀ n ∈ d.nodes, n.label = .ifStatement → ∀ a ∈ n.child? .alternative,
    a.label = .block ∨ a.label = .ifStatement
  /-- Clauses stand below the first line of their switch or select. -/
  clauseBelow : ∀ n ∈ d.nodes, n.label.choice?.isSome → ∀ k ∈ n.clauses,
    n.startLine < k.startLine

theorem mem_constructs_of_below {d n : Node} (hn : n ∈ nodesIn d.children)
    (hconstruct : n.label.isConstruct) : n ∈ d.constructs :=
  mem_constructs.2 ⟨mem_nodes_of_below hn, hconstruct⟩

/-! ## Lines of constructs -/

/-- **Of two constructs**, one is inside the other, or they are on different lines. -/
theorem Spread.nested_or_apart {root d n : Node} (hroot : root.Spread) (hd : d ∈ root.children)
    (hn : n ∈ d.nodes) {a b : Node} (ha : a ∈ n.constructs) (hb : b ∈ n.constructs) :
    a = b ∨ b ∈ nodesIn a.children ∨ a ∈ nodesIn b.children ∨ a.endLine < b.startLine ∨
      b.endLine < a.startLine := by
  induction hsize : sizeOf n using Nat.strongRecOn generalizing n with
  | ind _ ih =>
    subst hsize
    have hbelow : ∀ {c m : Node}, c ∈ n.children → m ∈ c.constructs → m ∈ nodesIn n.children :=
      fun hc hm => mem_nodesIn.2 ⟨_, hc, (mem_constructs.1 hm).1⟩
    rcases constructs_cases ha with rfl | ⟨c, hc, ha'⟩
    · rcases constructs_cases hb with rfl | ⟨c, hc, hb'⟩
      · exact .inl rfl
      · exact .inr (.inl (hbelow hc hb'))
    rcases constructs_cases hb with rfl | ⟨c', hc', hb'⟩
    · exact .inr (.inr (.inl (hbelow hc ha')))
    by_cases hcc : c = c'
    · subst hcc
      exact ih _ (sizeOf_lt_of_mem hc) (hereditary_nodes d n hn c hc) ha' hb' rfl
    · rcases pairwise_or (hroot.children_apart hd hn) hc hc' hcc with h | h
      · rcases h a ha' b hb' with h | h
        · exact .inr (.inr (.inr (.inl h)))
        · exact .inr (.inr (.inr (.inr (by omega))))
      · rcases h b hb' a ha' with h | h
        · exact .inr (.inr (.inr (.inr h)))
        · exact .inr (.inr (.inr (.inl (by omega))))

namespace Unbroken

variable {root d n m k : Node}

theorem mem_root (hroot : root.Unbroken d) (hn : n ∈ d.nodes) : n ∈ root.nodes :=
  mem_nodes_of_child hroot.declared hn

theorem startLine_le (hroot : root.Unbroken d) (hn : n ∈ nodesIn d.children) :
    n.startLine ≤ n.endLine :=
  startLine_le_endLine (hroot.nested_of_mem (hroot.mem_root (mem_nodes_of_below hn)))

theorem head_named (hroot : root.Unbroken d) : d.head.named :=
  GoShaped.named_of_isStatement (hroot.isStatement_of_mem (hroot.mem_root d.mem_nodes_self)
    d.mem_nodes_self (Label.isConstruct_of_isFunction hroot.function))

/-- All of the function but the declaration itself is below it. -/
theorem mem_below (hroot : root.Unbroken d) (hn : n ∈ d.nodes)
    (hplain : n.label.isFunction = false) : n ∈ nodesIn d.children := by
  have hfunction := hroot.function
  obtain ⟨head, kids⟩ := d
  rw [nodes] at hn
  refine (List.mem_cons.1 hn).resolve_left ?_
  rintro rfl
  rw [hfunction] at hplain
  cases hplain

/-- A part with a construct in it does not stand aside. -/
theorem not_mem_aside (hroot : root.Unbroken d) (hn : n ∈ d.nodes) {c : Node}
    (hm : m ∈ c.constructs) : c ∉ n.aside := by
  intro hc
  rw [hroot.bare n hn c hc] at hm
  cases hm

/-- Constructs inside a construct start below it. -/
theorem startLine_lt_of_below (hroot : root.Unbroken d) (hn : n ∈ d.constructs)
    (hm : m ∈ nodesIn n.children) (hconstruct : m.label.isConstruct) :
    n.startLine < m.startLine ∧ m.startLine ≤ m.endLine ∧ m.endLine ≤ n.endLine := by
  obtain ⟨hn, hn'⟩ := mem_constructs.1 hn
  obtain ⟨c, hc, hm'⟩ := mem_nodesIn.1 hm
  have hlines := hroot.lines_of_mem (hroot.mem_root hn)
    (mem_constructs_of_below hm hconstruct)
  exact ⟨hroot.startLine_lt (hroot.mem_root hn) hn' hc (mem_constructs.2 ⟨hm', hconstruct⟩),
    hlines.2⟩

/-- A construct that starts on a line of another, not the first, is inside it. -/
theorem below_of_startLine (hroot : root.Unbroken d) (hn : n ∈ d.constructs)
    (hm : m ∈ d.constructs) (hfirst : n.startLine < m.startLine)
    (hlast : m.startLine ≤ n.endLine) : m ∈ nodesIn n.children := by
  have hle := (hroot.lines_of_mem (hroot.mem_root d.mem_nodes_self) hm).2.1
  rcases hroot.nested_or_apart hroot.declared d.mem_nodes_self hn hm with
    rfl | h | h | h | h
  · omega
  · exact h
  · have := (hroot.startLine_lt_of_below hm h (mem_constructs.1 hn).2).1
    omega
  · omega
  · omega

/-- Where a line behind the first of `n` is on the lines of `f` too, `n` is inside `f`, unless it is
the other way round. -/
theorem below_of_shared (hroot : root.Unbroken d) {f : Node} (hn : n ∈ d.constructs)
    (hf : f ∈ d.constructs) (hne : n ≠ f) (hoff : f ∉ nodesIn n.children) {t : Int}
    (hfirst : n.startLine < t) (hlast : t ≤ n.endLine + 1) (hfirst' : f.startLine < t)
    (hlast' : t ≤ f.endLine) : n ∈ nodesIn f.children := by
  rcases hroot.nested_or_apart hroot.declared d.mem_nodes_self hn hf with
    heq | hfn | hnf | hlt | hlt
  · exact absurd heq hne
  · exact absurd hfn hoff
  · exact hnf
  · omega
  · omega

/-- The statements of the function, and those of a loop, stand in its body. -/
theorem isUnder_body (hroot : root.Unbroken d) (hn : n ∈ d.nodes) (hopens : n.label.opens)
    {c : Node} (hc : c ∈ n.children) (hm : m ∈ c.constructs) : c.isUnder .body := by
  by_contra hother
  refine hroot.not_mem_aside hn hm ?_
  unfold aside
  by_cases hfunction : n.label.isFunction
  · rw [if_pos hfunction]
    exact List.mem_filter.2 ⟨hc, by simpa using hother⟩
  · have hlabel : n.label = .forStatement := by simpa [Label.opens, hfunction] using hopens
    have hn' := hroot.mem_root hn
    have hstatement := hroot.isStatement_of_mem (hereditary_nodes root n hn' c hc)
      (mem_constructs.1 hm).1 (mem_constructs.1 hm).2
    rw [if_neg hfunction, hlabel, if_neg (by decide), if_pos (by decide)]
    refine List.mem_filter.2 ⟨hc, (hroot.loop n hn' hlabel c hc hstatement).resolve_right ?_⟩
    intro hfield
    simp [isUnder, hfield] at hother

/-- The statements of the function stand between its braces. -/
theorem inside_function (hroot : root.Unbroken d) (hm : m ∈ nodesIn d.children)
    (hconstruct : m.label.isConstruct) : d.startLine < m.startLine ∧ m.endLine < d.endLine := by
  obtain ⟨c, hc, hm⟩ := mem_nodesIn.1 hm
  have hd := hroot.mem_root d.mem_nodes_self
  have hif : d.label ≠ .ifStatement := by
    intro h
    have hfunction := hroot.function
    rw [h] at hfunction
    cases hfunction
  have hbraced := hroot.braces d hd (Label.isConstruct_of_isFunction hroot.function) c hc
    (by simp [hangsOn, hif, Label.choice?_of_isFunction hroot.function]) m
    (mem_constructs.2 ⟨hm, hconstruct⟩)
  have hinside := ((between_self (hroot.nested_of_mem hd)).child hc).lines
  omega

/-- The statements of a loop stand between its braces. -/
theorem inside_for (hroot : root.Unbroken d) (hn : n ∈ d.nodes) (hlabel : n.label = .forStatement)
    (hm : m ∈ nodesIn n.children) (hconstruct : m.label.isConstruct) :
    n.startLine < m.startLine ∧ m.endLine < n.endLine := by
  obtain ⟨c, hc, hm⟩ := mem_nodesIn.1 hm
  exact hroot.inside_loop (hroot.mem_root hn) hlabel hc (mem_constructs.2 ⟨hm, hconstruct⟩)

/-! ## Ifs -/

/-- A construct in an if stands in its consequence or in its alternative. -/
theorem cond_cases (hroot : root.Unbroken d) (hn : n ∈ d.nodes) (hlabel : n.label = .ifStatement)
    (hm : m ∈ nodesIn n.children) (hconstruct : m.label.isConstruct) :
    (∃ c, n.child? .consequence = some c ∧ m ∈ c.constructs) ∨
      ∃ a, n.child? .alternative = some a ∧ m ∈ a.constructs := by
  have hn' := hroot.mem_root hn
  obtain ⟨c, hc, hm⟩ := mem_nodesIn.1 hm
  have hm := mem_constructs.2 ⟨hm, hconstruct⟩
  have hstatement := hroot.isStatement_of_mem (hereditary_nodes root n hn' c hc)
    (mem_constructs.1 hm).1 hconstruct
  have hchild : ∀ {f}, c.head.field = some f → n.child? f = some c :=
    fun hf => child?_eq_some (hroot.fields n hn' (.inl hlabel)) hc hf
  have haside : (c.isUnder .initializer || c.isUnder .condition) = false := by
    by_contra hheader
    refine hroot.not_mem_aside hn hm ?_
    rw [aside, hlabel, if_neg (by decide), if_pos rfl]
    exact List.mem_filter.2 ⟨hc, by simpa only [Bool.not_eq_false] using hheader⟩
  rcases hroot.cond n hn' hlabel c hc hstatement with hfield | ⟨hfield, -⟩
  · exact .inr ⟨c, hchild hfield, hm⟩
  · simp only [List.mem_cons, List.not_mem_nil, or_false] at hfield
    rcases hfield with hfield | hfield | hfield
    · simp [isUnder, hfield] at haside
    · simp [isUnder, hfield] at haside
    · exact .inl ⟨c, hchild hfield, hm⟩

/-- What stands behind an else ends above the last line there, unless it is an if. -/
theorem end_lt_alternative (hroot : root.Unbroken d) (hn : n ∈ d.nodes)
    (hlabel : n.label = .ifStatement) {a : Node} (ha : n.child? .alternative = some a)
    (hm : m ∈ a.constructs) (hother : m.label ≠ .ifStatement) : m.endLine < a.endLine := by
  induction hsize : sizeOf n using Nat.strongRecOn generalizing n a with
  | ind _ ih =>
    subst hsize
    have hn' := hroot.mem_root hn
    have ha' := hereditary_nodes d n hn a (child?_mem ha)
    rcases hroot.elsePart n hn hlabel a ha with hblock | hif
    · exact (hroot.braces n hn' (by rw [hlabel]; rfl) a (child?_mem ha)
        (by simp [hangsOn, hlabel, hblock, Label.choice?, Label.isConstruct, Label.isFunction])
        m hm).2
    · -- an else if ends where the if does, so that the parts of the else if have to be looked at
      have hself := between_self (hroot.nested_of_mem (hroot.mem_root ha'))
      have hconstruct := (mem_constructs.1 hm).2
      rcases constructs_cases hm with rfl | ⟨c, hc, hm⟩
      · exact absurd hif hother
      have hm := mem_nodesIn.2 ⟨c, hc, (mem_constructs.1 hm).1⟩
      rcases hroot.cond_cases ha' hif hm hconstruct with ⟨c, hc, hm⟩ | ⟨a', ha'', hm⟩
      · have hbraced := hroot.braced_of_field (hroot.mem_root ha') hif (by decide) hc m hm
        have hstop := (hself.child (child?_mem hc)).stop
        omega
      · have hlt := ih _ (sizeOf_lt_of_mem (child?_mem ha)) ha' hif ha'' hm rfl
        have hstop := (hself.child (child?_mem ha'')).stop
        omega

/-- The false path of an if starts below the if. -/
theorem startLine_lt_falsePath (hroot : root.Unbroken d) (hn : n ∈ d.nodes)
    (hlabel : n.label = .ifStatement) : n.startLine < (Outline.falsePath n).1 := by
  have hfirst := hroot.consequence n hn hlabel
  unfold Outline.falsePath
  cases ha : n.child? .alternative with
  | none => exact hfirst
  | some a => exact (hroot.alternative n (hroot.mem_root hn) hlabel a ha).1

/-- The false path of an if ends below its first line, on one of its lines or the next. -/
theorem elseEnd_bounds (hroot : root.Unbroken d) (hn : n ∈ nodesIn d.children)
    (hlabel : n.label = .ifStatement) :
    n.startLine < Context.elseEnd { function := some d } n ∧
      Context.elseEnd { function := some d } n ≤ n.endLine + 1 ∧
      Context.elseEnd { function := some d } n ≤ d.endLine := by
  have hn' := mem_nodes_of_below hn
  have hself := between_self (hroot.nested_of_mem (hroot.mem_root hn'))
  have hinside := hroot.inside_function hn (by rw [hlabel]; rfl)
  have hfirst := hroot.consequence n hn' hlabel
  unfold Context.elseEnd
  cases ha : n.child? .alternative with
  | some a =>
    have hbelow := (hroot.alternative n (hroot.mem_root hn') hlabel a ha).1
    have hlines := hself.child (child?_mem ha)
    have hle := startLine_le_endLine hlines.nested
    have hstop := hlines.stop
    simp only
    omega
  | none =>
    have hstop : ((n.child? .consequence).getD n).endLine ≤ n.endLine := by
      cases hc : n.child? .consequence with
      | none => exact Int.le_refl _
      | some c => exact (hself.child (child?_mem hc)).stop
    simp only [Option.elim_some]
    omega

/-- **What stands inside an if ends above the end of the false path**, unless it is an if. -/
theorem lt_elseEnd (hroot : root.Unbroken d) (hn : n ∈ nodesIn d.children)
    (hlabel : n.label = .ifStatement) (hm : m ∈ nodesIn n.children)
    (hconstruct : m.label.isConstruct) (hother : m.label ≠ .ifStatement) :
    m.endLine < Context.elseEnd { function := some d } n := by
  have hn' := mem_nodes_of_below hn
  have hself := between_self (hroot.nested_of_mem (hroot.mem_root hn'))
  have hm' := (hereditary_nodesIn d.children).nodes hn (mem_nodes_of_below hm)
  have hinside := (hroot.inside_function hm' hconstruct).2
  unfold Context.elseEnd
  rcases hroot.cond_cases hn' hlabel hm hconstruct with ⟨c, hc, hm⟩ | ⟨a, ha, hm⟩
  · have hbraced := hroot.braced_of_field (hroot.mem_root hn') hlabel (by decide) hc m hm
    cases ha : n.child? .alternative with
    | some a =>
      have hle := (hroot.alternative n (hroot.mem_root hn') hlabel a ha).2 .consequence (by simp)
        c hc
      have hlines := startLine_le_endLine (hself.child (child?_mem ha)).nested
      simp only
      omega
    | none =>
      simp only [hc, Option.getD_some, Option.elim_some]
      omega
  · have hlt := hroot.end_lt_alternative hn' hlabel ha hm hother
    simp only [ha]
    exact hlt

/-! ## Clauses -/

/-- Every construct of the function is reached. -/
theorem reached_of_constructs (hroot : root.Unbroken d) (hn : n ∈ d.nodes)
    (hm : m ∈ n.constructs) : m ∈ n.reached := by
  induction hsize : sizeOf n using Nat.strongRecOn generalizing n with
  | ind _ ih =>
    subst hsize
    rcases constructs_cases hm with rfl | ⟨c, hc, hm⟩
    · exact mem_reached_self m
    have hreached := ih _ (sizeOf_lt_of_mem hc) (hereditary_nodes d n hn c hc) hm rfl
    refine mem_reached.2 (.inr ⟨c, ?_, hreached⟩)
    split
    · rename_i hclause
      have hsuffix : afterColon n.children <:+ n.children :=
        (List.tail_suffix _).trans (List.dropWhile_suffix _)
      have hsplit : upToColon n.children ++ afterColon n.children = n.children := by
        rw [List.suffix_iff_eq_drop.1 hsuffix]
        exact List.take_append_drop _ _
      rw [← hsplit] at hc
      refine (List.mem_append.1 hc).resolve_left fun hfront => ?_
      refine hroot.not_mem_aside hn hm ?_
      unfold aside
      cases hl : n.label <;> simp_all [Label.isClause, Label.isFunction, Label.choice?]
    · exact hc

/-- The block of a clause lies on a line of the switch or select, not on the first. -/
theorem clauseEntry_bounds (hroot : root.Unbroken d) (hn : n ∈ d.nodes) {form : Choice}
    (hlabel : n.label.choice? = some form) (hk : k ∈ n.clauses) :
    n.startLine < (Outline.clauseEntry form k).1 ∧ (Outline.clauseEntry form k).1 ≤ n.endLine := by
  have hn' := hroot.mem_root hn
  have hk' := (List.mem_filter.1 hk).1
  have hbelow := hroot.clauseBelow n hn (by rw [hlabel]; rfl) k hk
  have hentry := (between_self
    (hroot.nested_of_mem (hereditary_nodes root n hn' k hk'))).clauseEntry form
  have hstop := ((between_self (hroot.nested_of_mem hn')).child hk').stop
  omega

/-- **The block of a clause** is not inside a construct of the switch or select. -/
theorem clauseEntry_off (hroot : root.Unbroken d) (hn : n ∈ nodesIn d.children) {form : Choice}
    (hlabel : n.label.choice? = some form) (hk : k ∈ n.clauses) (hm : m ∈ nodesIn n.children)
    (hconstruct : m.label.isConstruct) :
    (Outline.clauseEntry form k).1 ≤ m.startLine ∨ m.endLine ≤ (Outline.clauseEntry form k).1 := by
  have hn' := mem_nodes_of_below hn
  have hroot' := hroot.mem_root hn'
  obtain ⟨c, hc, hm⟩ := mem_nodesIn.1 hm
  have hm := mem_constructs.2 ⟨hm, hconstruct⟩
  have hc' := hereditary_nodes root n hroot' c hc
  have hstatement := hroot.isStatement_of_mem hc' (mem_constructs.1 hm).1 hconstruct
  have hclause : c.isClause := by
    refine (hroot.choice n hroot' (by rw [hlabel]; rfl) c hc hstatement).resolve_left ?_
    intro hheader
    refine hroot.not_mem_aside hn' hm ?_
    unfold aside
    have hheader : c ∈ n.headerParts := List.mem_filter.2 ⟨hc, hheader⟩
    cases hl : n.label <;> simp_all [Label.choice?, Label.isFunction]
  obtain ⟨hk, hk'⟩ := List.mem_filter.1 hk
  by_cases hck : c = k
  · subst hck
    obtain ⟨s, hs, hm⟩ := hroot.exists_clauseBody hc' hclause
      (hroot.reached_of_constructs (hereditary_nodes d n hn' c hc) hm) hconstruct
    exact hroot.toSpread.clauseEntry_off hroot.declared (hereditary_nodesIn d.children n hn c hc) hs
      (mem_constructs_of_reached hm hconstruct) form
  · -- a clause keeps to its own lines, and other clauses keep off them
    have hkr := hereditary_nodes root n hroot' k hk
    have hentry := (between_self (hroot.nested_of_mem hkr)).clauseEntry form
    have hlines := hroot.lines_of_mem hc' hm
    rcases pairwise_or ((hroot.apart d hroot.declared n hn').and (hroot.ordered n hroot')) hc hk hck
      with ⟨h, -⟩ | ⟨-, h⟩
    · have := h (isStatement_of_isClause hk') m hm
      omega
    · omega

end Unbroken

/-! ## A file of its own -/

theorem mem_nodes_alone {head : Head} {d n : Node} :
    n ∈ (Node.mk head [d]).nodes ↔ n = .mk head [d] ∨ n ∈ d.nodes := by
  rw [nodes, nodesIn, nodesIn, List.append_nil, List.mem_cons]

section

variable {root d n : Node}

/-- The file itself is no construct, so that what is said of the constructs of a declaration in a
file of its own is said in the file that it comes from. -/
theorem GoShaped.mem_of_alone (hroot : root.GoShaped) (hd : d ∈ root.children)
    (hn : n ∈ (Node.mk root.head [d]).nodes) (hconstruct : n.label.isConstruct) :
    n ∈ root.nodes := by
  rcases mem_nodes_alone.1 hn with rfl | hn
  · exact absurd (hroot.root_plain.symm.trans hconstruct) Bool.false_ne_true
  · exact mem_nodes_of_child hd hn

/-- A declaration on its own is shaped like one among others. -/
theorem GoShaped.alone (hroot : root.GoShaped) (hd : d ∈ root.children) :
    (Node.mk root.head [d]).GoShaped := by
  have hmem := fun n => @GoShaped.mem_of_alone root d n hroot hd
  have hif : ∀ n ∈ (Node.mk root.head [d]).nodes, n.label = .ifStatement → n ∈ root.nodes :=
    fun n hn h => hmem n hn (by rw [h]; rfl)
  have hfor : ∀ n ∈ (Node.mk root.head [d]).nodes, n.label = .forStatement → n ∈ root.nodes :=
    fun n hn h => hmem n hn (by rw [h]; rfl)
  refine {
    root_plain := hroot.root_plain
    top := ?top
    leaf := ?leaf
    fields := fun n hn h => hroot.fields n (h.elim (hif n hn) (hfor n hn)) h
    body := ?body
    cond := fun n hn h => hroot.cond n (hif n hn h) h
    loop := fun n hn h => hroot.loop n (hfor n hn h) h
    choice := ?choice }
  case top =>
    intro c hc
    obtain rfl := List.mem_singleton.1 hc
    exact hroot.top c hd
  case leaf =>
    intro n hn hplain
    rcases mem_nodes_alone.1 hn with rfl | hn
    · -- a file that is a token or comment would hold no function
      have hempty := List.isEmpty_iff.1 (hroot.leaf root root.mem_nodes_self hplain).2
      rw [hempty] at hd
      cases hd
    · exact hroot.leaf n (mem_nodes_of_child hd hn) hplain
  case body =>
    intro n hn h
    refine hroot.body n (h.elim (fun h => ?_) (hfor n hn)) h
    exact hmem n hn (Label.isConstruct_of_isFunction h)
  case choice =>
    intro n hn h
    obtain ⟨form, hform⟩ := Option.isSome_iff_exists.1 h
    exact hroot.choice n (hmem n hn (Label.isConstruct_of_choice hform)) h

/-- It is spread over its lines as before. -/
theorem Spread.alone (hroot : root.Spread) (hd : d ∈ root.children) :
    (Node.mk root.head [d]).Spread := by
  have hmem := fun n => @GoShaped.mem_of_alone root d n hroot.toGoShaped hd
  refine { hroot.toGoShaped.alone hd with
    nested := ?nested
    ordered := ?ordered
    apart := ?apart
    braces := fun n hn h => hroot.braces n (hmem n hn h) h
    alternative := fun n hn h => hroot.alternative n (hmem n hn (by rw [h]; rfl)) h
    clause := ?clause
    loopBody := fun n hn h => hroot.loopBody n (hmem n hn (by rw [h]; rfl)) h }
  case nested =>
    have hnested := hroot.nested
    obtain ⟨head, kids⟩ := root
    rw [Node.nested, Bool.and_eq_true, nestedIn_iff] at hnested ⊢
    refine ⟨hnested.1, fun n hn => ?_⟩
    obtain rfl := List.mem_singleton.1 hn
    exact hnested.2 n hd
  case ordered =>
    intro n hn
    rcases mem_nodes_alone.1 hn with rfl | hn
    · exact List.pairwise_singleton _ _
    · exact hroot.ordered n (mem_nodes_of_child hd hn)
  case apart =>
    intro c hc
    obtain rfl := List.mem_singleton.1 hc
    exact hroot.apart c hd
  case clause =>
    intro k hk hclause m hm
    rcases mem_nodes_alone.1 hk with rfl | hk
    · refine hroot.clause root root.mem_nodes_self hclause m ?_
      obtain ⟨hm, hconstruct⟩ := mem_constructs.1 hm
      exact mem_constructs.2 ⟨hmem m hm hconstruct, hconstruct⟩
    · exact hroot.clause k (mem_nodes_of_child hd hk) hclause m hm

/-- A file that holds the function and nothing else. -/
structure Solo (root d : Node) : Prop extends Unbroken root d where
  children_eq : root.children = [d]

/-- The function is unbroken in a file of its own. -/
theorem Unbroken.solo (hroot : root.Unbroken d) : (Node.mk root.head [d]).Solo d :=
  { hroot.toSpread.alone hroot.declared, hroot with
    declared := List.mem_singleton.2 rfl, children_eq := rfl }

namespace Solo

theorem eq_of_mem (hroot : root.Solo d) (hn : n ∈ root.children) : n = d := by
  rw [hroot.children_eq] at hn
  exact List.mem_singleton.1 hn

theorem named_eq (hroot : root.Solo d) : root.named = [d] := by
  rw [named, hroot.children_eq]
  exact List.filter_cons_of_pos hroot.head_named

end Solo

end

end Node

end GoFlow
