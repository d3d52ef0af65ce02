import GoFlow.Proofs.Layout
import GoFlow.Proofs.Modularity

/-!
# A walk through a construct

Where statements have lines of their own, the blocks of a construct lie between its first and its
last line, and no other construct takes these lines over. What the walk registers inside a construct
is then what is left there in the end.

- `Visits.exists_construct`: a visit registers lines of the constructs that it comes to.
- `Passage`: the changes of a visit, cut into those before a construct, its own, and those after it.
  The ones before keep off the lines inside the construct, the ones after off all of its lines.
- `Visits.passes`: a visit in a declaration can be cut at each construct that is reached.
-/

namespace GoFlow

/-! ## Lines of constructs -/

/-- A node that stands behind a block is a construct, on whose lines the block lies, or on the line
below. -/
theorem Node.Accounts.bounds {d n : Node} {l : Int} {kind : BlockKind}
    (h : n.Accounts (some d) l kind) (hn : n.nested) (hd : n.endLine ≤ d.endLine) :
    n.label.isConstruct ∧ n.startLine ≤ l ∧ l ≤ n.endLine + 1 := by
  have hself := between_self hn
  have hle := startLine_le_endLine hn
  have hcloses : ∀ k ∈ n.clauses, k.ClosesOn l → n.startLine ≤ l ∧ l ≤ n.endLine + 1 := by
    rintro k hk ⟨-, rfl⟩
    have hk' := hself.child (List.mem_filter.1 hk).1
    cases hlast : k.clauseBody.getLast? with
    | none =>
      have := hk'.lines.2
      simp only [Option.getD_none]
      omega
    | some s =>
      have := ((Between.hereditary _ _).listed hk'
        (mem_clauseBody (List.mem_of_getLast? hlast))).lines.2
      simp only [Option.getD_some]
      omega
  cases kind with
  | functionEntry =>
    obtain ⟨hlabel, rfl⟩ := h
    exact ⟨Label.isConstruct_of_isFunction hlabel, by omega, by omega⟩
  | returnStatement =>
    rcases h with ⟨hlabel, rfl⟩ | ⟨hlabel, rfl, -⟩
    · exact ⟨by rw [hlabel]; rfl, by omega, by omega⟩
    · exact ⟨Label.isConstruct_of_isFunction hlabel, by omega, by omega⟩
  | goStatement | ifCondition | forStatement | forBody | selectStatement =>
    obtain ⟨hlabel, rfl⟩ := h
    exact ⟨by rw [hlabel]; rfl, by omega, by omega⟩
  | elseCondition =>
    obtain ⟨hlabel, rfl⟩ := h
    have := hself.falsePath
    rw [elseStart_eq] at this
    exact ⟨by rw [hlabel]; rfl, by omega, by omega⟩
  | elseBody =>
    obtain ⟨hlabel, rfl⟩ := h
    refine ⟨by rw [hlabel]; rfl, ?_⟩
    unfold Context.elseEnd
    cases ha : n.child? .alternative with
    | some a =>
      have := (hself.child (child?_mem ha)).lines.2
      simp only
      omega
    | none =>
      -- the line below the consequence, unless the declaration ends first
      have hstop : n.startLine ≤ ((n.child? .consequence).getD n).endLine ∧
          ((n.child? .consequence).getD n).endLine ≤ n.endLine := by
        cases hc : n.child? .consequence with
        | none => exact hself.lines.2
        | some c => exact (hself.child (child?_mem hc)).lines.2
      simp only [Option.elim_some]
      omega
  | switchStatement =>
    obtain ⟨hlabel, rfl⟩ := h
    exact ⟨by rcases hlabel with h | h <;> rw [h] <;> rfl, by omega, by omega⟩
  | caseClause =>
    obtain ⟨hlabel, k, hk, hl⟩ := h
    exact ⟨by rcases hlabel with h | h <;> rw [h] <;> rfl, hcloses k hk hl⟩
  | commClause =>
    obtain ⟨hlabel, k, hk, hl⟩ := h
    exact ⟨by rw [hlabel]; rfl, hcloses k hk hl⟩
  | start | exit | unknown => exact h.elim

section

variable {ε : Type} {decode : List UInt8 → Except ε String} {root d n : Node}
variable {w w' : Walk} {cs : List Change}

/-- The nodes of a row inside a declaration belong to it. -/
theorem Node.GoShaped.surveys (hroot : root.GoShaped) (hd : d ∈ root.children) (ns : List Node) :
    Surveys fun o n => o = some d ∧ n ∈ nodesIn d.children ∧ n ∈ nodesIn ns where
  child := by
    rintro o n c ⟨rfl, hn, hns⟩ hc
    have hc' := hereditary_nodesIn d.children n hn c hc
    exact ⟨owner_of_plain (hroot.top d hd c hc'), hc', hereditary_nodesIn ns n hns c hc⟩
  body := by
    rintro o n ⟨-, hn, -⟩ - c hc
    exact hroot.top d hd c (hereditary_nodesIn d.children n hn c (child?_mem hc))
  ifPart := by
    rintro o n ⟨-, hn, -⟩ - f - c hc
    exact hroot.top d hd c (hereditary_nodesIn d.children n hn c (child?_mem hc))

/-- **Behind what a row registers** stands a construct in the row. -/
theorem Visits.exists_accounts (hroot : root.GoShaped) (hd : d ∈ root.children) {ns : List Node}
    (h : Visits decode (.nodes ns) w cs w') (hns : ∀ n ∈ ns, n ∈ Node.nodesIn d.children)
    (hw : w.scope.FilesUnder decode (some d)) {l : Int} {kind : BlockKind} {name : String}
    (hmem : .register l kind name ∈ cs) :
    ∃ m ∈ Node.nodesIn ns, m ∈ Node.nodesIn d.children ∧ m.Accounts (some d) l kind := by
  have howned : (Visit.nodes ns).Owned
      (fun o n => o = some d ∧ n ∈ Node.nodesIn d.children ∧ n ∈ Node.nodesIn ns) (some d) :=
    fun n hn => ⟨Node.owner_of_plain (hroot.top d hd n (hns n hn)), hns n hn,
      Node.mem_nodesIn_of_mem hn⟩
  obtain ⟨o, m, ⟨rfl, hm, hm'⟩, -, haccounts⟩ :=
    h.accounted (hroot.surveys hd ns) howned hw hmem
  exact ⟨m, hm', hm, haccounts⟩

/-- The lines that a row registers are those of its constructs, or right below them. -/
theorem Visits.exists_construct (hroot : root.Spread) (hd : d ∈ root.children) {ns : List Node}
    (h : Visits decode (.nodes ns) w cs w') (hns : ∀ n ∈ ns, n ∈ Node.nodesIn d.children)
    (hw : w.scope.FilesUnder decode (some d)) {l : Int} (hl : l ∈ registeredBy cs) :
    ∃ x ∈ ns, ∃ m ∈ x.constructs, m.startLine ≤ l ∧ l ≤ m.endLine + 1 := by
  obtain ⟨kind, name, hmem⟩ := mem_registeredBy.1 hl
  obtain ⟨m, hm, hm', haccounts⟩ := h.exists_accounts hroot.toGoShaped hd hns hw hmem
  obtain ⟨x, hx, hm⟩ := Node.mem_nodesIn.1 hm
  obtain ⟨hnested, -, -, hstop⟩ := Node.nested_nodes
    (hroot.nested_of_mem (Node.mem_nodes_of_child hd d.mem_nodes_self))
    (Node.mem_nodes_of_below hm')
  obtain ⟨hconstruct, hlines⟩ := haccounts.bounds hnested hstop
  exact ⟨x, hx, m, Node.mem_constructs.2 ⟨hm, hconstruct⟩, hlines⟩

/-- A clause registers lines from its first on, and ends on its last or with a construct in it. -/
theorem Visits.exists_clause (hroot : root.Spread) (hd : d ∈ root.children) {form : Choice}
    {ks : List Node} (h : Visits decode (.clauses form ks) w cs w')
    (hks : ∀ k ∈ ks, k ∈ Node.nodesIn d.children) (hw : w.scope.FilesUnder decode (some d))
    {l : Int} (hl : l ∈ registeredBy cs) :
    ∃ k ∈ ks, k.startLine ≤ l ∧ (l ≤ k.endLine ∨ ∃ m ∈ k.constructs, l ≤ m.endLine + 1) := by
  induction ks generalizing w cs with
  | nil =>
    cases h
    cases hl
  | cons k ks ih =>
    cases h with
    | @clause _ _ _ _ cs w₁ ds _ body rest =>
      have hk := hks k List.mem_cons_self
      have hk' := Node.mem_nodes_of_inside hd hk
      have hself := Node.between_self (hroot.nested_of_mem hk')
      have hw₀ := hw.enterClause (Outline.clauseEntry form k).1 (Outline.clauseEntry form k).2
      simp only [registeredBy_append, Walk.clauseChanges, registeredBy_register,
        registeredBy_linksTo, registeredBy_linksFrom, registeredBy_clauseEnd, List.mem_append,
        List.mem_cons, List.not_mem_nil, false_or, or_false] at hl
      rcases hl with rfl | hl | hl
      · have := hself.clauseEntry form
        exact ⟨k, List.mem_cons_self, this.1, .inl this.2⟩
      · have hfits := hroot.fits_clauseBody hd hk
        obtain ⟨s, hs, m, hm, hstart, hstop⟩ := body.exists_construct hroot hd hfits.1 hw₀ hl
        have hm' := Node.constructs_subset (Node.mem_nodes_of_clauseBody hs) hm
        have hle := (hroot.lines_of_mem hk' hm').1
        exact ⟨k, List.mem_cons_self, by omega, .inr ⟨m, hm', hstop⟩⟩
      · obtain ⟨j, hj, hlines⟩ := ih rest (fun j hj => hks j (List.mem_cons_of_mem k hj))
          ((body.filesUnder hw₀).leaveClause _ _) hl
        exact ⟨j, List.mem_cons_of_mem k hj, hlines⟩

/-- A row that is walked before keeps off the lines inside a construct apart from it. -/
theorem Visits.before_off (hroot : root.Spread) (hd : d ∈ root.children) {ns : List Node}
    (h : Visits decode (.nodes ns) w cs w') (hns : ∀ n ∈ ns, n ∈ Node.nodesIn d.children)
    (hw : w.scope.FilesUnder decode (some d)) {y : Node} (hn : n ∈ y.constructs)
    (hapart : ∀ x ∈ ns, x.Apart y) :
    ∀ l ∈ registeredBy cs, l ≤ n.startLine ∨ n.endLine ≤ l := by
  intro l hl
  obtain ⟨x, hx, m, hm, hlines⟩ := h.exists_construct hroot hd hns hw hl
  have := hapart x hx m hm n hn
  omega

/-- A row that is walked behind keeps off all lines of the construct. -/
theorem Visits.after_off (hroot : root.Spread) (hd : d ∈ root.children) {ns : List Node}
    (h : Visits decode (.nodes ns) w cs w') (hns : ∀ n ∈ ns, n ∈ Node.nodesIn d.children)
    (hw : w.scope.FilesUnder decode (some d)) {y : Node} (hn : n ∈ y.constructs)
    (hapart : ∀ x ∈ ns, y.Apart x) :
    ∀ l ∈ registeredBy cs, l < n.startLine ∨ n.endLine < l := by
  intro l hl
  obtain ⟨x, hx, m, hm, hlines⟩ := h.exists_construct hroot hd hns hw hl
  have := hapart x hx n hn m hm
  omega

/-- The blocks of an if are not inside the constructs in its parts. -/
theorem Node.Spread.condChanges_off (hroot : root.Spread) (hd : d ∈ root.children) {x c : Node}
    (hx : x ∈ nodesIn d.children) (hlabel : x.label = .ifStatement) {f : Field}
    (hf : f ∈ [Field.alternative, .consequence, .initializer, .condition])
    (hc : x.child? f = some c) (hn : n ∈ c.constructs) {s : Scope}
    (hs : s.functionEnd = some d.endLine) :
    ∀ l ∈ registeredBy (Walk.condChanges s x.startLine (Outline.falsePath x).1 (s.elseEnd x)),
      l ≤ n.startLine ∨ n.endLine ≤ l := by
  have hx' := mem_nodes_of_inside hd hx
  have hdeclared := nested_nodes (hroot.nested_of_mem (mem_nodes_of_child hd d.mem_nodes_self))
    (mem_nodes_of_below hx)
  have hself := between_self (hroot.nested_of_mem hx')
  have hpart := (hself.child (child?_mem hc)).lines
  have hinside := hroot.lines_of_mem (hereditary_nodes root x hx' c (child?_mem hc)) hn
  have hend : s.elseEnd x = Context.elseEnd { function := some d } x :=
    Scope.elseEnd_of_functionEnd hs x
  rw [elseStart_eq, hend]
  have hlines : (x.elseStart ≤ n.startLine ∨ n.endLine ≤ x.elseStart) ∧
      (Context.elseEnd { function := some d } x ≤ n.startLine ∨
        n.endLine ≤ Context.elseEnd { function := some d } x) := by
    unfold elseStart Context.elseEnd
    cases ha : x.child? .alternative with
    | some a =>
      -- the false path is the alternative, in which the construct lies or from which it is apart
      have hle := startLine_le_endLine (hself.child (child?_mem ha)).nested
      rcases List.mem_cons.1 hf with rfl | hf
      · obtain rfl := Option.some.inj (ha.symm.trans hc)
        simp only
        omega
      · have := (hroot.alternative x hx' hlabel a ha).2 f hf c hc
        simp only
        omega
    | none =>
      have hne : f ≠ .alternative := by
        rintro rfl
        rw [ha] at hc
        cases hc
      have hbraced := hroot.braced_of_field hx' hlabel hne hc n hn
      simp only [Option.elim_some]
      cases ht : x.child? .consequence with
      | none =>
        simp only [Option.getD_none]
        omega
      | some t =>
        have hle := (hself.child (child?_mem ht)).lines
        have hle' := startLine_le_endLine (hself.child (child?_mem ht)).nested
        simp only [Option.getD_some]
        by_cases hct : c = t
        · subst hct
          omega
        · -- the false path starts where the consequence ends, behind the part or in front of it
          have hordered := hroot.ordered x hx'
          rcases pairwise_or hordered (child?_mem hc) (child?_mem ht) hct with h | h <;> omega
  intro l hl
  simp only [Walk.condChanges, registeredBy_register, registeredBy_link, registeredBy_nil,
    List.mem_cons, List.not_mem_nil, or_false] at hl
  rcases hl with rfl | rfl | rfl
  · omega
  · exact hlines.1
  · exact hlines.2

/-- The block of a clause is not inside the constructs of its statements. -/
theorem Node.Spread.clauseEntry_off (hroot : root.Spread) (hd : d ∈ root.children) {k x : Node}
    (hk : k ∈ nodesIn d.children) (hx : x ∈ k.clauseBody) (hn : n ∈ x.constructs) (form : Choice) :
    (Outline.clauseEntry form k).1 ≤ n.startLine ∨ n.endLine ≤ (Outline.clauseEntry form k).1 := by
  have hk' := mem_nodes_of_below hk
  have hin : ∀ {s}, s ∈ k.clauseBody → s ∈ root.nodes := fun hs =>
    mem_nodes_of_child hd ((hereditary_nodes d).nodes hk' (mem_nodes_of_clauseBody hs))
  have hinside := hroot.lines_of_mem (hin hx) hn
  rcases clauseEntry_cases form k with ⟨r, hr, hkind, hline⟩ | hentry
  · -- a statement `r` stands for the clause, and its first line is that of a construct
    rw [hline]
    by_cases hxr : x = r
    · subst hxr
      omega
    · have hconstruct : r.label.isConstruct := by
        unfold Outline.lentKind? at hkind
        cases hl : r.label <;> simp_all [Label.isConstruct, Label.choice?]
      have hself : r ∈ r.constructs := mem_constructs.2 ⟨r.mem_nodes_self, hconstruct⟩
      have hle := startLine_le_endLine (hroot.nested_of_mem (hin hr))
      rcases pairwise_or ((hroot.spaced_apart hd).clauseBody hk') hx hr hxr with h | h
      · have := h n hn r hself
        omega
      · have := h r hself n hn
        omega
  · -- the clause ends with its last statement, behind all others
    rw [hentry]
    cases hlast : k.clauseBody.getLast? with
    | none =>
      rw [List.getLast?_eq_none_iff.1 hlast] at hx
      cases hx
    | some t =>
      have ht := List.mem_of_getLast? hlast
      have hle := startLine_le_endLine (hroot.nested_of_mem (hin ht))
      show t.endLine ≤ _ ∨ _ ≤ t.endLine
      by_cases hxt : x = t
      · subst hxt
        omega
      · rcases pairwise_or ((hroot.spaced_ordered hd).clauseBody hk') hx ht hxt with h | h <;> omega

/-! ## Passages -/

/-- The changes of a visit, as a construct inside sees them. -/
structure Passage (decode : List UInt8 → Except ε String) (d n : Node)
    (cs before own after : List Change) : Prop where
  eq : cs = before ++ (own ++ after)
  visit : ∃ u u', Visits decode (.node n) u own u' ∧ u.scope.FilesUnder decode (some d)
  before_off : ∀ l ∈ registeredBy before, l ≤ n.startLine ∨ n.endLine ≤ l
  after_off : ∀ l ∈ registeredBy after, l < n.startLine ∨ n.endLine < l

/-- The changes can be cut at the construct. -/
def Passes (decode : List UInt8 → Except ε String) (d n : Node) (cs : List Change) : Prop :=
  ∃ before own after, Passage decode d n cs before own after

theorem Visits.passes_self (h : Visits decode (.node n) w cs w')
    (hw : w.scope.FilesUnder decode (some d)) : Passes decode d n cs :=
  ⟨[], cs, [], (List.append_nil cs).symm, ⟨w, w', h, hw⟩, by simp, by simp⟩

theorem Passes.behind (h : Passes decode d n cs) {pre : List Change}
    (hpre : ∀ l ∈ registeredBy pre, l ≤ n.startLine ∨ n.endLine ≤ l) :
    Passes decode d n (pre ++ cs) := by
  obtain ⟨before, own, after, rfl, hvisit, hbefore, hafter⟩ := h
  refine ⟨pre ++ before, own, after, by simp, hvisit, fun l hl => ?_, hafter⟩
  rw [registeredBy_append, List.mem_append] at hl
  exact hl.elim (hpre l) (hbefore l)

theorem Passes.ahead (h : Passes decode d n cs) {post : List Change}
    (hpost : ∀ l ∈ registeredBy post, l < n.startLine ∨ n.endLine < l) :
    Passes decode d n (cs ++ post) := by
  obtain ⟨before, own, after, rfl, hvisit, hbefore, hafter⟩ := h
  refine ⟨before, own, after ++ post, by simp, hvisit, hbefore, fun l hl => ?_⟩
  rw [registeredBy_append, List.mem_append] at hl
  exact hl.elim (hafter l) (hpost l)

theorem Node.mem_constructs_of_reached {m x : Node} (hm : m ∈ x.reached)
    (hconstruct : m.label.isConstruct) : m ∈ x.constructs :=
  mem_constructs.2 ⟨reached_subset x hm, hconstruct⟩

/-- The visit, started inside the declaration, is cut at the construct if it comes to it. -/
def Visit.Cuts (decode : List UInt8 → Except ε String) (d n : Node) (v : Visit) (w : Walk)
    (cs : List Change) : Prop :=
  v.Fits d → w.scope.FilesUnder decode (some d) → v.Reaches n → Passes decode d n cs

/-- **An if** can be cut at its own changes and at those of a construct in one of its parts. -/
theorem Visits.cuts_cond (hroot : root.Spread) (hd : d ∈ root.children)
    (hconstruct : n.label.isConstruct) {x : Node} {w w₁ w₂ w₃ : Walk} {cs ds es : List Change}
    (label : x.label = .ifStatement)
    (consequence : Visits decode (.nodes (x.statementsUnder .consequence))
      (w.enterCond x.startLine (Outline.falsePath x).1 (w.scope.elseEnd x)) cs w₁)
    (header : Visits decode (.nodes (x.namedUnder .initializer ++ x.namedUnder .condition))
      (w₁.leaveCond (Outline.falsePath x).1 (w.scope.elseEnd x)) ds w₂)
    (alternative : Visits decode (.nodes (x.child? .alternative).toList) w₂ es w₃)
    (ih₁ : Visit.Cuts decode d n (.nodes (x.statementsUnder .consequence))
      (w.enterCond x.startLine (Outline.falsePath x).1 (w.scope.elseEnd x)) cs)
    (ih₂ : Visit.Cuts decode d n (.nodes (x.namedUnder .initializer ++ x.namedUnder .condition))
      (w₁.leaveCond (Outline.falsePath x).1 (w.scope.elseEnd x)) ds)
    (ih₃ : Visit.Cuts decode d n (.nodes (x.child? .alternative).toList) w₂ es) :
    Visit.Cuts decode d n (.node x) w
      (Walk.condChanges w.scope x.startLine (Outline.falsePath x).1 (w.scope.elseEnd x)
        ++ (cs ++ (Walk.falsePathChanges w₁.scope (Outline.falsePath x).1 (w.scope.elseEnd x)
          ++ (ds ++ es)))) := by
  intro hx hw hn
  have hx' := Node.mem_nodes_of_inside hd hx
  have hw₁ := (consequence.filesUnder hw).leaveCond (Outline.falsePath x).1 (w.scope.elseEnd x)
  have hw₂ := header.filesUnder hw₁
  obtain ⟨hapart, hapart'⟩ := hroot.cond_apart hx' label
  have hfits₁ := hroot.fits_statementsUnder hd hx .consequence
  have hfits₂ := hroot.fits_condHeader hd hx label
  have hfits₃ := Node.Spread.fits_child? hx .alternative
  have hpath : registeredBy
      (Walk.falsePathChanges w₁.scope (Outline.falsePath x).1 (w.scope.elseEnd x)) = [] := by
    simp [Walk.falsePathChanges]
  have hcond := fun {f c} hf hc hn =>
    @Node.Spread.condChanges_off root d n hroot hd x c hx label f hf hc hn _ hw.functionEnd
  rcases hroot.cond_parts hx' label hn hconstruct with
    rfl | ⟨s, hs, hn⟩ | ⟨s, hs, hn⟩ | ⟨a, ha, hn⟩
  · exact (Visits.cond label consequence header alternative).passes_self hw
  -- in each of the parts, the changes of the other two lie off the construct
  · obtain ⟨c, hc, hs'⟩ := Node.mem_statementsUnder hs
    have hns := Node.mem_constructs_of_reached hn hconstruct
    have hnc := Node.constructs_subset (Node.mem_nodes_of_statements hs') hns
    have hds := header.after_off hroot hd hfits₂.1 hw₁ hns (hapart s hs).1
    have hes := alternative.after_off hroot hd hfits₃.1 hw₂ hns (hapart s hs).2
    refine ((ih₁ hfits₁ hw ⟨s, hs, hn⟩).ahead fun l hl => ?_).behind (hcond (by simp) hc hnc)
    rw [registeredBy_append, hpath, List.nil_append, registeredBy_append, List.mem_append] at hl
    exact hl.elim (hds l) (hes l)
  · have hns := Node.mem_constructs_of_reached hn hconstruct
    obtain ⟨f, hf, c, hc, hsc⟩ := Node.mem_condHeader hs
    have hnc := Node.constructs_subset hsc hns
    have hcs := consequence.before_off hroot hd hfits₁.1 hw hns fun y hy => (hapart y hy).1 s hs
    have hes := alternative.after_off hroot hd hfits₃.1 hw₂ hns (hapart' s hs)
    exact ((((ih₂ hfits₂ hw₁ ⟨s, hs, hn⟩).ahead hes).behind (by simp [hpath])).behind hcs).behind
      (hcond (List.mem_cons_of_mem _ (List.mem_cons_of_mem _ hf)) hc hnc)
  · have hna := Node.mem_constructs_of_reached hn hconstruct
    have hcs := consequence.before_off hroot hd hfits₁.1 hw hna fun y hy => (hapart y hy).2 a ha
    have hds := header.before_off hroot hd hfits₂.1 hw₁ hna fun y hy => hapart' y hy a ha
    exact ((((ih₃ hfits₃ hw₂ ⟨a, ha, hn⟩).behind hds).behind (by simp [hpath])).behind hcs).behind
      (hcond (by simp) (Option.mem_toList.1 ha) hna)

/-- **A loop** registers its first and its last line, between which its constructs lie. -/
theorem Visits.cuts_loop (hroot : root.Spread) (hd : d ∈ root.children)
    (hconstruct : n.label.isConstruct) {x : Node} {w w₁ w₂ : Walk} {cs ds : List Change}
    (label : x.label = .forStatement) (header : Visits decode (.nodes x.headerParts) w cs w₁)
    (body : Visits decode (.nodes (x.statementsUnder .body))
      ((w₁.aimAt w.scope.returnTarget).enterLoop x.startLine) ds w₂)
    (ih₁ : Visit.Cuts decode d n (.nodes x.headerParts) w cs)
    (ih₂ : Visit.Cuts decode d n (.nodes (x.statementsUnder .body))
      ((w₁.aimAt w.scope.returnTarget).enterLoop x.startLine) ds) :
    Visit.Cuts decode d n (.node x) w
      (cs ++ (Walk.loopChanges w.scope x.startLine
        ++ (ds ++ w₂.loopEndChanges x.startLine x.endLine))) := by
  intro hx hw hn
  have hx' := Node.mem_nodes_of_inside hd hx
  have hw₁ := (header.filesUnder hw).enterLoop w.scope.returnTarget x.startLine
  have hapart := hroot.loop_apart hx' label
  have hfits₁ : (Visit.nodes x.headerParts).Fits d := hroot.fits_filter hd hx _
  have hfits₂ := hroot.fits_statementsUnder hd hx .body
  have hloop : ∀ l ∈ registeredBy (Walk.loopChanges w.scope x.startLine), l = x.startLine := by
    simp [Walk.loopChanges]
  rcases hroot.loop_parts hx' label hn hconstruct with rfl | ⟨s, hs, hn⟩ | ⟨s, hs, hn⟩
  · exact (Visits.loop label header body).passes_self hw
  · have hns := Node.mem_constructs_of_reached hn hconstruct
    obtain ⟨hstart, hstop⟩ := hroot.inside_loop hx' label (List.mem_filter.1 hs).1 hns
    have hds := body.after_off hroot hd hfits₂.1 hw₁ hns (hapart s hs)
    refine (ih₁ hfits₁ hw ⟨s, hs, hn⟩).ahead fun l hl => ?_
    simp only [registeredBy_append, List.mem_append] at hl
    rcases hl with hl | hl | hl
    · obtain rfl := hloop l hl
      exact .inl hstart
    · exact hds l hl
    · obtain rfl := eq_of_registered_loopEnd hl
      exact .inr hstop
  · have hns := Node.mem_constructs_of_reached hn hconstruct
    obtain ⟨c, hc, hs'⟩ := Node.mem_statementsUnder hs
    have hnc := Node.constructs_subset (Node.mem_nodes_of_statements hs') hns
    obtain ⟨hstart, hstop⟩ := hroot.inside_loop hx' label (Node.child?_mem hc) hnc
    have hcs := header.before_off hroot hd hfits₁.1 hw hns fun y hy => hapart y hy s hs
    refine (((ih₂ hfits₂ hw₁ ⟨s, hs, hn⟩).ahead fun l hl => ?_).behind fun l hl => ?_).behind hcs
    · obtain rfl := eq_of_registered_loopEnd hl
      exact .inr hstop
    · obtain rfl := hloop l hl
      exact .inl (Int.le_of_lt hstart)

/-- **A switch or select** registers its first line and what its clauses do. -/
theorem Visits.cuts_choice (hroot : root.Spread) (hd : d ∈ root.children)
    (hconstruct : n.label.isConstruct) {x : Node} {form : Choice} {w w₁ w₂ : Walk}
    {cs ds : List Change} (label : x.label.choice? = some form)
    (header : Visits decode (.nodes x.headerParts) w cs w₁)
    (parts : Visits decode (.clauses form x.clauses)
      ((w₁.aimAt w.scope.returnTarget).enterChoice form x.startLine) ds w₂)
    (ih₁ : Visit.Cuts decode d n (.nodes x.headerParts) w cs)
    (ih₂ : Visit.Cuts decode d n (.clauses form x.clauses)
      ((w₁.aimAt w.scope.returnTarget).enterChoice form x.startLine) ds) :
    Visit.Cuts decode d n (.node x) w
      (cs ++ (Walk.choiceChanges w.scope form x.startLine ++ ds)) := by
  intro hx hw hn
  have hx' := Node.mem_nodes_of_inside hd hx
  have hw₁ := (header.filesUnder hw).enterChoice w.scope.returnTarget form x.startLine
  have hfits₁ : (Visit.nodes x.headerParts).Fits d := hroot.fits_filter hd hx _
  have hapart := fun {y} hy => @Node.Spread.choice_apart root d x hroot hd
    (Node.mem_nodes_of_below hx) form label y hy
  have hclauses : ∀ k ∈ x.clauses, k ∈ Node.nodesIn d.children := fun k hk =>
    Node.hereditary_nodesIn d.children x hx k (List.mem_filter.1 hk).1
  have hline : ∀ l ∈ registeredBy (Walk.choiceChanges w.scope form x.startLine),
      l = x.startLine := by
    rw [Walk.choiceChanges, registeredBy_register, Walk.registeredBy_choiceLinks]
    simp
  rcases hroot.choice_parts hx' label hn hconstruct with
    rfl | ⟨s, hs, hn⟩ | ⟨k, hk, s, hs, hn⟩
  · exact (Visits.choice label header parts).passes_self hw
  · have hns := Node.mem_constructs_of_reached hn hconstruct
    obtain ⟨hbraced, hapart⟩ := hapart hs
    obtain ⟨hs', hheader⟩ := List.mem_filter.1 hs
    obtain ⟨hstart, hstop⟩ := hbraced n hns
    have hself := ((Node.between_self (hroot.nested_of_mem hx')).child hs').start
    refine (ih₁ hfits₁ hw ⟨s, hs, hn⟩).ahead fun l hl => ?_
    rw [registeredBy_append, List.mem_append] at hl
    rcases hl with hl | hl
    · obtain rfl := hline l hl
      omega
    · -- a clause lies behind the part of the header, or in front of it and apart from it
      obtain ⟨k, hk, hl⟩ := parts.exists_clause hroot hd hclauses hw₁ hl
      have hne : s ≠ k := by
        rintro rfl
        have := (List.mem_filter.1 hk).2
        simp_all [Outline.isHeaderPart, Node.isClause]
      have hle := Node.startLine_le_endLine
        (hroot.nested_of_mem (Node.mem_nodes_of_inside hd (hclauses k hk)))
      rcases pairwise_or (hroot.ordered x hx') hs' (List.mem_filter.1 hk).1 hne with h | h
      · omega
      · rcases hl.2 with hl | ⟨m, hm, hl⟩
        · omega
        · have := hapart k hk n hns m hm
          have := hroot.lines_of_mem (Node.mem_nodes_of_inside hd (hclauses k hk)) hm
          omega
  · have hnk := Node.constructs_subset (Node.mem_nodes_of_clauseBody hs)
      (Node.mem_constructs_of_reached hn hconstruct)
    have hcs := header.before_off hroot hd hfits₁.1 hw hnk fun y hy => (hapart hy).2 k hk
    refine ((ih₂ ⟨x, hx, label, List.Sublist.refl _⟩ hw₁ ⟨k, hk, s, hs, hn⟩).behind
      fun l hl => ?_).behind hcs
    obtain rfl := hline l hl
    have := (hroot.lines_of_mem (Node.mem_nodes_of_inside hd (hclauses k hk)) hnk).1
    have := ((Node.between_self (hroot.nested_of_mem hx')).child (List.mem_filter.1 hk).1).start
    omega

/-- **A clause** is cut inside, or the cut is in one of the clauses behind it. -/
theorem Visits.cuts_clause (hroot : root.Spread) (hd : d ∈ root.children)
    (hconstruct : n.label.isConstruct) {form : Choice} {k : Node} {ks : List Node}
    {w w₁ w₂ : Walk} {cs ds : List Change}
    (body : Visits decode (.nodes k.clauseBody)
      (w.enterClause (Outline.clauseEntry form k).1 (Outline.clauseEntry form k).2) cs w₁)
    (rest : Visits decode (.clauses form ks)
      (w₁.leaveClause (Outline.clauseEntry form k).1 w.scope) ds w₂)
    (ih₁ : Visit.Cuts decode d n (.nodes k.clauseBody)
      (w.enterClause (Outline.clauseEntry form k).1 (Outline.clauseEntry form k).2) cs)
    (ih₂ : Visit.Cuts decode d n (.clauses form ks)
      (w₁.leaveClause (Outline.clauseEntry form k).1 w.scope) ds) :
    Visit.Cuts decode d n (.clauses form (k :: ks)) w
      (Walk.clauseChanges w.scope (Outline.clauseEntry form k).1 (Outline.clauseEntry form k).2
        ++ (cs ++ (w₁.clauseEndChanges (Outline.clauseEntry form k).1 w.scope ++ ds))) := by
  rintro ⟨y, hy, label, hks⟩ hw ⟨j, hj, x, hxj, hn⟩
  have hsub : (k :: ks).Sublist y.children := hks.trans List.filter_sublist
  have hclauses : ∀ j ∈ k :: ks, j ∈ Node.nodesIn d.children ∧ j.isClause := fun j hj =>
    ⟨Node.hereditary_nodesIn d.children y hy j (hsub.mem hj), (List.mem_filter.1 (hks.mem hj)).2⟩
  have hrest : ∀ j ∈ ks, j ∈ Node.nodesIn d.children :=
    fun j hj => (hclauses j (List.mem_cons_of_mem k hj)).1
  have hk := (hclauses k List.mem_cons_self).1
  obtain ⟨hordered, -⟩ := List.pairwise_cons.1
    ((hroot.ordered y (Node.mem_nodes_of_inside hd hy)).sublist hsub)
  obtain ⟨hapart, -⟩ := List.pairwise_cons.1
    ((hroot.apart d hd y (Node.mem_nodes_of_below hy)).sublist hsub)
  have hfits := hroot.fits_clauseBody hd hk
  have hw₀ := hw.enterClause (Outline.clauseEntry form k).1 (Outline.clauseEntry form k).2
  have hw₁ := (body.filesUnder hw₀).leaveClause (Outline.clauseEntry form k).1 w.scope
  have hentry : ∀ l ∈ registeredBy (Walk.clauseChanges w.scope (Outline.clauseEntry form k).1
      (Outline.clauseEntry form k).2), l = (Outline.clauseEntry form k).1 := by
    simp [Walk.clauseChanges]
  have hnx := Node.mem_constructs_of_reached hn hconstruct
  have hnj := Node.constructs_subset (Node.mem_nodes_of_clauseBody hxj) hnx
  rcases List.mem_cons.1 hj with rfl | hj
  · refine ((ih₁ hfits hw₀ ⟨x, hxj, hn⟩).ahead fun l hl => ?_).behind fun l hl => ?_
    · rw [registeredBy_append, registeredBy_clauseEnd, List.nil_append] at hl
      obtain ⟨i, hi, hstart, -⟩ := rest.exists_clause hroot hd hrest hw₁ hl
      have hclause := (hclauses i (List.mem_cons_of_mem _ hi)).2
      have := hapart i hi (Node.isStatement_of_isClause hclause) n hnj
      omega
    · obtain rfl := hentry l hl
      exact hroot.clauseEntry_off hd hk hxj hnx form
  · -- the clause in front ends no later than this one starts
    have hstart := (hroot.lines_of_mem (Node.mem_nodes_of_inside hd (hrest j hj)) hnj).1
    have hle := hordered j hj
    refine (((ih₂ ⟨y, hy, label, (List.sublist_cons_self k ks).trans hks⟩ hw₁
      ⟨j, hj, x, hxj, hn⟩).behind (by simp [registeredBy_clauseEnd])).behind
        fun l hl => ?_).behind fun l hl => ?_
    · obtain ⟨s, hs, m, hm, -, hstop⟩ := body.exists_construct hroot hd hfits.1 hw₀ hl
      have hclause := (hclauses j (List.mem_cons_of_mem _ hj)).2
      have := hapart j hj (Node.isStatement_of_isClause hclause) m
        (Node.constructs_subset (Node.mem_nodes_of_clauseBody hs) hm)
      omega
    · obtain rfl := hentry l hl
      have hself := Node.between_self (hroot.nested_of_mem (Node.mem_nodes_of_inside hd hk))
      have := (hself.clauseEntry form).2
      omega

/-- **Passages**: a visit inside a declaration can be cut at every construct that is reached. -/
theorem Visits.passes (hroot : root.Spread) (hd : d ∈ root.children)
    (hconstruct : n.label.isConstruct) {v : Visit} (h : Visits decode v w cs w') :
    v.Cuts decode d n w cs := by
  have hmem : ∀ {x : Node}, n ∈ x.reached → n ∈ x.constructs :=
    fun hn => Node.mem_constructs_of_reached hn hconstruct
  induction h with
  | @other x _ _ _ label _ ih =>
    intro hx hw hn
    have hne : n ≠ x := by
      rintro rfl
      rw [hconstruct] at label
      cases label
    exact ih (hroot.fits_filter hd hx _) hw
      (hroot.exists_named (Node.mem_nodes_of_inside hd hx) hn hconstruct hne)
  | @prototype x _ _ label =>
    intro hx
    rw [hroot.top d hd x hx] at label
    cases label
  | @function x _ _ _ _ _ label =>
    intro hx
    rw [hroot.top d hd x hx] at label
    cases label
  | @ret x w cs _ label inside ih =>
    intro hx hw hn
    by_cases hne : n = x
    · subst hne
      exact (Visits.ret label inside).passes_self hw
    · have hx' := Node.mem_nodes_of_inside hd hx
      have hin := ih (hroot.fits_filter hd hx _) (hw.enterReturn _)
        (hroot.exists_named hx' hn hconstruct hne)
      refine hin.behind fun l hl => ?_
      obtain rfl : l = x.startLine := by simpa [Walk.returnChanges] using hl
      exact .inl (hroot.lines_of_mem hx' (hmem hn)).1
  | @spawn x w cs _ label inside ih =>
    intro hx hw hn
    by_cases hne : n = x
    · subst hne
      exact (Visits.spawn label inside).passes_self hw
    · have hx' := Node.mem_nodes_of_inside hd hx
      have hin := ih (hroot.fits_filter hd hx _) hw (hroot.exists_named hx' hn hconstruct hne)
      show Passes decode d n ([_] ++ cs)
      refine hin.behind fun l hl => ?_
      obtain rfl : l = x.startLine := by simpa using hl
      exact .inl (hroot.lines_of_mem hx' (hmem hn)).1
  | cond label consequence header alternative ih₁ ih₂ ih₃ =>
    exact cuts_cond hroot hd hconstruct label consequence header alternative ih₁ ih₂ ih₃
  | loop label header body ih₁ ih₂ => exact cuts_loop hroot hd hconstruct label header body ih₁ ih₂
  | choice label header parts ih₁ ih₂ =>
    exact cuts_choice hroot hd hconstruct label header parts ih₁ ih₂
  | nil =>
    rintro - - ⟨x, hx, -⟩
    cases hx
  | @cons x ns w cs w₁ ds w₂ first rest ih₁ ih₂ =>
    rintro ⟨hns, hapart⟩ hw ⟨y, hy, hn⟩
    obtain ⟨hx, hapart⟩ := List.pairwise_cons.1 hapart
    have hns' : ∀ y ∈ ns, y ∈ Node.nodesIn d.children :=
      fun y hy => hns y (List.mem_cons_of_mem x hy)
    have hw₁ := first.filesUnder hw
    rcases List.mem_cons.1 hy with rfl | hy
    · exact (ih₁ (hns _ List.mem_cons_self) hw hn).ahead
        (rest.after_off hroot hd hns' hw₁ (hmem hn) hx)
    · have hfirst : Visits decode (.nodes [x]) w cs w₁ := by
        simpa using Visits.cons first .nil
      exact (ih₂ ⟨hns', hapart⟩ hw₁ ⟨y, hy, hn⟩).behind (hfirst.before_off hroot hd
        (by simpa using hns x List.mem_cons_self) hw (hmem hn) (by simpa using hx y hy))
  | noClause =>
    rintro - - ⟨k, hk, -⟩
    cases hk
  | clause body rest ih₁ ih₂ => exact cuts_clause hroot hd hconstruct body rest ih₁ ih₂

/-- What a function registers before it comes to its statements is not inside their constructs. -/
theorem Node.Spread.foresee_off (hroot : root.Spread) (hd : d ∈ root.children) {body x : Node}
    (hbody : body ∈ d.children) (hx : x ∈ body.statements) (hn : n ∈ x.constructs) (name : String) :
    ∀ l ∈ registeredBy (Walk.foreseeChanges name (Outline.returnLines body) d.endLine),
      l ≤ n.startLine ∨ n.endLine ≤ l := by
  intro l hl
  have hbody' := mem_nodesIn_of_mem hbody
  have hstatements := (hereditary_nodesIn d.children).statements hbody'
  have hnx := hroot.lines_of_mem (mem_nodes_of_inside hd (hstatements x hx)) hn
  obtain ⟨kind, owner, hl⟩ := mem_registeredBy.1 hl
  obtain ⟨m, heq, ⟨-, rfl⟩ | ⟨r, hr, hlabel, hline⟩⟩ := exists_of_mem_foresee hl
  · cases heq
    have := nested_nodes (hroot.nested_of_mem (mem_nodes_of_child hd d.mem_nodes_self))
      (mem_nodes_of_below (hstatements x hx))
    omega
  · cases heq
    subst hline
    by_cases hxr : x = r
    · subst hxr
      omega
    · have hself : r ∈ r.constructs := mem_constructs.2 ⟨r.mem_nodes_self, by rw [hlabel]; rfl⟩
      have hle := (hroot.lines_of_mem (mem_nodes_of_inside hd (hstatements r hr)) hself).2.1
      have hapart := (hroot.spaced_apart hd).statements (mem_nodes_of_below hbody')
      rcases pairwise_or hapart hx hr hxr with h | h
      · have := h n hn r hself
        omega
      · have := h r hself n hn
        omega

/-- **Passages through a file**: the walk over a file can be cut at every construct that is reached
in the body of a declaration. -/
theorem Visits.passes_file (hroot : root.Spread) (h : Visits decode (.nodes root.named) w cs w')
    (hw : w.scope.Outside) (hd : d ∈ root.nodes) (hfunction : d.label.isFunction) {body : Node}
    (hbody : d.child? .body = some body) (hn : n ∈ body.reached)
    (hconstruct : n.label.isConstruct) : Passes decode d n cs := by
  have hchild := hroot.mem_children hd hfunction
  have hstatement := hroot.isStatement_of_mem hd d.mem_nodes_self
    (Label.isConstruct_of_isFunction hfunction)
  have hnamed : d ∈ root.named :=
    List.mem_filter.2 ⟨hchild, Node.GoShaped.named_of_isStatement hstatement⟩
  have hbody' := Node.child?_mem hbody
  -- the braces of the body keep the construct off the first and the last line of the declaration
  have hbraced := hroot.braces d hd (Label.isConstruct_of_isFunction hfunction) body hbody' (by
    have hif : d.label ≠ .ifStatement := by
      intro h
      rw [h] at hfunction
      cases hfunction
    simp [Node.hangsOn, hif, Label.choice?_of_isFunction hfunction]) n
      (Node.mem_constructs_of_reached hn hconstruct)
  have hinside := ((Node.between_self (hroot.nested_of_mem hd)).child hbody').lines
  obtain ⟨x, hx, hn⟩ := hroot.exists_statement (Node.hereditary_nodes root d hd body hbody')
    (hroot.body d hd (.inl hfunction) body hbody) hn hconstruct
  have hnested : ∀ m ∈ root.named, m.nested := fun m hm => hroot.nested_of_mem
    (Node.mem_nodes_of_child (List.mem_filter.1 hm).1 m.mem_nodes_self)
  have hordered : root.named.Pairwise fun a b => a.endLine ≤ b.startLine :=
    (hroot.ordered root root.mem_nodes_self).filter _
  obtain ⟨pre, post, hsplit⟩ := List.append_of_mem hnamed
  rw [hsplit] at h hnested hordered
  obtain ⟨-, hordered, hpre⟩ := List.pairwise_append.1 hordered
  obtain ⟨hpost, -⟩ := List.pairwise_cons.1 hordered
  obtain ⟨before, w₁, cs', hbefore, hrest, rfl⟩ := h.nodes_append
  cases hrest with
  | @cons _ _ _ own w₂ after _ first rest =>
    obtain ⟨_, hnone, -⟩ | ⟨body', name, ds, u, hbody'', hname, inside, rfl⟩ :=
      first.function_cases hfunction
    · rw [hbody] at hnone
      cases hnone
    obtain rfl := Option.some.inj (hbody.symm.trans hbody'')
    have hpasses := inside.passes hroot hchild hconstruct
      (hroot.fits_statements hchild (Node.mem_nodesIn_of_mem hbody'))
      (by rw [Walk.scope_foresee]; exact ⟨hname, rfl⟩) ⟨x, hx, hn⟩
    have hforesee := hroot.foresee_off hchild hbody' hx
      (Node.mem_constructs_of_reached hn hconstruct) name
    have hown : Passes decode d n ([.register d.startLine .functionEntry name]
        ++ (Walk.foreseeChanges name (Outline.returnLines body) d.endLine
          ++ (ds ++ Walk.closeChanges name (Outline.returnLines body) d.endLine))) := by
      refine ((hpasses.ahead fun l hl => ?_).behind hforesee).behind fun l hl => ?_
      · obtain ⟨kind, owner, hl⟩ := mem_registeredBy.1 hl
        cases (eq_of_mem_close hl).1
        omega
      · obtain rfl : l = d.startLine := by simpa using hl
        omega
    refine (hown.ahead fun l hl => ?_).behind fun l hl => ?_
    · obtain ⟨kind, owner, hl⟩ := mem_registeredBy.1 hl
      obtain ⟨m, hm, -, hline, -⟩ := rest.confined_row (fun m hm => hnested m (by simp [hm]))
        (first.outside (hbefore.outside hw)) _ hl
      have hle := hpost m hm
      have hline : m.startLine ≤ l := hline
      omega
    · obtain ⟨kind, owner, hl⟩ := mem_registeredBy.1 hl
      obtain ⟨m, hm, -, -, hline⟩ :=
        hbefore.confined_row (fun m hm => hnested m (by simp [hm])) hw _ hl
      have hle := hpre m hm d List.mem_cons_self
      have hline : l ≤ m.endLine + 1 := hline
      omega

end

end GoFlow
