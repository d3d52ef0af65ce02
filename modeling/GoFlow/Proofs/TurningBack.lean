import GoFlow.Proofs.LoopMarks
import GoFlow.Proofs.Paths

/-!
# Turning back

As long as the body of a loop does not return, the paths that leave an if, a switch or a loop in it
go to the header. So the first block below the header that does not fall through leads back.

- `backTo`: what the blocks in the body of a loop owe.
- `Visits.turnsBack`: as long as nothing returns, a visit gives them the edge to the header.
-/

namespace GoFlow

/-! ## What the blocks owe -/

/-- A block that does not fall through has to lead to line `s`, and so has one on a line of `B`,
unless it lies below a line of `B`. -/
def backTo (s : Int) (B : Int → Prop) : Promise where
  owes kind l has := B l ∨ kind.fallsThrough = false → has s ∨ ∃ b < l, B b
  mono h hhas hkind := (h hkind).imp_left (hhas s)

section

variable {s l : Int} {B : Int → Prop}

theorem backTo_of_has {kind : BlockKind} {has : Int → Prop} (h : has s) :
    (backTo s B).owes kind l has :=
  fun _ => .inl h

theorem backTo_of_fallsThrough {kind : BlockKind} (h : kind.fallsThrough) (hl : ¬ B l)
    (has : Int → Prop) : (backTo s B).owes kind l has := by
  rintro (hB | hfalls)
  · exact absurd hB hl
  · rw [h] at hfalls
    cases hfalls

/-- Below a line of `B` nothing is owed. -/
theorem kept_below {cs : List Change} (h : ∀ l ∈ registeredBy cs, ∃ b < l, B b) :
    (backTo s B).Kept cs := by
  induction cs with
  | nil => trivial
  | cons c cs ih =>
    cases c with
    | register l kind owner =>
      rw [registeredBy_register, List.forall_mem_cons] at h
      exact ⟨fun _ _ => .inr h.1, ih h.2⟩
    | link t u => exact ih h

end

/-- The lines among `ls` on which a loop, switch or select of the declaration starts. -/
def Node.TurnsOn (d : Node) (ls : List Int) (l : Int) : Prop :=
  l ∈ ls ∧ ∃ m ∈ nodesIn d.children, (m.label = .forStatement ∨ m.label.choice?.isSome) ∧
    m.startLine = l

/-- The stretches of the body of a loop. Its clauses stand in a switch or select that starts on one
of the lines. -/
def Visit.InLoop (d : Node) (ls : List Int) : Visit → Prop
  | .node n => n ∈ Node.nodesIn d.children
  | .nodes ns => ∀ n ∈ ns, n ∈ Node.nodesIn d.children
  | .clauses _ ks => ∀ k ∈ ks, k ∈ Node.nodesIn d.children ∧ k.isClause ∧
      ∃ b ≤ k.startLine, d.TurnsOn ls b

section

variable {ε : Type} {decode : List UInt8 → Except ε String} {root d : Node}

/-- Only loops, switches and selects start on these lines. -/
theorem Node.Spread.not_turnsOn (hroot : root.Spread) (hd : d ∈ root.children) {n : Node}
    (hn : n ∈ nodesIn d.children) (hconstruct : n.label.isConstruct)
    (hfor : n.label ≠ .forStatement) (hchoice : n.label.choice? = none) (ls : List Int) :
    ¬ d.TurnsOn ls n.startLine := by
  rintro ⟨-, m, hm, hlabel, hline⟩
  have hm' : m.label.isConstruct := by
    rcases hlabel with hlabel | hlabel
    · rw [hlabel]
      rfl
    · obtain ⟨form, hform⟩ := Option.isSome_iff_exists.1 hlabel
      exact Label.isConstruct_of_choice hform
  obtain rfl := hroot.eq_of_startLine hd d.mem_nodes_self
    (mem_constructs.2 ⟨mem_nodes_of_below hm, hm'⟩)
    (mem_constructs.2 ⟨mem_nodes_of_below hn, hconstruct⟩) hline
  rcases hlabel with hlabel | hlabel
  · exact hfor hlabel
  · rw [hchoice] at hlabel
    cases hlabel

/-! ## Visits -/

/-- A visit in the body of a loop on line `s`, in which nothing returns, keeps the promise to lead
back to the header. -/
def Visit.TurnsBack (decode : List UInt8 → Except ε String) (d : Node) (s : Int) (ls : List Int)
    (v : Visit) (w : Walk) (cs : List Change) : Prop :=
  v.InLoop d ls → v.openReturns = [] → w.scope.FilesUnder decode (some d) →
    w.scope.Inside s true true → registeredBy cs ⊆ ls → (backTo s (d.TurnsOn ls)).Kept cs

section

variable {s : Int} {ls : List Int}

/-- A go statement falls through. -/
theorem Visits.turnsBack_spawn (hroot : root.Spread) (hd : d ∈ root.children) {n : Node} {w : Walk}
    {cs : List Change} (label : n.label = .goStatement)
    (ih : Visit.TurnsBack decode d s ls (.nodes n.named) (w.add n.startLine .goStatement) cs) :
    Visit.TurnsBack decode d s ls (.node n) w
      (.register n.startLine .goStatement w.scope.function :: cs) := by
  intro hn hopen hw hin hls
  rw [Visit.openReturns, Outline.openReturns_spawn label] at hopen
  rw [registeredBy_register, List.cons_subset] at hls
  have hturns := hroot.not_turnsOn hd hn (by rw [label]; rfl) (by rw [label]; decide)
    (by rw [label]; rfl) ls
  exact ⟨fun _ => backTo_of_fallsThrough rfl hturns _,
    ih ((Node.hereditary_nodesIn d.children).named hn) hopen hw hin hls.2⟩

/-- The false path of an if is linked behind the consequence, which leaves the header as the return
target. -/
theorem Visits.turnsBack_cond (hroot : root.Spread) (hd : d ∈ root.children) {n : Node}
    {w w₁ w₂ : Walk} {cs ds es : List Change} (label : n.label = .ifStatement)
    (consequence : Visits decode (.nodes (n.statementsUnder .consequence))
      (w.enterCond n.startLine (Outline.falsePath n).1 (w.scope.elseEnd n)) cs w₁)
    (header : Visits decode (.nodes (n.namedUnder .initializer ++ n.namedUnder .condition))
      (w₁.leaveCond (Outline.falsePath n).1 (w.scope.elseEnd n)) ds w₂)
    (ih₁ : Visit.TurnsBack decode d s ls (.nodes (n.statementsUnder .consequence))
      (w.enterCond n.startLine (Outline.falsePath n).1 (w.scope.elseEnd n)) cs)
    (ih₂ : Visit.TurnsBack decode d s ls
      (.nodes (n.namedUnder .initializer ++ n.namedUnder .condition))
      (w₁.leaveCond (Outline.falsePath n).1 (w.scope.elseEnd n)) ds)
    (ih₃ : Visit.TurnsBack decode d s ls (.nodes (n.child? .alternative).toList) w₂ es) :
    Visit.TurnsBack decode d s ls (.node n) w
      (Walk.condChanges w.scope n.startLine (Outline.falsePath n).1 (w.scope.elseEnd n)
        ++ (cs ++ (Walk.falsePathChanges w₁.scope (Outline.falsePath n).1 (w.scope.elseEnd n)
          ++ (ds ++ es)))) := by
  intro hn hopen hw hin hls
  have hdown := Node.hereditary_nodesIn d.children
  rw [Visit.openReturns, Outline.openReturns_cond label, List.append_eq_nil_iff,
    List.append_eq_nil_iff] at hopen
  obtain ⟨hopen₁, hopen₂, hopen₃⟩ := hopen
  simp only [registeredBy_append, List.append_subset] at hls
  obtain ⟨-, hls₁, -, hls₂, hls₃⟩ := hls
  have hw₁ := (consequence.filesUnder hw).leaveCond (Outline.falsePath n).1 (w.scope.elseEnd n)
  have hin₁ : w₁.scope.Inside s true true := consequence.inside_of_nil hopen₁ hin
  have hin₁' : (w₁.leaveCond (Outline.falsePath n).1 (w.scope.elseEnd n)).scope.Inside s true
      true :=
    (Walk.scope_leaveCond _ _ _).symm ▸ hin₁
  have hcs := ih₁ (hdown.statementsUnder hn _) hopen₁ hw hin hls₁
  have hds := ih₂ (fun x hx => (List.mem_append.1 hx).elim (hdown.namedUnder hn _ x)
    (hdown.namedUnder hn _ x)) hopen₂ hw₁ hin₁' hls₂
  have hes := ih₃ (hdown.child? hn _) hopen₃ (header.filesUnder hw₁)
    (header.inside_of_nil hopen₂ hin₁') hls₃
  -- without open returns in the consequence, the return target is still the loop
  have hfalse : Walk.falsePathChanges w₁.scope (Outline.falsePath n).1 (w.scope.elseEnd n)
      = [.link (Outline.falsePath n).1 s, .link (w.scope.elseEnd n) s] := by
    rw [Walk.falsePathChanges, hin₁.returnTarget rfl]
    rfl
  have hlinks : (backTo s (d.TurnsOn ls)).Kept
      (Walk.falsePathChanges w₁.scope (Outline.falsePath n).1 (w.scope.elseEnd n)) :=
    Promise.kept_of_links (by simp [hfalse])
  have hturns := hroot.not_turnsOn hd hn (by rw [label]; rfl) (by rw [label]; decide)
    (by rw [label]; rfl) ls
  exact ⟨fun _ => backTo_of_fallsThrough rfl hturns _, fun _ => backTo_of_has (by simp [hfalse]),
    fun _ => backTo_of_has (by simp [hfalse]), hcs.append (hlinks.append (hds.append hes))⟩

/-- The header of a loop further in is linked to the return target, and everything else of that loop
lies below it. -/
theorem Visits.turnsBack_loop (hroot : root.Spread) (hd : d ∈ root.children) {n : Node}
    {w w₁ w₂ : Walk} {cs ds : List Change} (label : n.label = .forStatement)
    (header : Visits decode (.nodes n.headerParts) w cs w₁)
    (body : Visits decode (.nodes (n.statementsUnder .body))
      ((w₁.aimAt w.scope.returnTarget).enterLoop n.startLine) ds w₂) :
    Visit.TurnsBack decode d s ls (.node n) w
      (cs ++ (Walk.loopChanges w.scope n.startLine
        ++ (ds ++ w₂.loopEndChanges n.startLine n.endLine))) := by
  intro hn _ hw hin hls
  have hturns : d.TurnsOn ls n.startLine :=
    ⟨hls (by simp [Walk.loopChanges]), n, hn, .inl label, rfl⟩
  have hcs := header.registered_header hroot hd hw hn (by rw [label]; rfl)
  have hds : ∀ l ∈ registeredBy ds, n.startLine < l := fun l hl =>
    (body.registered_loopBody hroot hd hn label ((header.filesUnder hw).enterLoop _ _) l hl).1
  have hend : ∀ l ∈ registeredBy (w₂.loopEndChanges n.startLine n.endLine), n.startLine < l := by
    intro l hl
    obtain rfl := eq_of_registered_loopEnd hl
    exact (hroot.loopBody n (Node.mem_nodes_of_inside hd hn) label).1
  have hloop : (backTo s (d.TurnsOn ls)).Kept (Walk.loopChanges w.scope n.startLine) :=
    ⟨fun _ => backTo_of_has (by simp [hin.returnTarget rfl, mem_linksTo]),
      Promise.kept_of_links (registeredBy_linksTo _ _)⟩
  have hkept : ∀ {es : List Change}, (∀ l ∈ registeredBy es, n.startLine < l) →
      (backTo s (d.TurnsOn ls)).Kept es :=
    fun hes => kept_below fun l hl => ⟨n.startLine, hes l hl, hturns⟩
  exact (hkept hcs).append (hloop.append ((hkept hds).append (hkept hend)))

/-- A switch or select is linked to the loop around it, and everything else of it lies below. -/
theorem Visits.turnsBack_choice (hroot : root.Spread) (hd : d ∈ root.children) {n : Node}
    {form : Choice} {w w₁ : Walk} {cs ds : List Change} (label : n.label.choice? = some form)
    (header : Visits decode (.nodes n.headerParts) w cs w₁)
    (ih₂ : Visit.TurnsBack decode d s ls (.clauses form n.clauses)
      ((w₁.aimAt w.scope.returnTarget).enterChoice form n.startLine) ds) :
    Visit.TurnsBack decode d s ls (.node n) w
      (cs ++ (Walk.choiceChanges w.scope form n.startLine ++ ds)) := by
  intro hn _ hw hin hls
  have hturns : d.TurnsOn ls n.startLine :=
    ⟨hls (by simp [Walk.choiceChanges]), n, hn, .inr (by rw [label]; rfl), rfl⟩
  have hcs := header.registered_header hroot hd hw hn (Label.isConstruct_of_choice label)
  have hclauses : (Visit.clauses form n.clauses).InLoop d ls := by
    intro k hk
    obtain ⟨hk, hclause⟩ := List.mem_filter.1 hk
    have hself := Node.between_self (hroot.nested_of_mem (Node.mem_nodes_of_inside hd hn))
    exact ⟨Node.hereditary_nodesIn d.children n hn k hk, hclause, n.startLine,
      (hself.child hk).start, hturns⟩
  have hds := ih₂ hclauses rfl ((header.filesUnder hw).enterChoice _ _ _) (by
      rw [Walk.scope_enterChoice, header.scope_aimAt]
      exact ⟨hin.loopHeader, hin.returnTarget⟩)
    fun l hl => hls (by simp [hl])
  exact (kept_below fun l hl => ⟨n.startLine, hcs l hl, hturns⟩).append
    ⟨fun _ => backTo_of_has (by simp [hin.loopHeader rfl, mem_linksTo]), Promise.Kept.append
      (Promise.kept_of_links (Walk.registeredBy_choiceLinks _ _ _)) hds⟩

/-- A clause is linked to the loop at once, and its statements lie below the switch or select. -/
theorem Visits.turnsBack_clause (hroot : root.Spread) (hd : d ∈ root.children) {form : Choice}
    {k : Node} {ks : List Node} {w w₁ : Walk} {cs ds : List Change}
    (body : Visits decode (.nodes k.clauseBody)
      (w.enterClause (Outline.clauseEntry form k).1 (Outline.clauseEntry form k).2) cs w₁)
    (ih₂ : Visit.TurnsBack decode d s ls (.clauses form ks)
      (w₁.leaveClause (Outline.clauseEntry form k).1 w.scope) ds) :
    Visit.TurnsBack decode d s ls (.clauses form (k :: ks)) w
      (Walk.clauseChanges w.scope (Outline.clauseEntry form k).1 (Outline.clauseEntry form k).2
        ++ (cs ++ (w₁.clauseEndChanges (Outline.clauseEntry form k).1 w.scope ++ ds))) := by
  intro hks _ hw hin hls
  obtain ⟨hk, hclause, b, hb, hturns⟩ := hks k List.mem_cons_self
  have hw₀ := hw.enterClause (Outline.clauseEntry form k).1 (Outline.clauseEntry form k).2
  have hcs : ∀ l ∈ registeredBy cs, b < l := by
    intro l hl
    obtain ⟨x, hx, m, hm, hstart, -⟩ := body.exists_construct hroot hd
      (fun x hx => (Node.hereditary_nodesIn d.children).listed hk (Node.mem_clauseBody hx)) hw₀ hl
    have := hroot.clause k (Node.mem_nodes_of_inside hd hk) hclause m
      (Node.constructs_subset (Node.mem_nodes_of_clauseBody hx) hm)
    omega
  have hds := ih₂ (fun j hj => hks j (List.mem_cons_of_mem k hj)) rfl
    ((body.filesUnder hw₀).leaveClause _ _) (by
      rw [Walk.scope_leaveClause]
      refine ⟨fun _ => ?_, hin.returnTarget⟩
      show w₁.scope.loopHeader = some s
      rw [body.loopHeader_eq, Walk.scope_enterClause]
      exact hin.loopHeader rfl)
    fun l hl => hls (by simp [hl])
  exact ⟨fun _ => backTo_of_has (by simp [hin.loopHeader rfl, mem_linksTo]), Promise.Kept.append
    (Promise.kept_of_links (by simp)) ((kept_below fun l hl => ⟨b, hcs l hl, hturns⟩).append
      (Promise.Kept.append (Promise.kept_of_links (registeredBy_clauseEnd _ _ _)) hds))⟩

/-- **Turning back**: in the body of a loop, as long as nothing returns, a visit keeps the promise
to lead back to the header. -/
theorem Visits.turnsBack (hroot : root.Spread) (hd : d ∈ root.children) {v : Visit} {w w' : Walk}
    {cs : List Change} (h : Visits decode v w cs w') : v.TurnsBack decode d s ls w cs := by
  have hdown := Node.hereditary_nodesIn d.children
  induction h with
  | @other n _ _ _ label _ ih =>
    intro hn hopen
    rw [Visit.openReturns, Outline.ofNode_other label] at hopen
    exact ih (hdown.named hn) hopen
  | @prototype n _ _ label =>
    intro hn
    rw [hroot.top d hd n hn] at label
    cases label
  | @function n _ _ _ _ _ label =>
    intro hn
    rw [hroot.top d hd n hn] at label
    cases label
  | ret label =>
    intro _ hopen
    rw [Visit.openReturns, Outline.openReturns_ret label] at hopen
    cases hopen
  | spawn label _ ih => exact turnsBack_spawn hroot hd label ih
  | cond label consequence header _ ih₁ ih₂ ih₃ =>
    exact turnsBack_cond hroot hd label consequence header ih₁ ih₂ ih₃
  | loop label header body => exact turnsBack_loop hroot hd label header body
  | choice label header _ _ ih₂ => exact turnsBack_choice hroot hd label header ih₂
  | nil => exact fun _ _ _ _ _ => trivial
  | @cons n ns w cs w₁ ds w₂ first rest ih₁ ih₂ =>
    intro hns hopen hw hin hls
    rw [Visit.openReturns_cons, List.append_eq_nil_iff] at hopen
    rw [registeredBy_append, List.append_subset] at hls
    exact (ih₁ (hns n List.mem_cons_self) hopen.1 hw hin hls.1).append
      (ih₂ (fun m hm => hns m (List.mem_cons_of_mem n hm)) hopen.2 (first.filesUnder hw)
        (first.inside_of_nil hopen.1 hin) hls.2)
  | noClause => exact fun _ _ _ _ _ => trivial
  | clause body _ _ ih₂ => exact turnsBack_clause hroot hd body ih₂

end

/-! ## Rows without open returns -/

/-- In a Go tree, the parts of an if are plain. -/
theorem Node.GoShaped.plainIfs (hroot : root.GoShaped) {x : Node} (hx : x ∈ root.nodes) :
    x.PlainIfs := by
  intro n hn hlabel f hf c hc
  have hn' := (hereditary_nodes root).nodes hx (openNodes_subset x hn)
  exact Label.restores_of_not_construct (hroot.ifPart_plain hn' hlabel hf hc)

/-- A row in which no return stands open leaves the return target as it is. -/
theorem Visits.openReturns_eq_nil (hroot : root.GoShaped) {ns : List Node} {w w' : Walk}
    {cs : List Change} (h : Visits decode (.nodes ns) w cs w') (hns : ∀ x ∈ ns, x ∈ root.nodes)
    (hbare : ∀ x ∈ ns, ∀ r ∈ x.openNodes, r.label ≠ .returnStatement) :
    (Visit.nodes ns).openReturns = [] := by
  induction ns generalizing w cs with
  | nil => rfl
  | cons x ns ih =>
    cases h with
    | cons first rest =>
      rw [Visit.openReturns_cons, ih rest (fun y hy => hns y (List.mem_cons_of_mem x hy))
        (fun y hy => hbare y (List.mem_cons_of_mem x hy)), List.append_nil]
      refine List.eq_nil_iff_forall_not_mem.2 fun l hl => ?_
      obtain ⟨r, hr, hlabel, -⟩ := first.openReturns_openNodes
        (hroot.plainIfs (hns x List.mem_cons_self)) x.mem_openNodes_self l hl
      exact hbare x List.mem_cons_self r hr hlabel

end

end GoFlow
