import GoFlow.Proofs.Descent
import GoFlow.Proofs.Integrity
import GoFlow.Proofs.Spares

/-!
# Returns are terminal, but for crowded lines

Nothing follows a return: the default edges pass returns over, and a return that is registered
starts without edges. A block may still be linked by its line after a return has taken the line
over. That takes a statement which keeps a line to link from, and a return inside it on that line,
such as an if that is written on one line with the return in its consequence.

- `Node.Crowded`: the lines on which a return inside a statement may be linked by the statement.
- `Walk.Watched`: the lines that the scope keeps to link from belong to statements around the visit.
- `Visit.Spared`, `Visits.spares`: a visit spares all returns but those on crowded lines, construct
  by construct.
-/

namespace GoFlow

/-! ## Crowded lines -/

namespace Node

/-- The node makes a return of the line: a return statement of the line it starts on, and a function
without a return among its statements of its last line. -/
def ReturnsOn (n : Node) (l : Int) : Prop :=
  (n.label = .returnStatement ∧ n.startLine = l) ∨
    (n.label.isFunction ∧ n.endLine = l ∧ ∃ body ∈ n.child? .body, Outline.returnLines body = [])

instance (n : Node) (l : Int) : Decidable (n.ReturnsOn l) := inferInstanceAs (Decidable (_ ∨ _))

/-- The lines that a statement is linked from after statements inside it were walked, in a function
that ends on `last`: the false path of an if, and the header of a loop, switch or select. -/
def openLines (last : Option Int) (n : Node) : List Int :=
  match n.label with
  | .ifStatement => [(Outline.falsePath n).1, Scope.elseEnd { functionEnd := last } n]
  | .forStatement | .expressionSwitch | .typeSwitch | .selectStatement => [n.startLine]
  | _ => []

/-- The statements that are walked before. -/
def openParts (n : Node) : List Node :=
  match n.label with
  | .ifStatement => n.statementsUnder .consequence
  | .forStatement => n.statementsUnder .body
  | .expressionSwitch | .typeSwitch | .selectStatement => n.clauses.flatMap clauseBody
  | _ => []

/-- A return inside the statement takes over a line that the statement is linked from. The header of
a loop is linked from by a switch or select in its body only. -/
def Crowds (last : Option Int) (n : Node) (l : Int) : Prop :=
  l ∈ n.openLines last ∧ (∃ r ∈ nodesIn n.openParts, r.ReturnsOn l) ∧
    (n.label = .forStatement → ∃ m ∈ nodesIn n.openParts, m.label.choice?.isSome)

instance (last : Option Int) (n : Node) (l : Int) : Decidable (n.Crowds last l) :=
  inferInstanceAs (Decidable (_ ∧ _))

/-- The line is crowded by some statement of the tree, outside functions or in one that holds it. -/
def Crowded (root : Node) (l : Int) : Prop :=
  (∃ n ∈ root.nodes, n.Crowds none l) ∨
    ∃ d ∈ root.nodes, d.label.isFunction ∧ ∃ n ∈ d.nodes, n.Crowds (some d.endLine) l

instance (root : Node) (l : Int) : Decidable (root.Crowded l) := inferInstanceAs (Decidable (_ ∨ _))

variable {n : Node}

theorem openParts_cond (h : n.label = .ifStatement) :
    n.openParts = n.statementsUnder .consequence := by
  simp [openParts, h]

theorem openParts_loop (h : n.label = .forStatement) : n.openParts = n.statementsUnder .body := by
  simp [openParts, h]

theorem openParts_choice {form : Choice} (h : n.label.choice? = some form) :
    n.openParts = n.clauses.flatMap clauseBody := by
  unfold openParts
  cases hlabel : n.label <;> simp_all [Label.choice?]

/-- Loops, switches and selects have their first lines open. -/
theorem startLine_mem_openLines (last : Option Int)
    (h : n.label = .forStatement ∨ n.label.choice?.isSome) : n.startLine ∈ n.openLines last := by
  unfold openLines
  cases hlabel : n.label <;> simp_all [Label.choice?]

end Node

/-- Where the false path ends depends on the end of the function only. -/
theorem Scope.elseEnd_eq (s : Scope) (n : Node) :
    s.elseEnd n = Scope.elseEnd { functionEnd := s.functionEnd } n := by
  unfold Scope.elseEnd Walk.falseEnd
  rfl

/-! ## The returns that a visit registers -/

/-- Links register nothing. -/
theorem register_not_mem_of_links {cs : List Change} (h : registeredBy cs = []) (l : Int)
    (kind : BlockKind) (owner : String) : .register l kind owner ∉ cs := by
  intro hmem
  have hl : l ∈ registeredBy cs := mem_registeredBy.2 ⟨kind, owner, hmem⟩
  rw [h] at hl
  cases hl

/-- What a function registers as returns before or behind its body is made a return by the function
or by a statement of its body. -/
theorem Node.returnsOn_of_mem {n body : Node} (hn : n.label.isFunction)
    (hbody : n.child? .body = some body) {name owner : String} {l : Int}
    (h : .register l .returnStatement owner
        ∈ Walk.foreseeChanges name (Outline.returnLines body) n.endLine
      ∨ .register l .returnStatement owner
        ∈ Walk.closeChanges name (Outline.returnLines body) n.endLine) :
    n.ReturnsOn l ∨ ∃ r ∈ body.statements, r.ReturnsOn l := by
  unfold Walk.foreseeChanges Walk.closeChanges at h
  split at h
  · rename_i hnone
    rw [or_self, List.mem_singleton] at h
    cases h
    exact .inl (.inr ⟨hn, rfl, body, hbody, List.isEmpty_iff.1 hnone⟩)
  · obtain ⟨m, hm, heq⟩ := List.mem_map.1 (h.resolve_right (by simp))
    cases heq
    obtain ⟨r, hr, rfl⟩ := List.mem_map.1 hm
    obtain ⟨hr, hlabel⟩ := List.mem_filter.1 hr
    exact .inr ⟨r, hr, .inl ⟨by simpa using hlabel, rfl⟩⟩

/-- A clause whose block is a return has a return among its statements, on that line. -/
theorem exists_return_of_clauseEntry {form : Choice} {k : Node}
    (h : (Outline.clauseEntry form k).2 = .returnStatement) :
    ∃ s ∈ k.clauseBody, s.label = .returnStatement ∧
      s.startLine = (Outline.clauseEntry form k).1 := by
  rcases clauseEntry_cases form k with ⟨s, hs, hkind, hline⟩ | hentry
  · refine ⟨s, hs, ?_, hline.symm⟩
    rw [h] at hkind
    unfold Outline.lentKind? at hkind
    split at hkind
    · assumption
    · cases hkind
    · cases hkind
  · rw [hentry] at h
    cases form <;> cases h

/-- The end of a loop registers no returns. -/
theorem return_not_mem_loopEnd (w : Walk) (first last l : Int) (owner : String) :
    .register l .returnStatement owner ∉ w.loopEndChanges first last := by
  intro hmem
  rcases List.mem_append.1 hmem with hmem | hmem
  · unfold Walk.loopBodyChanges at hmem
    split at hmem
    · simp at hmem
    · cases hmem
  · unfold Walk.backEdgeChanges at hmem
    split at hmem
    · cases hmem
    · simp at hmem

/-- Nor does a switch or select. -/
theorem return_not_mem_choice (s : Scope) (form : Choice) (line l : Int) (owner : String) :
    .register l .returnStatement owner ∉ Walk.choiceChanges s form line := by
  intro hmem
  rcases List.mem_cons.1 hmem with heq | hmem
  · cases form <;> cases heq
  · exact register_not_mem_of_links (Walk.registeredBy_choiceLinks _ _ _) _ _ _ hmem

namespace Visits

variable {ε : Type} {decode : List UInt8 → Except ε String}
variable {v : Visit} {w w' : Walk} {cs : List Change}

/-- A visit registers returns only for the nodes that it comes to. -/
theorem exists_returnsOn {P : Node → Prop} (hP : Hereditary P) {l : Int} {owner : String}
    (h : Visits decode v w cs w') :
    v.All P → .register l .returnStatement owner ∈ cs → ∃ r, P r ∧ r.ReturnsOn l := by
  induction h with
  | other _ _ ih => exact fun hn => ih (hP.named hn)
  | prototype => exact fun _ hmem => by simp at hmem
  | @function n w body name cs w' label hbody _ _ ih =>
    intro hn hmem
    have hstatements : ∀ s ∈ body.statements, P s :=
      hP.statements (hP n hn body (Node.child?_mem hbody))
    simp only [List.mem_cons, List.mem_append, reduceCtorEq, Change.register.injEq, and_false,
      false_and, false_or] at hmem
    -- ahead of the body, within it, or at the end
    rcases hmem with hmem | hmem | hmem
    · rcases Node.returnsOn_of_mem label hbody (.inl hmem) with hl | ⟨r, hr, hl⟩
      · exact ⟨n, hn, hl⟩
      · exact ⟨r, hstatements r hr, hl⟩
    · exact ih hstatements hmem
    · rcases Node.returnsOn_of_mem label hbody (.inr hmem) with hl | ⟨r, hr, hl⟩
      · exact ⟨n, hn, hl⟩
      · exact ⟨r, hstatements r hr, hl⟩
  | @ret n w cs w' label _ ih =>
    intro hn hmem
    rcases List.mem_append.1 hmem with hmem | hmem
    · rcases List.mem_cons.1 hmem with heq | hmem
      · cases heq
        exact ⟨n, hn, .inl ⟨label, rfl⟩⟩
      · exact absurd hmem (register_not_mem_of_links (registeredBy_linksFrom _ _) _ _ _)
    · exact ih (hP.named hn) hmem
  | spawn _ _ ih =>
    intro hn hmem
    simp only [List.mem_cons, Change.register.injEq, reduceCtorEq, false_and, and_false,
      false_or] at hmem
    exact ih (hP.named hn) hmem
  | cond label _ _ _ ih₁ ih₂ ih₃ =>
    intro hn hmem
    simp only [List.mem_append] at hmem
    rcases hmem with hmem | hmem | hmem | hmem | hmem
    · simp [Walk.condChanges] at hmem
    · exact ih₁ (hP.statementsUnder hn _) hmem
    · exact absurd hmem (register_not_mem_of_links (by simp [Walk.falsePathChanges]) _ _ _)
    · refine ih₂ (fun s hs => ?_) hmem
      exact (List.mem_append.1 hs).elim (hP.namedUnder hn _ s) (hP.namedUnder hn _ s)
    · exact ih₃ (hP.child? hn _) hmem
  | loop label _ _ ih₁ ih₂ =>
    intro hn hmem
    simp only [List.mem_append] at hmem
    rcases hmem with hmem | hmem | hmem | hmem
    · exact ih₁ (hP.headerParts hn) hmem
    · simp [Walk.loopChanges, mem_linksTo] at hmem
    · exact ih₂ (hP.statementsUnder hn _) hmem
    · exact absurd hmem (return_not_mem_loopEnd _ _ _ _ _)
  | @choice n form _ _ _ _ _ label _ _ ih₁ ih₂ =>
    intro hn hmem
    simp only [List.mem_append] at hmem
    rcases hmem with hmem | hmem | hmem
    · exact ih₁ (hP.headerParts hn) hmem
    · exact absurd hmem (return_not_mem_choice _ _ _ _ _)
    · exact ih₂ (hP.clauseBody hn) hmem
  | nil => exact fun _ hmem => by cases hmem
  | cons _ _ ih₁ ih₂ =>
    intro hns hmem
    rcases List.mem_append.1 hmem with hmem | hmem
    · exact ih₁ (hns _ List.mem_cons_self) hmem
    · exact ih₂ (fun n hn => hns n (List.mem_cons_of_mem _ hn)) hmem
  | noClause => exact fun _ hmem => by cases hmem
  | @clause form k ks _ _ _ _ _ _ _ ih₁ ih₂ =>
    intro hks hmem
    simp only [List.mem_append] at hmem
    rcases hmem with hmem | hmem | hmem | hmem
    · rcases List.mem_cons.1 hmem with heq | hmem
      · -- a clause is registered as a return only for a return among its statements
        obtain ⟨hl, hkind, -⟩ := Change.register.inj heq
        obtain ⟨s, hs, hlabel, hline⟩ := exists_return_of_clauseEntry hkind.symm
        exact ⟨s, hks k List.mem_cons_self s hs, .inl ⟨hlabel, hline.trans hl.symm⟩⟩
      · exact absurd hmem (register_not_mem_of_links (by simp) _ _ _)
    · exact ih₁ (hks k List.mem_cons_self) hmem
    · exact absurd hmem (register_not_mem_of_links (registeredBy_clauseEnd _ _ _) _ _ _)
    · exact ih₂ (fun m hm => hks m (List.mem_cons_of_mem k hm)) hmem

end Visits

/-! ## The lines that a scope keeps -/

namespace Walk

/-- From `w` to `u`, lines become returns only by nodes that the visit comes to. -/
def Reaches (v : Visit) (w u : Walk) : Prop :=
  ∀ l, u.kindAt l = some .returnStatement → w.kindAt l = some .returnStatement ∨
    ∀ P, Hereditary P → v.All P → ∃ r, P r ∧ r.ReturnsOn l

theorem Reaches.refl {v : Visit} {w : Walk} : w.Reaches v w := fun _ hl => .inl hl

/-- The visit goes on inside the statement `n` of the tree, whose first line is a return only if a
node inside makes it one. -/
structure Watches (root : Node) (v : Visit) (w : Walk) (n : Node) : Prop where
  mem : n ∈ root.nodes
  inside : v.All (· ∈ Node.nodesIn n.openParts)
  kind : w.kindAt n.startLine = some .returnStatement →
    ∃ r ∈ Node.nodesIn n.openParts, r.ReturnsOn n.startLine

/-- The line that a scope keeps, if any, is the first of such a statement. -/
def Keeps (root : Node) (v : Visit) (w : Walk) (p : Label → Prop) (line : Option Int) : Prop :=
  ∀ l ∈ line, ∃ n, p n.label ∧ n.startLine = l ∧ w.Watches root v n

/-- The scope refers to the function, loop and switch of the tree that the visit goes on in. -/
structure Watched (root : Node) (v : Visit) (w : Walk) : Prop where
  below : v.All (· ∈ root.nodes)
  functionEnd : ∀ last ∈ w.scope.functionEnd, ∃ d ∈ root.nodes, d.label.isFunction ∧
    d.endLine = last ∧ v.All (· ∈ d.nodes)
  loopHeader : w.Keeps root v (· = .forStatement) w.scope.loopHeader
  switchHeader : w.Keeps root v (·.choice?.isSome) w.scope.switchHeader

variable {root n : Node} {v v' : Visit} {w u : Walk}

/-- What is watched on the way of a visit is watched further in. -/
theorem Watches.step (h : w.Watches root v n) (hbelow : v'.Below v) (hreach : w.Reaches v u) :
    u.Watches root v' n where
  mem := h.mem
  inside := hbelow _ (Node.hereditary_nodesIn _) h.inside
  kind hkind := by
    rcases hreach _ hkind with hold | hnew
    · exact h.kind hold
    · exact hnew _ (Node.hereditary_nodesIn _) h.inside

/-- What is kept on the way of a visit is kept further in. -/
theorem Keeps.step {p : Label → Prop} {line : Option Int} (h : w.Keeps root v p line)
    (hbelow : v'.Below v) (hreach : w.Reaches v u) : u.Keeps root v' p line := by
  intro l hl
  obtain ⟨n, hn, hline, hwatch⟩ := h l hl
  exact ⟨n, hn, hline, hwatch.step hbelow hreach⟩

theorem Watches.keeps {p : Label → Prop} (h : w.Watches root v n) (hn : p n.label) :
    w.Keeps root v p (some n.startLine) := by
  rintro l ⟨⟩
  exact ⟨n, hn, rfl, h⟩

namespace Watched

/-- Further down, a scope stays watched if it refers to the same function, and if the statements
that it keeps lines of hold the visit. -/
theorem step (h : w.Watched root v) (hbelow : v'.Below v)
    (hend : u.scope.functionEnd = w.scope.functionEnd)
    (hloop : u.Keeps root v' (· = .forStatement) u.scope.loopHeader)
    (hswitch : u.Keeps root v' (·.choice?.isSome) u.scope.switchHeader) : u.Watched root v' where
  below := hbelow _ (Node.hereditary_nodes root) h.below
  functionEnd last hlast := by
    obtain ⟨d, hd, hlabel, hline, hv⟩ := h.functionEnd last (hend ▸ hlast)
    exact ⟨d, hd, hlabel, hline, hbelow _ (Node.hereditary_nodes d) hv⟩
  loopHeader := hloop
  switchHeader := hswitch

/-- In particular if it keeps the same lines. -/
theorem stay (h : w.Watched root v) (hbelow : v'.Below v) (hreach : w.Reaches v u)
    (hscope : u.scope = { w.scope with returnTarget := u.scope.returnTarget }) :
    u.Watched root v' := by
  refine h.step hbelow ?_ ?_ ?_
  · rw [hscope]
  · rw [hscope]
    exact h.loopHeader.step hbelow hreach
  · rw [hscope]
    exact h.switchHeader.step hbelow hreach

/-- In the body of a function, the scope refers to the function only. -/
theorem enterFunction (h : w.Watched root (.node n)) {body : Node} (hn : n.label.isFunction)
    (hbody : n.child? .body = some body) (name : String) :
    ((w.enterFunction name n.startLine (some n.endLine)).foresee (Outline.returnLines body)
      n.endLine).Watched root (.nodes body.statements) where
  below := (Node.hereditary_nodes root).statements
    (Node.hereditary_nodes root n h.below body (Node.child?_mem hbody))
  functionEnd last hlast := by
    rw [scope_foresee, scope_enterFunction] at hlast
    refine ⟨n, h.below, hn, Option.some.inj hlast, ?_⟩
    exact (Node.hereditary_nodes n).statements
      (Node.hereditary_nodes n n n.mem_nodes_self body (Node.child?_mem hbody))
  loopHeader l hl := by
    rw [scope_foresee] at hl
    cases hl
  switchHeader l hl := by
    rw [scope_foresee] at hl
    cases hl

/-- The header of a switch that has become a return is crowded. -/
theorem crowded_switch (h : w.Watched root v) (hreach : w.Reaches v u) {l : Int}
    (hl : w.scope.switchHeader = some l) (hkind : u.kindAt l = some .returnStatement) :
    root.Crowded l := by
  obtain ⟨n, hn, rfl, hwatch⟩ := h.switchHeader l hl
  refine .inl ⟨n, hwatch.mem, Node.startLine_mem_openLines none (.inr hn),
    (hwatch.step (Visit.Below.refl v) hreach).kind hkind, fun hloop => ?_⟩
  rw [hloop] at hn
  cases hn

/-- The header of a loop that has become a return is crowded, given a switch or select inside. -/
theorem crowded_loop (h : w.Watched root (.node n)) (hn : n.label.choice?.isSome)
    (hreach : w.Reaches (.node n) u) {l : Int} (hl : w.scope.loopHeader = some l)
    (hkind : u.kindAt l = some .returnStatement) : root.Crowded l := by
  obtain ⟨m, hm, rfl, hwatch⟩ := h.loopHeader l hl
  exact .inl ⟨m, hwatch.mem, Node.startLine_mem_openLines none (.inl hm),
    (hwatch.step (Visit.Below.refl _) hreach).kind hkind, fun _ => ⟨n, hwatch.inside, hn⟩⟩

/-- A return in the consequence of an if crowds either end of the false path. -/
theorem crowded_cond (h : w.Watched root (.node n)) (hn : n.label = .ifStatement) {l : Int}
    (hl : l = (Outline.falsePath n).1 ∨ l = w.scope.elseEnd n)
    (hreturn : ∃ r ∈ Node.nodesIn (n.statementsUnder .consequence), r.ReturnsOn l) :
    root.Crowded l := by
  have hcrowds : n.Crowds w.scope.functionEnd l := by
    refine ⟨?_, by rwa [Node.openParts_cond hn], fun hloop => ?_⟩
    · rw [Scope.elseEnd_eq] at hl
      simpa [Node.openLines, hn] using hl
    · rw [hn] at hloop
      cases hloop
  cases hend : w.scope.functionEnd with
  | none => exact .inl ⟨n, h.below, hend ▸ hcrowds⟩
  | some last =>
    obtain ⟨d, hd, hlabel, rfl, hbelow⟩ := h.functionEnd last hend
    exact .inr ⟨d, hd, hlabel, n, hbelow, hend ▸ hcrowds⟩

end Watched

end Walk

/-- At any point of a visit, the lines that have become returns are those of nodes it comes to. -/
theorem Visits.reaches {ε : Type} {decode : List UInt8 → Except ε String} {v : Visit}
    {w w' u : Walk} {cs pre : List Change} (h : Visits decode v w cs w')
    (hu : u.graph = w.graph.replay pre) (hpre : pre ⊆ cs) : w.Reaches v u := by
  intro l hl
  rw [Walk.kindAt, hu] at hl
  refine (Graph.kind?_of_replay hl).imp_right fun ⟨owner, hmem⟩ P hP hv => ?_
  exact h.exists_returnsOn hP hv (hpre hmem)

theorem Visits.reaches_add {ε : Type} {decode : List UInt8 → Except ε String} {v : Visit}
    {w w' : Walk} {cs : List Change} {l : Int} {kind : BlockKind}
    (h : Visits decode v w (.register l kind w.scope.function :: cs) w') :
    w.Reaches v (w.add l kind) :=
  h.reaches (show _ = w.graph.replay [.register l kind w.scope.function] from rfl) (by simp)

/-! ## Visits spare returns -/

/-- Where the scope is watched, the visit links from returns on crowded lines only, and on lines
that it registers anew. -/
def Visit.Spared (root : Node) (v : Visit) (w : Walk) (cs : List Change) : Prop :=
  w.Watched root v → Spares root.Crowded w.graph cs

namespace Visits

variable {ε : Type} {decode : List UInt8 → Except ε String} {root : Node}
variable {v : Visit} {w w' : Walk} {cs : List Change}

/-- In the body of a loop, the loop itself is the one to link from. -/
theorem watched_loop {n : Node} {w w₁ : Walk} {cs : List Change} (hw : w.Watched root (.node n))
    (label : n.label = .forStatement) (header : Visits decode (.nodes n.headerParts) w cs w₁)
    (hreach : w.Reaches (.node n)
      ((w₁.aimAt w.scope.returnTarget).enterLoop n.startLine)) :
    ((w₁.aimAt w.scope.returnTarget).enterLoop n.startLine).Watched root
      (.nodes (n.statementsUnder .body)) := by
  have hscope := Walk.scope_enterLoop (w₁.aimAt w.scope.returnTarget) n.startLine
  rw [header.scope_aimAt] at hscope
  have hwatch : ((w₁.aimAt w.scope.returnTarget).enterLoop n.startLine).Watches root
      (.nodes (n.statementsUnder .body)) n := by
    refine ⟨hw.below, fun s hs => ?_, fun hkind => ?_⟩
    · rw [Node.openParts_loop label]
      exact Node.mem_nodesIn_of_mem hs
    · rw [Walk.kindAt, header.graph_enterLoop, Walk.loopChanges,
        kind?_register_links _ _ _ _ (registeredBy_linksTo _ _)] at hkind
      cases hkind
  have hbelow : (Visit.nodes (n.statementsUnder .body)).Below (.node n) :=
    fun _ hP hn => hP.statementsUnder hn _
  refine hw.step hbelow (by rw [hscope]) ?_ ?_
  · rw [hscope]
    exact hwatch.keeps label
  · rw [hscope]
    exact hw.switchHeader.step hbelow hreach

/-- In the clauses of a switch or select, that is the one. -/
theorem watched_choice {n : Node} {form : Choice} {w w₁ : Walk} {cs : List Change}
    (hw : w.Watched root (.node n)) (label : n.label.choice? = some form)
    (header : Visits decode (.nodes n.headerParts) w cs w₁)
    (hreach : w.Reaches (.node n)
      ((w₁.aimAt w.scope.returnTarget).enterChoice form n.startLine)) :
    ((w₁.aimAt w.scope.returnTarget).enterChoice form n.startLine).Watched root
      (.clauses form n.clauses) := by
  have hscope := Walk.scope_enterChoice (w₁.aimAt w.scope.returnTarget) form n.startLine
  rw [header.scope_aimAt] at hscope
  have hwatch : ((w₁.aimAt w.scope.returnTarget).enterChoice form n.startLine).Watches root
      (.clauses form n.clauses) n := by
    refine ⟨hw.below, fun k hk s hs => ?_, fun hkind => ?_⟩
    · rw [Node.openParts_choice label]
      exact Node.mem_nodesIn_of_mem (List.mem_flatMap.2 ⟨k, hk, hs⟩)
    · rw [Walk.kindAt, header.graph_enterChoice, Walk.choiceChanges,
        kind?_register_links _ _ _ _ (Walk.registeredBy_choiceLinks _ _ _)] at hkind
      cases form <;> cases hkind
  have hbelow : (Visit.clauses form n.clauses).Below (.node n) := fun _ hP hn => hP.clauseBody hn
  have hsome : n.label.choice?.isSome := by
    rw [label]
    rfl
  refine hw.step hbelow (by rw [hscope]) ?_ ?_
  · rw [hscope]
    exact hw.loopHeader.step hbelow hreach
  · rw [hscope]
    exact hwatch.keeps hsome

/-- The false path of an if is linked from a return only if the consequence put it there. -/
theorem spares_falsePath {n : Node} {w w₁ : Walk} {cs : List Change} (hw : w.Watched root (.node n))
    (label : n.label = .ifStatement)
    (consequence : Visits decode (.nodes (n.statementsUnder .consequence))
      (w.enterCond n.startLine (Outline.falsePath n).1 (w.scope.elseEnd n)) cs w₁) :
    Spares root.Crowded w₁.graph
      (Walk.falsePathChanges w₁.scope (Outline.falsePath n).1 (w.scope.elseEnd n)) := by
  refine spares_links (by simp [Walk.falsePathChanges]) fun l t hmem hkind => ?_
  have hl : l = (Outline.falsePath n).1 ∨ l = w.scope.elseEnd n := by
    rw [Walk.falsePathChanges, List.mem_append, mem_linksTo, mem_linksTo] at hmem
    rcases hmem with ⟨_, -, heq⟩ | ⟨_, -, heq⟩
    · exact .inl (Change.link.inj heq).1
    · exact .inr (Change.link.inj heq).1
  refine hw.crowded_cond label hl ?_
  rw [consequence.graph_eq, Walk.graph_enterCond] at hkind
  rcases Graph.kind?_of_replay hkind with hold | ⟨owner, hreg⟩
  · exact absurd hold (kind?_cond _ _ _ _ _ l (.inr hl))
  · exact consequence.exists_returnsOn (Node.hereditary_nodesIn (n.statementsUnder .consequence))
      (fun s hs => Node.mem_nodesIn_of_mem hs) hreg

/-- A switch or select is linked from a return only if that is the header of the loop around. -/
theorem spares_choice {n : Node} {form : Choice} {w : Walk} {g : Graph}
    (hw : w.Watched root (.node n)) (label : n.label.choice? = some form)
    (hreach : w.Reaches (.node n) (({ w with graph := g } : Walk).add n.startLine form.kind)) :
    Spares root.Crowded g (Walk.choiceChanges w.scope form n.startLine) := by
  refine .register (spares_links (Walk.registeredBy_choiceLinks _ _ _) fun l t hmem hkind => ?_)
  have hown : l ≠ n.startLine := by
    rintro rfl
    rw [Graph.kind?_register, if_pos rfl] at hkind
    cases form <;> cases hkind
  rw [List.mem_append, List.mem_append, mem_linksFrom, mem_linksTo] at hmem
  rcases hmem with (⟨m, hm, heq⟩ | ⟨m, -, heq⟩) | hmem
  · obtain ⟨rfl, -⟩ := Change.link.inj heq
    exact hw.crowded_loop (by rw [label]; rfl) hreach hm hkind
  · exact absurd (Change.link.inj heq).1 hown
  · split at hmem
    · obtain ⟨m, -, heq⟩ := mem_linksTo.1 hmem
      exact absurd (Change.link.inj heq).1 hown
    · cases hmem

/-- A clause is linked from a return only if that is the header of its switch, or its own block,
which the return among its statements registers anew. -/
theorem spares_clause {form : Choice} {k : Node} {ks : List Node} {w w₁ : Walk}
    {cs rest : List Change} (hw : w.Watched root (.clauses form (k :: ks)))
    (hreach : w.Reaches (.clauses form (k :: ks))
      (w.add (Outline.clauseEntry form k).1 (Outline.clauseEntry form k).2))
    (body : Visits decode (.nodes k.clauseBody)
      (w.enterClause (Outline.clauseEntry form k).1 (Outline.clauseEntry form k).2) cs w₁) :
    Spares (fun l => l ∈ registeredBy (cs ++ rest) ∨ root.Crowded l) w.graph
      (Walk.clauseChanges w.scope (Outline.clauseEntry form k).1
        (Outline.clauseEntry form k).2) := by
  refine .register (spares_links (by simp) fun l t hmem hkind => ?_)
  have hown : l = (Outline.clauseEntry form k).1 → l ∈ registeredBy (cs ++ rest) := by
    rintro rfl
    rw [Graph.kind?_register, if_pos rfl] at hkind
    obtain ⟨s, hs, hlabel, hline⟩ := exists_return_of_clauseEntry (Option.some.inj hkind)
    have hreg := body.startLine_mem_of_mem hs (by rw [hlabel]; rfl)
    rw [← hline, registeredBy_append]
    exact List.mem_append_left _ hreg
  rw [List.mem_append, List.mem_append, mem_linksTo, mem_linksFrom, mem_linksTo] at hmem
  rcases hmem with (⟨m, -, heq⟩ | ⟨m, hm, heq⟩) | ⟨m, -, heq⟩
  · exact .inl (hown (Change.link.inj heq).1)
  · obtain ⟨rfl, -⟩ := Change.link.inj heq
    exact .inr (hw.crowded_switch hreach hm hkind)
  · exact .inl (hown (Change.link.inj heq).1)

/-- **A return** is linked from its clause, and not with anything itself. -/
theorem spared_return {n : Node} (label : n.label = .returnStatement)
    (inside : Visits decode (.nodes n.named) (w.enterReturn n.startLine) cs w')
    (ih : (Visit.nodes n.named).Spared root (w.enterReturn n.startLine) cs) :
    (Visit.node n).Spared root w (Walk.returnChanges w.scope n.startLine ++ cs) := by
  intro hw
  have hvisit := Visits.ret label inside
  have hadd : Spares root.Crowded w.graph (Walk.returnChanges w.scope n.startLine) := by
    refine .register (spares_links (registeredBy_linksFrom _ _) fun s t hmem hs => ?_)
    obtain ⟨m, hm, heq⟩ := mem_linksFrom.1 hmem
    obtain ⟨rfl, -⟩ := Change.link.inj heq
    exact hw.crowded_switch hvisit.reaches_add hm hs
  have hreach := hvisit.reaches (Walk.graph_enterReturn w n.startLine)
    (List.subset_append_left _ _)
  have hcs := ih (hw.stay (fun _ hP hn => hP.named hn) hreach (by rw [Walk.scope_enterReturn]))
  rw [Walk.graph_enterReturn] at hcs
  exact hadd.append hcs

/-- Each part of an if is spared in the graph that the parts before it have left. -/
theorem spared_cond {n : Node} {w₁ w₂ w₃ : Walk} {cs ds es : List Change}
    (label : n.label = .ifStatement)
    (consequence : Visits decode (.nodes (n.statementsUnder .consequence))
      (w.enterCond n.startLine (Outline.falsePath n).1 (w.scope.elseEnd n)) cs w₁)
    (header : Visits decode (.nodes (n.namedUnder .initializer ++ n.namedUnder .condition))
      (w₁.leaveCond (Outline.falsePath n).1 (w.scope.elseEnd n)) ds w₂)
    (alternative : Visits decode (.nodes (n.child? .alternative).toList) w₂ es w₃)
    (ih₁ : (Visit.nodes (n.statementsUnder .consequence)).Spared root
      (w.enterCond n.startLine (Outline.falsePath n).1 (w.scope.elseEnd n)) cs)
    (ih₂ : (Visit.nodes (n.namedUnder .initializer ++ n.namedUnder .condition)).Spared root
      (w₁.leaveCond (Outline.falsePath n).1 (w.scope.elseEnd n)) ds)
    (ih₃ : (Visit.nodes (n.child? .alternative).toList).Spared root w₂ es) :
    (Visit.node n).Spared root w
      (Walk.condChanges w.scope n.startLine (Outline.falsePath n).1 (w.scope.elseEnd n)
        ++ (cs ++ (Walk.falsePathChanges w₁.scope (Outline.falsePath n).1 (w.scope.elseEnd n)
          ++ (ds ++ es)))) := by
  intro hw
  have hvisit := Visits.cond label consequence header alternative
  have hgraph₁ := consequence.graph_eq
  rw [Walk.graph_enterCond] at hgraph₁
  have hgraph₂ := Walk.graph_leaveCond w₁ (Outline.falsePath n).1 (w.scope.elseEnd n)
  have hgraph₃ := header.graph_eq
  have hreach₁ := hvisit.reaches (Walk.graph_enterCond ..) (List.subset_append_left _ _)
  have hreach₂ := hvisit.reaches
    (by rw [hgraph₂, hgraph₁, ← Graph.replay_append, ← Graph.replay_append]) (by grind)
  have hreach₃ : w.Reaches (.node n) w₂ := hvisit.reaches
    (by rw [hgraph₃, hgraph₂, hgraph₁, ← Graph.replay_append, ← Graph.replay_append,
      ← Graph.replay_append]) (by grind)
  have hbelow : (Visit.nodes (n.namedUnder .initializer ++ n.namedUnder .condition)).Below
      (.node n) := fun _ hP hn s hs =>
    (List.mem_append.1 hs).elim (hP.namedUnder hn _ s) (hP.namedUnder hn _ s)
  have hcs := ih₁ (hw.stay (fun _ hP hn => hP.statementsUnder hn _) hreach₁ rfl)
  have hfalse := spares_falsePath hw label consequence
  have hds := ih₂ (hw.stay hbelow hreach₂
    (by rw [Walk.scope_leaveCond]; exact consequence.scope_eq))
  have hes := ih₃ (hw.stay (fun _ hP hn => hP.child? hn _) hreach₃
    (by rw [header.scope_eq, Walk.scope_leaveCond, consequence.scope_eq]; rfl))
  rw [Walk.graph_enterCond] at hcs
  rw [hgraph₁] at hfalse
  rw [hgraph₂, hgraph₁] at hds
  rw [hgraph₃, hgraph₂, hgraph₁] at hes
  exact (spares_cond _ _ _ _ _).append (hcs.append (hfalse.append (hds.append hes)))

/-- **A loop** is turned back at its newest block only if that block is no return. -/
theorem spared_loop {n : Node} {w₁ w₂ : Walk} {cs ds : List Change}
    (label : n.label = .forStatement) (header : Visits decode (.nodes n.headerParts) w cs w₁)
    (body : Visits decode (.nodes (n.statementsUnder .body))
      ((w₁.aimAt w.scope.returnTarget).enterLoop n.startLine) ds w₂)
    (ih₁ : (Visit.nodes n.headerParts).Spared root w cs)
    (ih₂ : (Visit.nodes (n.statementsUnder .body)).Spared root
      ((w₁.aimAt w.scope.returnTarget).enterLoop n.startLine) ds) :
    (Visit.node n).Spared root w
      (cs ++ (Walk.loopChanges w.scope n.startLine
        ++ (ds ++ w₂.loopEndChanges n.startLine n.endLine))) := by
  intro hw
  have hgraph := header.graph_enterLoop n.startLine
  have hreach := (Visits.loop label header body).reaches
    (by rw [hgraph, header.graph_eq, ← Graph.replay_append]) (by grind)
  have hcs := ih₁ (hw.stay (fun _ hP hn => hP.headerParts hn) .refl rfl)
  have hds := ih₂ (watched_loop hw label header hreach)
  have hend : Spares root.Crowded w₂.graph (w₂.loopEndChanges n.startLine n.endLine) :=
    spares_loopEnd w₂ n.startLine n.endLine
  rw [hgraph, header.graph_eq] at hds
  rw [body.graph_eq, hgraph, header.graph_eq] at hend
  exact hcs.append ((spares_loop _ _ _).append (hds.append hend))

/-- **A switch or select** links its own block, which is none of the returns. -/
theorem spared_choice {n : Node} {form : Choice} {w₁ w₂ : Walk} {cs ds : List Change}
    (label : n.label.choice? = some form)
    (header : Visits decode (.nodes n.headerParts) w cs w₁)
    (parts : Visits decode (.clauses form n.clauses)
      ((w₁.aimAt w.scope.returnTarget).enterChoice form n.startLine) ds w₂)
    (ih₁ : (Visit.nodes n.headerParts).Spared root w cs)
    (ih₂ : (Visit.clauses form n.clauses).Spared root
      ((w₁.aimAt w.scope.returnTarget).enterChoice form n.startLine) ds) :
    (Visit.node n).Spared root w
      (cs ++ (Walk.choiceChanges w.scope form n.startLine ++ ds)) := by
  intro hw
  have hvisit := Visits.choice label header parts
  have hgraph := header.graph_enterChoice form n.startLine
  have hreach := hvisit.reaches
    (by rw [hgraph, header.graph_eq, ← Graph.replay_append]) (by grind)
  have hcs := ih₁ (hw.stay (fun _ hP hn => hP.headerParts hn) .refl rfl)
  have hchoice : Spares root.Crowded w₁.graph (Walk.choiceChanges w.scope form n.startLine) := by
    refine spares_choice hw label (hvisit.reaches
      (show _ = w.graph.replay (cs ++ [.register n.startLine form.kind w.scope.function]) from ?_)
      (by simp [Walk.choiceChanges]))
    rw [Graph.replay_append, ← header.graph_eq]
    rfl
  have hds := ih₂ (watched_choice hw label header hreach)
  rw [header.graph_eq] at hchoice
  rw [hgraph, header.graph_eq] at hds
  exact hcs.append (hchoice.append hds)

/-- A clause may link from its own block, which the return among its statements registers anew. -/
theorem spared_clause {form : Choice} {k : Node} {ks : List Node} {w₁ w₂ : Walk}
    {cs ds : List Change}
    (body : Visits decode (.nodes k.clauseBody)
      (w.enterClause (Outline.clauseEntry form k).1 (Outline.clauseEntry form k).2) cs w₁)
    (rest : Visits decode (.clauses form ks)
      (w₁.leaveClause (Outline.clauseEntry form k).1 w.scope) ds w₂)
    (ih₁ : (Visit.nodes k.clauseBody).Spared root
      (w.enterClause (Outline.clauseEntry form k).1 (Outline.clauseEntry form k).2) cs)
    (ih₂ : (Visit.clauses form ks).Spared root
      (w₁.leaveClause (Outline.clauseEntry form k).1 w.scope) ds) :
    (Visit.clauses form (k :: ks)).Spared root w
      (Walk.clauseChanges w.scope (Outline.clauseEntry form k).1 (Outline.clauseEntry form k).2
        ++ (cs ++ (w₁.clauseEndChanges (Outline.clauseEntry form k).1 w.scope ++ ds))) := by
  intro hw
  have hvisit := Visits.clause body rest
  have hgraph₁ := body.graph_eq
  rw [Walk.graph_enterClause] at hgraph₁
  have hgraph₂ := Walk.graph_leaveClause w₁ (Outline.clauseEntry form k).1 w.scope
  rw [hgraph₁] at hgraph₂
  have hcs := ih₁ (hw.stay (fun _ _ hks => hks k List.mem_cons_self)
    (hvisit.reaches (Walk.graph_enterClause ..) (List.subset_append_left _ _))
    (by rw [Walk.scope_enterClause]))
  have hend : Spares root.Crowded w₁.graph
      (w₁.clauseEndChanges (Outline.clauseEntry form k).1 w.scope) := spares_clauseEnd _ _ _
  have hds := ih₂ (hw.stay (fun _ _ hks m hm => hks m (List.mem_cons_of_mem k hm))
    (hvisit.reaches (by rw [hgraph₂, ← Graph.replay_append, ← Graph.replay_append]) (by grind))
    (by rw [Walk.scope_leaveClause, body.scope_eq, Walk.scope_enterClause]))
  rw [Walk.graph_enterClause] at hcs
  rw [hgraph₁] at hend
  rw [hgraph₂] at hds
  exact Spares.append_of (spares_clause hw hvisit.reaches_add body)
    (hcs.append (hend.append hds))

/-- **Visits spare returns**: a visit links from returns on crowded lines only, and on lines that
it registers anew. -/
theorem spares (h : Visits decode v w cs w') : v.Spared root w cs := by
  induction h with
  | other _ _ ih => exact fun hw => ih (hw.stay (fun _ hP hn => hP.named hn) .refl rfl)
  | prototype => exact fun _ => .register trivial
  | function label hbody _ _ ih =>
    intro hw
    have hcs := ih (hw.enterFunction label hbody _)
    rw [Walk.graph_foresee_enterFunction] at hcs
    exact .register (.append (spares_foresee _ _ _) (.append hcs (spares_close _ _ _)))
  | ret label inside ih => exact spared_return label inside ih
  | spawn label inside ih =>
    intro hw
    have hreach := (Visits.spawn label inside).reaches_add
    exact .register (ih (hw.stay (fun _ hP hn => hP.named hn) hreach rfl))
  | cond label consequence header alternative ih₁ ih₂ ih₃ =>
    exact spared_cond label consequence header alternative ih₁ ih₂ ih₃
  | loop label header body ih₁ ih₂ => exact spared_loop label header body ih₁ ih₂
  | choice label header parts ih₁ ih₂ => exact spared_choice label header parts ih₁ ih₂
  | nil => exact fun _ => trivial
  | @cons n ns w cs w₁ ds w₂ first rest ih₁ ih₂ =>
    intro hw
    have hcs := ih₁ (hw.stay (fun _ _ hns => hns _ List.mem_cons_self) .refl rfl)
    have hreach := (Visits.cons first rest).reaches first.graph_eq (List.subset_append_left _ _)
    have hds := ih₂ (hw.stay (fun _ _ hns m hm => hns m (List.mem_cons_of_mem _ hm)) hreach
      first.scope_eq)
    rw [first.graph_eq] at hds
    exact hcs.append hds
  | noClause => exact fun _ => trivial
  | clause body rest ih₁ ih₂ => exact spared_clause body rest ih₁ ih₂

end Visits

/-- **Returns are terminal**: in a graph built from scratch, a block that is left as a return has no
edges, unless its line is crowded. -/
theorem edges_eq_nil_of_return {ε : Type} {decode : List UInt8 → Except ε String} {root : Node}
    {b : Build} (hb : build decode root {} = .ok b) {x : Block} (hx : x ∈ b.blocks)
    (hkind : x.kind = .returnStatement) (hfree : ¬ root.Crowded x.endLine) : x.edges = [] := by
  obtain ⟨cs, w, ls, hvisit, hcs, hfinish⟩ := finishes_of_build Graph.sound_empty hb
  have hstart : ({} : Walk).Watched root (.nodes root.named) :=
    ⟨(Node.hereditary_nodes root).named root.mem_nodes_self, nofun, nofun, nofun⟩
  have hspares := hvisit.spares hstart
  obtain ⟨hl, hget⟩ := hfinish.mem_blocks hx
  obtain ⟨y, hy, hykind, hleads⟩ := hfinish.exists_walked hget
  rw [hkind] at hykind hleads
  by_contra hne
  -- an edge of a return is one that the walk drew, after the last registration of the line
  obtain ⟨t, ht⟩ := (hfinish.sound.block hget).exists_leadsTo hne
  have hdrawn : y.LeadsTo t := ((hleads t).1 ht).resolve_left fun h => by cases h.1
  have hreg : x.endLine ∈ registeredBy cs :=
    Graph.contains_replay_empty.1 ((hfinish.mem_lines _).1 hl)
  rw [Graph.get?_replay Graph.sound_empty hcs] at hy
  obtain ⟨pre, kind, owner, post, rfl, hpost⟩ := exists_last_register hreg
  obtain ⟨z, hz, hzkind, -, hzleads⟩ :=
    @blockAfter_last x.endLine pre post kind owner hpost (({} : Graph).get? (.line x.endLine))
  obtain rfl : z = y := Option.some.inj (hz.symm.trans hy)
  obtain rfl : kind = .returnStatement := by rw [← hzkind, ← hykind]
  exact hfree (hspares.allowed_of_link hpost ((hzleads t).1 hdrawn))

/-- A function with a loop that returns at once, all on line 2, and a return in an if on lines
3 to 5. -/
def promptReturns : Node :=
  .mk { label := .other "source_file" } [
    .mk { label := .functionDeclaration, span := { startRow := 0, endRow := 6 } } [
      .mk { label := .block, span := { startRow := 0, endRow := 6 }, field := some .body } [
        .mk { label := .forStatement, span := { startRow := 1, endRow := 1 } } [
          .mk { label := .block, span := { startRow := 1, endRow := 1 }, field := some .body } [
            .mk { label := .returnStatement, span := { startRow := 1, endRow := 1 } } []]],
        .mk { label := .ifStatement, span := { startRow := 2, endRow := 4 } } [
          .mk { label := .block, span := { startRow := 2, endRow := 4 },
                field := some .consequence } [
            .mk { label := .returnStatement, span := { startRow := 3, endRow := 3 } } []]]]]]

/-- None of the lines is crowded, so each return is terminal, also the one that takes over the line
of its loop. -/
theorem edges_eq_nil_of_return_promptReturns :
    ∃ b, build (fun _ => (.ok "" : Except Empty String)) promptReturns {} = .ok b ∧
      b.blocks.map (fun x => (x.endLine, x.kind)) =
        [(1, .functionEntry), (2, .returnStatement), (3, .ifCondition), (4, .returnStatement),
         (5, .elseCondition), (6, .elseBody), (7, .returnStatement)] ∧
      (∀ x ∈ b.blocks, ¬ promptReturns.Crowded x.endLine) ∧
      ∀ x ∈ b.blocks, x.kind = .returnStatement → x.edges = [] := by
  have hbuild : ∃ b, build (fun _ => (.ok "" : Except Empty String)) promptReturns {} = .ok b ∧
      b.blocks.map (fun x => (x.endLine, x.kind)) =
        [(1, .functionEntry), (2, .returnStatement), (3, .ifCondition), (4, .returnStatement),
         (5, .elseCondition), (6, .elseBody), (7, .returnStatement)] ∧
      ∀ x ∈ b.blocks, ¬ promptReturns.Crowded x.endLine := ⟨_, rfl, by decide, by decide⟩
  obtain ⟨b, hb, hblocks, hfree⟩ := hbuild
  exact ⟨b, hb, hblocks, hfree,
    fun x hx hkind => edges_eq_nil_of_return hb hx hkind (hfree x hx)⟩

/-- A function with an if and its return on one line. -/
def oneLineIf : Node :=
  .mk { label := .other "source_file" } [
    .mk { label := .functionDeclaration, span := { startRow := 2, endRow := 5 } } [
      .mk { label := .block, span := { startRow := 2, endRow := 5 }, field := some .body } [
        .mk { label := .ifStatement, span := { startRow := 3, endRow := 3 } } [
          .mk { label := .block, span := { startRow := 3, endRow := 3 },
                field := some .consequence } [
            .mk { label := .returnStatement, span := { startRow := 3, endRow := 3 } } []]],
        .mk { label := .returnStatement, span := { startRow := 4, endRow := 4 } } []]]]

/-- The false path of the if starts on the line that the return has taken over, and leads to the
return: the return is left with an edge to itself. -/
theorem edges_oneLineIf :
    oneLineIf.hasFault = false ∧
      ∃ b, build (fun _ => (.ok "" : Except Empty String)) oneLineIf {} = .ok b ∧
        ∃ x ∈ b.blocks, x.kind = .returnStatement ∧ x.endLine = 4 ∧ x.edges = [⟨4, .line 4⟩] :=
  ⟨rfl, _, rfl, by decide⟩

end GoFlow
