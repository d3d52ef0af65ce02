import GoFlow.Proofs.Visits

/-!
# Anchored walks

The back-references of a scope are lines that were registered before. While that holds, every edge
that a construct adds joins registered lines.

- `Walk.Anchored`: the invariant. Each part of a construct keeps it and makes changes that the graph
  admits (`enterLoop_admitted` and its like).
- `Visits.admitted`: so does every visit.
- `Visits.plain`: a visit registers constructs only, neither markers nor blocks of unknown kind.
-/

namespace GoFlow

namespace Graph

/-- No change takes a line out of the graph. -/
theorem contains_replay_of {g : Graph} {l : Int} (h : g.contains l) (cs : List Change) :
    (g.replay cs).contains l := (contains_replay cs l g).2 (.inl h)

/-- A line that the changes register is in the graph after them. -/
theorem contains_replay_of_mem {l : Int} {cs : List Change} (h : l ∈ registeredBy cs) (g : Graph) :
    (g.replay cs).contains l := (contains_replay cs l g).2 (.inr h)

/-- Edges between lines that are there may be added in any number. -/
theorem admitsAll_links {cs : List Change} :
    ∀ {g : Graph}, (∀ c ∈ cs, ∃ s t, c = .link s t ∧ g.contains s ∧ g.contains t) →
      g.AdmitsAll cs := by
  induction cs with
  | nil => intros; trivial
  | cons c cs ih =>
    intro g h
    obtain ⟨s, t, rfl, hs, ht⟩ := h _ List.mem_cons_self
    refine ⟨⟨hs, ht⟩, ih fun d hd => ?_⟩
    obtain ⟨s', t', rfl, hs', ht'⟩ := h d (List.mem_cons_of_mem _ hd)
    exact ⟨s', t', rfl, by simpa [apply] using hs', by simpa [apply] using ht'⟩

/-- The same for edges that join lines that are there and one line registered before them. -/
theorem admitsAll_register {g : Graph} {line : Int} {kind : BlockKind} {owner : String}
    {cs : List Change} (hkind : kind.isMarker = false)
    (h : ∀ c ∈ cs, ∃ s t, c = .link s t ∧ (s = line ∨ g.contains s) ∧ (t = line ∨ g.contains t)) :
    g.AdmitsAll (.register line kind owner :: cs) := by
  refine ⟨hkind, admitsAll_links fun c hc => ?_⟩
  obtain ⟨s, t, rfl, hs, ht⟩ := h c hc
  exact ⟨s, t, rfl, (contains_register ..).2 hs, (contains_register ..).2 ht⟩

/-- Returns may be registered in any number. -/
theorem admitsAll_returns (function : String) (ls : List Int) :
    ∀ g : Graph, g.AdmitsAll (ls.map (.register · .returnStatement function)) := by
  induction ls with
  | nil => intro g; trivial
  | cons l ls ih => exact fun g => ⟨rfl, ih _⟩

end Graph

namespace Walk

/-- The lines that the scope refers back to are registered. -/
structure Anchored (w : Walk) : Prop where
  returnTarget : ∀ l ∈ w.scope.returnTarget, w.graph.contains l
  loopHeader : ∀ l ∈ w.scope.loopHeader, w.graph.contains l
  switchHeader : ∀ l ∈ w.scope.switchHeader, w.graph.contains l

/-- Changes to the graph keep a walk anchored if the scope refers to nothing but lines it referred
to before and lines that the changes register. -/
theorem Anchored.of_replay {w w' : Walk} (hw : w.Anchored) {cs : List Change}
    (hgraph : w'.graph = w.graph.replay cs)
    (hreturn : ∀ l ∈ w'.scope.returnTarget, l ∈ w.scope.returnTarget ∨ l ∈ registeredBy cs)
    (hloop : ∀ l ∈ w'.scope.loopHeader, l ∈ w.scope.loopHeader ∨ l ∈ registeredBy cs)
    (hswitch : ∀ l ∈ w'.scope.switchHeader, l ∈ w.scope.switchHeader ∨ l ∈ registeredBy cs) :
    w'.Anchored := by
  have hkeep : ∀ {l} {o : Option Int}, (∀ l ∈ o, w.graph.contains l) →
      l ∈ o ∨ l ∈ registeredBy cs → w'.graph.contains l := by
    intro l o ho h
    rw [hgraph, Graph.contains_replay]
    exact h.imp_left (ho l)
  exact ⟨fun l hl => hkeep hw.returnTarget (hreturn l hl),
    fun l hl => hkeep hw.loopHeader (hloop l hl), fun l hl => hkeep hw.switchHeader (hswitch l hl)⟩

/-- A scope without references is anchored in any graph. -/
theorem anchored_start (g : Graph) : ({ graph := g } : Walk).Anchored :=
  ⟨by simp, by simp, by simp⟩

variable {w : Walk}

/-- The return target of a declaration is registered before its body is walked. -/
theorem mem_foreseeChanges (function : String) (returns : List Int) (last : Int) :
    returns.getLast?.getD last ∈ registeredBy (foreseeChanges function returns last) := by
  cases returns with
  | nil => simp [foreseeChanges]
  | cons r rs =>
    rw [List.getLast?_eq_some_getLast (List.cons_ne_nil r rs), Option.getD_some, mem_registeredBy]
    exact ⟨_, _, List.mem_map.2 ⟨_, List.getLast_mem (List.cons_ne_nil r rs), rfl⟩⟩

/-- Returns are registered without conditions. -/
theorem foresee_admitted (function : String) (returns : List Int) (last : Int) (g : Graph) :
    g.AdmitsAll (foreseeChanges function returns last) := by
  unfold foreseeChanges
  split
  · exact ⟨rfl, trivial⟩
  · exact Graph.admitsAll_returns function returns g

/-- So is the last line. -/
theorem closeOn_admitted (function : String) (returns : List Int) (last : Int) (g : Graph) :
    g.AdmitsAll (closeChanges function returns last) := by
  unfold closeChanges
  split
  · exact ⟨rfl, trivial⟩
  · trivial

/-- The body of a function refers back to the return that was foreseen last. -/
theorem anchored_foresee (w : Walk) (name : String) (first last : Int) (returns : List Int) :
    ((w.enterFunction name first (some last)).foresee returns last).Anchored := by
  constructor
  · intro l hl
    rw [scope_foresee] at hl
    obtain rfl : returns.getLast?.getD last = l := by simpa using hl
    rw [graph_foresee]
    exact Graph.contains_replay_of_mem (mem_foreseeChanges _ _ _) _
  · intro l hl
    rw [scope_foresee] at hl
    cases hl
  · intro l hl
    rw [scope_foresee] at hl
    cases hl

/-- **A return** is linked from the clause it stands in, whose block is registered. -/
theorem enterReturn_admitted (hw : w.Anchored) (line : Int) :
    w.graph.AdmitsAll (returnChanges w.scope line) ∧ (w.enterReturn line).Anchored := by
  refine ⟨Graph.admitsAll_register rfl fun c hc => ?_,
    hw.of_replay (graph_enterReturn w line) ?_ ?_ ?_⟩
  · obtain ⟨m, hm, rfl⟩ := mem_linksFrom.1 hc
    exact ⟨m, line, rfl, .inr (hw.switchHeader m hm), .inl rfl⟩
  · simp [returnChanges]
  · exact fun l hl => .inl (by simpa using hl)
  · exact fun l hl => .inl (by simpa using hl)

/-- **An if** links blocks that it has just registered. -/
theorem enterCond_admitted (hw : w.Anchored) (line elseLine elseEnd : Int) :
    w.graph.AdmitsAll (condChanges w.scope line elseLine elseEnd) ∧
      (w.enterCond line elseLine elseEnd).Anchored := by
  refine ⟨⟨rfl, rfl, rfl, ⟨?_, ?_⟩, trivial⟩,
    hw.of_replay (graph_enterCond w line elseLine elseEnd) (fun _ => .inl) (fun _ => .inl)
      (fun _ => .inl)⟩
  · simp [Graph.apply, Graph.contains_register]
  · simp [Graph.apply, Graph.contains_register]

/-- **A false path** leads from blocks of the if to the return target. -/
theorem leaveCond_admitted (hw : w.Anchored) {elseLine elseEnd : Int}
    (hline : w.graph.contains elseLine) (hend : w.graph.contains elseEnd) :
    w.graph.AdmitsAll (falsePathChanges w.scope elseLine elseEnd) ∧
      (w.leaveCond elseLine elseEnd).Anchored := by
  refine ⟨Graph.admitsAll_links fun c hc => ?_,
    hw.of_replay (graph_leaveCond w elseLine elseEnd) ?_ ?_ ?_⟩
  · rcases List.mem_append.1 hc with hc | hc
    · obtain ⟨m, hm, rfl⟩ := mem_linksTo.1 hc
      exact ⟨_, m, rfl, hline, hw.returnTarget m hm⟩
    · obtain ⟨m, hm, rfl⟩ := mem_linksTo.1 hc
      exact ⟨_, m, rfl, hend, hw.returnTarget m hm⟩
  all_goals exact fun l hl => .inl (by simpa using hl)

/-- **A loop** becomes return target and header at once, and is registered by then. -/
theorem enterLoop_admitted (hw : w.Anchored) (line : Int) :
    w.graph.AdmitsAll (loopChanges w.scope line) ∧ (w.enterLoop line).Anchored := by
  refine ⟨Graph.admitsAll_register rfl fun c hc => ?_,
    hw.of_replay (graph_enterLoop w line) ?_ ?_ ?_⟩
  · obtain ⟨m, hm, rfl⟩ := mem_linksTo.1 hc
    exact ⟨line, m, rfl, .inl rfl, .inr (hw.returnTarget m hm)⟩
  · simp [loopChanges]
  · simp [loopChanges]
  · exact fun l hl => .inl (by simpa using hl)

/-- The edge back is admitted, as the block registered last is there. -/
theorem leaveLoop_admitted {g : Graph} {cs : List Change} {first : Int}
    (hw : w.graph = g.replay cs) (hfirst : first ∈ registeredBy cs) (last : Int) :
    w.graph.AdmitsAll (w.loopEndChanges first last) := by
  rw [loopEndChanges, Graph.admitsAll_append]
  constructor
  · unfold loopBodyChanges
    split
    · exact ⟨rfl, trivial⟩
    · trivial
  · rw [hw, ← Graph.replay_append]
    generalize w.loopBodyChanges first last = body
    have hfirst' : first ∈ registeredBy (cs ++ body) := by simp [hfirst]
    obtain ⟨m, hm, hnewest⟩ := Graph.newest_replay_mem (g := g) hfirst'
    unfold backEdgeChanges
    rw [hnewest, Option.getD_some]
    split
    · trivial
    · exact ⟨⟨Graph.contains_replay_of_mem hm g, Graph.contains_replay_of_mem hfirst' g⟩, trivial⟩

/-- **A switch or select** is linked with the loop around it. -/
theorem enterChoice_admitted (hw : w.Anchored) (form : Choice) (line : Int) :
    w.graph.AdmitsAll (choiceChanges w.scope form line) ∧ (w.enterChoice form line).Anchored := by
  refine ⟨Graph.admitsAll_register (by cases form <;> rfl) fun c hc => ?_,
    hw.of_replay (graph_enterChoice w form line) ?_ ?_ ?_⟩
  · rw [List.append_assoc, List.mem_append, List.mem_append] at hc
    rcases hc with hc | hc | hc
    · obtain ⟨m, hm, rfl⟩ := mem_linksFrom.1 hc
      exact ⟨m, line, rfl, .inr (hw.loopHeader m hm), .inl rfl⟩
    · obtain ⟨m, hm, rfl⟩ := mem_linksTo.1 hc
      exact ⟨line, m, rfl, .inl rfl, .inr (hw.loopHeader m hm)⟩
    · split at hc
      · obtain ⟨m, hm, rfl⟩ := mem_linksTo.1 hc
        exact ⟨line, m, rfl, .inl rfl, .inr (hw.returnTarget m hm)⟩
      · cases hc
  · exact fun l hl => .inl (by simpa using hl)
  · exact fun l hl => .inl (by simpa using hl)
  · simp [choiceChanges]

/-- **A clause** is linked with its switch, the loop and the return target. -/
theorem enterClause_admitted (hw : w.Anchored) (line : Int) {kind : BlockKind}
    (hkind : kind.isMarker = false) :
    w.graph.AdmitsAll (clauseChanges w.scope line kind) ∧ (w.enterClause line kind).Anchored := by
  refine ⟨Graph.admitsAll_register hkind fun c hc => ?_,
    hw.of_replay (graph_enterClause w line kind) ?_ ?_ ?_⟩
  · rw [List.append_assoc, List.mem_append, List.mem_append] at hc
    rcases hc with hc | hc | hc
    · obtain ⟨m, hm, rfl⟩ := mem_linksTo.1 hc
      exact ⟨line, m, rfl, .inl rfl, .inr (hw.loopHeader m hm)⟩
    · obtain ⟨m, hm, rfl⟩ := mem_linksFrom.1 hc
      exact ⟨m, line, rfl, .inr (hw.switchHeader m hm), .inl rfl⟩
    · obtain ⟨m, hm, rfl⟩ := mem_linksTo.1 hc
      exact ⟨line, m, rfl, .inl rfl, .inr (hw.returnTarget m hm)⟩
  all_goals exact fun l hl => .inl (by simpa using hl)

/-- **The end of a clause** leads to the return target in front of the clause. -/
theorem leaveClause_admitted {line : Int} (hline : w.graph.contains line) {outer : Scope}
    (houter : ∀ l ∈ outer.returnTarget, w.graph.contains l) :
    w.graph.AdmitsAll (w.clauseEndChanges line outer) := by
  unfold clauseEndChanges
  split
  · trivial
  · split
    · trivial
    · refine Graph.admitsAll_links fun c hc => ?_
      obtain ⟨m, hm, rfl⟩ := mem_linksTo.1 hc
      exact ⟨line, m, rfl, hline, houter m hm⟩

end Walk

/-! ## Kinds that constructs have -/

/-- Whether the kind stands for a construct: it is neither a marker nor unknown. -/
def BlockKind.isPlain : BlockKind → Bool
  | .start | .exit | .unknown => false
  | _ => true

/-- The kinds of constructs are no markers. -/
theorem BlockKind.isMarker_of_isPlain {kind : BlockKind} (h : kind.isPlain) :
    kind.isMarker = false := by
  cases kind <;> first | rfl | cases h

/-- Whether the change registers constructs only. -/
def Change.isPlain : Change → Bool
  | .register _ kind _ => kind.isPlain
  | .link _ _ => true

/-- A statement lends its clause one of two kinds. -/
theorem lentKind?_isPlain {n : Node} {kind : BlockKind} (h : Outline.lentKind? n = some kind) :
    kind = .returnStatement ∨ kind = .switchStatement := by
  unfold Outline.lentKind? at h
  split at h
  · exact .inl (Option.some.inj h).symm
  · exact .inr (Option.some.inj h).symm
  · cases h

/-- The block of a clause is that of one of its statements, or a block of its own. -/
theorem clauseEntry_cases (form : Choice) (k : Node) :
    (∃ s ∈ k.clauseBody, Outline.lentKind? s = some (Outline.clauseEntry form k).2 ∧
      (Outline.clauseEntry form k).1 = s.startLine) ∨
    Outline.clauseEntry form k = ((k.clauseBody.getLast?.getD k).endLine, form.clauseKind) := by
  unfold Outline.clauseEntry
  split
  · rename_i entry hfind
    obtain ⟨s, hs, hentry⟩ := List.exists_of_findSome?_eq_some hfind
    obtain ⟨kind, hkind, rfl⟩ := Option.map_eq_some_iff.1 hentry
    exact .inl ⟨s, hs, hkind, rfl⟩
  · exact .inr rfl

/-- Whichever statement stands for a clause, its block is one of a construct. -/
theorem clauseEntry_isPlain (form : Choice) (k : Node) :
    (Outline.clauseEntry form k).2.isPlain := by
  rcases clauseEntry_cases form k with ⟨s, -, hkind, -⟩ | h
  · rcases lentKind?_isPlain hkind with h | h <;> rw [h] <;> rfl
  · rw [h]
    cases form <;> rfl

/-- From the walk `w` on, if it is anchored, the changes are admitted and lead to an anchored
walk. -/
def Walk.Admitted (w : Walk) (cs : List Change) (w' : Walk) : Prop :=
  w.Anchored → w.graph.AdmitsAll cs ∧ w'.Anchored

namespace Visits

variable {ε : Type} {decode : List UInt8 → Except ε String}
variable {v : Visit} {w w' : Walk} {cs : List Change}

/-- A visit takes no line out of the graph. -/
theorem contains_of (h : Visits decode v w cs w') {l : Int} (hl : w.graph.contains l) :
    w'.graph.contains l := by
  rw [h.graph_eq]
  exact Graph.contains_replay_of hl cs

/-- Putting the return target back keeps a walk anchored. -/
theorem anchored_aimAt (h : Visits decode v w cs w') (hw : w.Anchored) :
    (w'.aimAt w.scope.returnTarget).Anchored := by
  refine hw.of_replay h.graph_eq ?_ ?_ ?_
  all_goals
    rw [h.scope_aimAt]
    exact fun _ => .inl

/-- The false path of an if is there to be linked when the walk leaves the consequence. -/
theorem leaveCond_admitted {line elseLine elseEnd : Int}
    (h : Visits decode v (w.enterCond line elseLine elseEnd) cs w') (hw' : w'.Anchored) :
    w'.graph.AdmitsAll (Walk.falsePathChanges w'.scope elseLine elseEnd) ∧
      (w'.leaveCond elseLine elseEnd).Anchored := by
  have hblocks : ∀ l ∈ [elseLine, elseEnd], w'.graph.contains l := by
    intro l hl
    refine h.contains_of ?_
    rw [Walk.graph_enterCond]
    refine Graph.contains_replay_of_mem ?_ _
    simp only [List.mem_cons, List.not_mem_nil, or_false] at hl
    rcases hl with rfl | rfl <;> simp [Walk.condChanges]
  exact Walk.leaveCond_admitted hw' (hblocks elseLine (by simp)) (hblocks elseEnd (by simp))

/-- So is the block of a clause when the walk leaves the clause. -/
theorem leaveClause_admitted {line : Int} {kind : BlockKind}
    (h : Visits decode v (w.enterClause line kind) cs w') (hw : w.Anchored) (hw' : w'.Anchored) :
    w'.graph.AdmitsAll (w'.clauseEndChanges line w.scope) ∧
      (w'.leaveClause line w.scope).Anchored := by
  have hkeep : ∀ {l}, w.graph.contains l → w'.graph.contains l := fun hl => h.contains_of (by
    rw [Walk.graph_enterClause]
    exact Graph.contains_replay_of hl _)
  have hline : w'.graph.contains line := h.contains_of (by
    rw [Walk.graph_enterClause]
    exact Graph.contains_replay_of_mem (by simp [Walk.clauseChanges]) _)
  refine ⟨Walk.leaveClause_admitted hline fun l hl => hkeep (hw.returnTarget l hl), ?_⟩
  constructor
  all_goals
    intro l hl
    rw [Walk.graph_leaveClause]
    rw [Walk.scope_leaveClause] at hl
    refine Graph.contains_replay_of ?_ _
  · exact hkeep (hw.returnTarget l hl)
  · exact hw'.loopHeader l hl
  · exact hkeep (hw.switchHeader l hl)

/-- **An if**: each list of changes is admitted on top of the lists before it. -/
theorem admitted_cond {n : Node} {w₁ w₂ w₃ : Walk} {cs ds es : List Change}
    (consequence : Visits decode (.nodes (n.statementsUnder .consequence))
      (w.enterCond n.startLine (Outline.falsePath n).1 (w.scope.elseEnd n)) cs w₁)
    (header : Visits decode (.nodes (n.namedUnder .initializer ++ n.namedUnder .condition))
      (w₁.leaveCond (Outline.falsePath n).1 (w.scope.elseEnd n)) ds w₂)
    (ih₁ : (w.enterCond n.startLine (Outline.falsePath n).1 (w.scope.elseEnd n)).Admitted cs w₁)
    (ih₂ : (w₁.leaveCond (Outline.falsePath n).1 (w.scope.elseEnd n)).Admitted ds w₂)
    (ih₃ : w₂.Admitted es w₃) :
    w.Admitted (Walk.condChanges w.scope n.startLine (Outline.falsePath n).1 (w.scope.elseEnd n)
      ++ (cs ++ (Walk.falsePathChanges w₁.scope (Outline.falsePath n).1 (w.scope.elseEnd n)
        ++ (ds ++ es)))) w₃ := by
  intro hw
  obtain ⟨henter, hw₀⟩ := Walk.enterCond_admitted hw n.startLine (Outline.falsePath n).1
    (w.scope.elseEnd n)
  obtain ⟨hcs, hw₁⟩ := ih₁ hw₀
  obtain ⟨hleave, hw₁'⟩ := consequence.leaveCond_admitted hw₁
  obtain ⟨hds, hw₂⟩ := ih₂ hw₁'
  obtain ⟨hes, hw₃⟩ := ih₃ hw₂
  rw [header.graph_eq, Walk.graph_leaveCond, consequence.graph_eq, Walk.graph_enterCond] at hes
  rw [Walk.graph_leaveCond, consequence.graph_eq, Walk.graph_enterCond] at hds
  rw [consequence.graph_eq, Walk.graph_enterCond] at hleave
  rw [Walk.graph_enterCond] at hcs
  simp only [Graph.admitsAll_append]
  exact ⟨⟨henter, hcs, hleave, hds, hes⟩, hw₃⟩

/-- **A loop**: the block registered last, from which the edge back starts, is at least as recent as
the header of the loop. -/
theorem admitted_loop {n : Node} {w₁ w₂ : Walk} {cs ds : List Change}
    (label : n.label = .forStatement) (header : Visits decode (.nodes n.headerParts) w cs w₁)
    (body : Visits decode (.nodes (n.statementsUnder .body))
      ((w₁.aimAt w.scope.returnTarget).enterLoop n.startLine) ds w₂)
    (ih₁ : w.Admitted cs w₁)
    (ih₂ : ((w₁.aimAt w.scope.returnTarget).enterLoop n.startLine).Admitted ds w₂) :
    w.Admitted (cs ++ (Walk.loopChanges w.scope n.startLine
      ++ (ds ++ w₂.loopEndChanges n.startLine n.endLine)))
      (w₂.leaveLoop n.startLine n.endLine w.scope) := by
  intro hw
  have hgraph := (Visits.loop label header body).graph_eq
  obtain ⟨hcs, hw₁⟩ := ih₁ hw
  obtain ⟨henter, hw₁'⟩ := Walk.enterLoop_admitted (header.anchored_aimAt hw) n.startLine
  obtain ⟨hds, hw₂⟩ := ih₂ hw₁'
  rw [header.scope_aimAt, Walk.graph_aimAt] at henter
  have hbody : w₂.graph = w₁.graph.replay (Walk.loopChanges w.scope n.startLine ++ ds) := by
    rw [body.graph_eq, header.graph_enterLoop, Graph.replay_append]
  have hfirst : n.startLine ∈ registeredBy (Walk.loopChanges w.scope n.startLine ++ ds) := by
    simp [Walk.loopChanges]
  have hleave := Walk.leaveLoop_admitted hbody hfirst n.endLine
  constructor
  · simp only [Graph.admitsAll_append]
    rw [Graph.replay_append] at hbody
    rw [header.graph_enterLoop] at hds
    rw [← header.graph_eq]
    exact ⟨hcs, henter, hds, hbody ▸ hleave⟩
  · refine hw.of_replay hgraph ?_ ?_ ?_
    all_goals
      rw [header.scope_afterLoop body]
      exact fun _ => .inl

/-- **A switch or select** gives the one around it back, whose line is still registered. -/
theorem admitted_choice {n : Node} {form : Choice} {w₁ w₂ : Walk} {cs ds : List Change}
    (header : Visits decode (.nodes n.headerParts) w cs w₁)
    (parts : Visits decode (.clauses form n.clauses)
      ((w₁.aimAt w.scope.returnTarget).enterChoice form n.startLine) ds w₂)
    (ih₁ : w.Admitted cs w₁)
    (ih₂ : ((w₁.aimAt w.scope.returnTarget).enterChoice form n.startLine).Admitted ds w₂) :
    w.Admitted (cs ++ (Walk.choiceChanges w.scope form n.startLine ++ ds))
      { w₂ with scope := { w₂.scope with switchHeader := w.scope.switchHeader } } := by
  intro hw
  obtain ⟨hcs, hw₁⟩ := ih₁ hw
  obtain ⟨henter, hw₁'⟩ := Walk.enterChoice_admitted (header.anchored_aimAt hw) form n.startLine
  obtain ⟨hds, hw₂⟩ := ih₂ hw₁'
  rw [header.scope_aimAt, Walk.graph_aimAt] at henter
  rw [header.graph_enterChoice] at hds
  constructor
  · simp only [Graph.admitsAll_append]
    rw [← header.graph_eq]
    exact ⟨hcs, henter, hds⟩
  · refine ⟨hw₂.returnTarget, hw₂.loopHeader, fun l hl => ?_⟩
    exact parts.contains_of (by
      rw [header.graph_enterChoice]
      exact Graph.contains_replay_of (header.contains_of (hw.switchHeader l hl)) _)

/-- **A clause** is left with its own block, and the walk goes on with the clauses behind it. -/
theorem admitted_clause {form : Choice} {k : Node} {w₁ w₂ : Walk} {cs ds : List Change}
    (body : Visits decode (.nodes k.clauseBody)
      (w.enterClause (Outline.clauseEntry form k).1 (Outline.clauseEntry form k).2) cs w₁)
    (ih₁ : (w.enterClause (Outline.clauseEntry form k).1
      (Outline.clauseEntry form k).2).Admitted cs w₁)
    (ih₂ : (w₁.leaveClause (Outline.clauseEntry form k).1 w.scope).Admitted ds w₂) :
    w.Admitted (Walk.clauseChanges w.scope (Outline.clauseEntry form k).1
      (Outline.clauseEntry form k).2
        ++ (cs ++ (w₁.clauseEndChanges (Outline.clauseEntry form k).1 w.scope ++ ds))) w₂ := by
  intro hw
  obtain ⟨henter, hw₀⟩ := Walk.enterClause_admitted hw (Outline.clauseEntry form k).1
    (BlockKind.isMarker_of_isPlain (clauseEntry_isPlain form k))
  obtain ⟨hcs, hw₁⟩ := ih₁ hw₀
  obtain ⟨hleave, hw₁'⟩ := body.leaveClause_admitted hw hw₁
  obtain ⟨hds, hw₂⟩ := ih₂ hw₁'
  rw [Walk.graph_leaveClause, body.graph_eq, Walk.graph_enterClause] at hds
  rw [body.graph_eq, Walk.graph_enterClause] at hleave
  rw [Walk.graph_enterClause] at hcs
  simp only [Graph.admitsAll_append]
  exact ⟨⟨henter, hcs, hleave, hds⟩, hw₂⟩

/-- **Edges join registered lines**: from an anchored walk, a visit makes changes that the graph
admits and stays anchored. -/
theorem admitted (h : Visits decode v w cs w') (hw : w.Anchored) :
    w.graph.AdmitsAll cs ∧ w'.Anchored := by
  induction h with
  | other _ _ ih => exact ih hw
  | @prototype n w name label hbody named =>
    have hgraph := (Visits.prototype label hbody named (w := w)).graph_eq
    exact ⟨⟨rfl, trivial⟩, hw.of_replay hgraph (fun _ => .inl) (fun _ => .inl) (fun _ => .inl)⟩
  | @function n w body name cs w' label hbody named inside ih =>
    -- the scope of the body is dropped, and the one that comes back was anchored before
    obtain ⟨hcs, -⟩ := ih (Walk.anchored_foresee w name n.startLine n.endLine _)
    have hgraph := (Visits.function label hbody named inside).graph_eq
    refine ⟨⟨rfl, ?_⟩, hw.of_replay hgraph (fun _ => .inl) (fun _ => .inl) (fun _ => .inl)⟩
    rw [Graph.admitsAll_append, Graph.admitsAll_append]
    refine ⟨Walk.foresee_admitted _ _ _ _, ?_, Walk.closeOn_admitted _ _ _ _⟩
    rw [Walk.graph_foresee_enterFunction] at hcs
    exact hcs
  | ret _ _ ih =>
    obtain ⟨hret, hw₁⟩ := Walk.enterReturn_admitted hw _
    obtain ⟨hcs, hw'⟩ := ih hw₁
    rw [Walk.graph_enterReturn] at hcs
    exact ⟨(Graph.admitsAll_append _ _ _).2 ⟨hret, hcs⟩, hw'⟩
  | @spawn n w _ _ _ _ ih =>
    have hgraph : (w.add n.startLine .goStatement).graph
        = w.graph.replay [.register n.startLine .goStatement w.scope.function] := rfl
    have hw₁ := hw.of_replay hgraph (fun _ => .inl) (fun _ => .inl) (fun _ => .inl)
    obtain ⟨hcs, hw'⟩ := ih hw₁
    exact ⟨⟨rfl, hcs⟩, hw'⟩
  | cond _ consequence header _ ih₁ ih₂ ih₃ =>
    exact admitted_cond consequence header ih₁ ih₂ ih₃ hw
  | loop label header body ih₁ ih₂ => exact admitted_loop label header body ih₁ ih₂ hw
  | choice _ header parts ih₁ ih₂ => exact admitted_choice header parts ih₁ ih₂ hw
  | nil => exact ⟨trivial, hw⟩
  | cons first _ ih₁ ih₂ =>
    obtain ⟨hcs, hw₁⟩ := ih₁ hw
    obtain ⟨hds, hw₂⟩ := ih₂ hw₁
    rw [first.graph_eq] at hds
    exact ⟨(Graph.admitsAll_append _ _ _).2 ⟨hcs, hds⟩, hw₂⟩
  | noClause => exact ⟨trivial, hw⟩
  | clause body _ ih₁ ih₂ => exact admitted_clause body ih₁ ih₂ hw

/-- A visit registers constructs only. -/
theorem plain (h : Visits decode v w cs w') : ∀ c ∈ cs, c.isPlain := by
  have hto : ∀ {s t}, ∀ c ∈ linksTo s t, c.isPlain := by
    intro s t c hc
    obtain ⟨m, -, rfl⟩ := mem_linksTo.1 hc
    rfl
  have hfrom : ∀ {s t}, ∀ c ∈ linksFrom s t, c.isPlain := by
    intro s t c hc
    obtain ⟨m, -, rfl⟩ := mem_linksFrom.1 hc
    rfl
  induction h with
  | other _ _ ih => exact ih
  | prototype => simp [Change.isPlain, BlockKind.isPlain]
  | function _ _ _ _ ih =>
    simp only [List.forall_mem_cons, List.forall_mem_append]
    refine ⟨rfl, ?_, ih, ?_⟩
    · unfold Walk.foreseeChanges
      split <;> simp [Change.isPlain, BlockKind.isPlain]
    · unfold Walk.closeChanges
      split <;> simp [Change.isPlain, BlockKind.isPlain]
  | ret _ _ ih =>
    simp only [Walk.returnChanges, List.forall_mem_cons, List.forall_mem_append]
    exact ⟨⟨rfl, hfrom⟩, ih⟩
  | spawn _ _ ih =>
    simp only [List.forall_mem_cons]
    exact ⟨rfl, ih⟩
  | cond _ _ _ _ ih₁ ih₂ ih₃ =>
    simp only [Walk.falsePathChanges, List.forall_mem_append]
    exact ⟨by simp [Walk.condChanges, Change.isPlain, BlockKind.isPlain], ih₁, ⟨hto, hto⟩, ih₂, ih₃⟩
  | loop _ _ _ ih₁ ih₂ =>
    simp only [Walk.loopChanges, Walk.loopEndChanges, List.forall_mem_cons, List.forall_mem_append]
    refine ⟨ih₁, ⟨rfl, hto⟩, ih₂, ?_, ?_⟩
    · unfold Walk.loopBodyChanges
      split <;> simp [Change.isPlain, BlockKind.isPlain]
    · unfold Walk.backEdgeChanges
      split <;> simp [Change.isPlain]
  | @choice _ form _ _ _ _ _ _ _ _ ih₁ ih₂ =>
    simp only [Walk.choiceChanges, List.forall_mem_cons, List.forall_mem_append]
    refine ⟨ih₁, ⟨by cases form <;> rfl, ⟨hfrom, hto⟩, ?_⟩, ih₂⟩
    split
    · exact hto
    · simp
  | nil => simp
  | cons _ _ ih₁ ih₂ => exact List.forall_mem_append.2 ⟨ih₁, ih₂⟩
  | noClause => simp
  | clause _ _ ih₁ ih₂ =>
    simp only [Walk.clauseChanges, List.forall_mem_cons, List.forall_mem_append]
    refine ⟨⟨clauseEntry_isPlain _ _, ⟨hto, hfrom⟩, hto⟩, ih₁, ?_, ih₂⟩
    unfold Walk.clauseEndChanges
    split
    · simp
    · split
      · simp
      · exact hto

end Visits

end GoFlow
