import GoFlow.Proofs.Anchored
import GoFlow.Proofs.Descent

/-!
# Confinement to the lines of a node

Where the rows of a tree are nested, a walk stays within the lines of the node it visits. The one
way out is the false path of an if outside functions, which may end one line below.

- `Node.nested`: every node spans rows in ascending order, within the rows of its parent.
- `Confined`: changes that alter blocks on lines between two bounds only.
- `Visits.confined`: visits to nodes between the bounds are confined.
- `Visits.confined_function`: a declaration is confined to its own lines.
- `Visits.confined_row`: outside functions, each change belongs to some node of the row.
-/

namespace GoFlow

namespace Node

mutual

/-- Whether every node below, and the node itself, spans rows in ascending order within the rows of
its parent. -/
def nested : Node → Bool
  | .mk head kids => decide (head.span.startRow ≤ head.span.endRow) && nestedIn head.span kids

/-- Whether the nodes of a row lie within the rows of a span, and are nested. -/
def nestedIn (outer : Span) : List Node → Bool
  | [] => true
  | n :: rest => decide (outer.startRow ≤ n.span.startRow) && decide (n.span.endRow ≤ outer.endRow)
      && n.nested && nestedIn outer rest

end

theorem nestedIn_iff {outer : Span} {ns : List Node} :
    nestedIn outer ns ↔ ∀ n ∈ ns, outer.startRow ≤ n.span.startRow ∧ n.span.endRow ≤ outer.endRow ∧
      n.nested := by
  induction ns with
  | nil => simp [nestedIn]
  | cons n rest ih =>
    rw [nestedIn, List.forall_mem_cons, ← ih]
    simp only [Bool.and_eq_true, decide_eq_true_eq, and_assoc]

/-- A nested node that lies between two lines. -/
structure Between (lo hi : Int) (n : Node) : Prop where
  nested : n.nested
  start : lo ≤ n.startLine
  stop : n.endLine ≤ hi

/-- A nested node does not end before it starts. -/
theorem startLine_le_endLine {n : Node} (h : n.nested) : n.startLine ≤ n.endLine := by
  obtain ⟨head, kids⟩ := n
  rw [Node.nested, Bool.and_eq_true, decide_eq_true_eq] at h
  have hrows := h.1
  show (head.span.startRow : Int) + 1 ≤ head.span.endRow + 1
  omega

/-- A nested node lies between its own lines. -/
theorem between_self {n : Node} (h : n.nested) : n.Between n.startLine n.endLine :=
  ⟨h, Int.le_refl _, Int.le_refl _⟩

namespace Between

variable {lo hi : Int} {n c s : Node}

/-- Both ends of the node lie between the lines. -/
theorem lines (h : n.Between lo hi) :
    (lo ≤ n.startLine ∧ n.startLine ≤ hi) ∧ lo ≤ n.endLine ∧ n.endLine ≤ hi := by
  have hle := startLine_le_endLine h.nested
  have hstart := h.start
  have hstop := h.stop
  omega

/-- What lies below a node lies within the same bounds. -/
theorem child (h : n.Between lo hi) (hc : c ∈ n.children) : c.Between lo hi := by
  obtain ⟨head, kids⟩ := n
  have hnested := h.nested
  rw [Node.nested, Bool.and_eq_true] at hnested
  obtain ⟨hfirst, hlast, hc'⟩ := nestedIn_iff.1 hnested.2 c hc
  have hstart : lo ≤ (head.span.startRow : Int) + 1 := h.start
  have hstop : (head.span.endRow : Int) + 1 ≤ hi := h.stop
  refine ⟨hc', ?_, ?_⟩
  · show lo ≤ (c.span.startRow : Int) + 1
    omega
  · show (c.span.endRow : Int) + 1 ≤ hi
    omega

/-- Lying within bounds goes all the way down. -/
theorem hereditary (lo hi : Int) : Hereditary (Between lo hi) := fun _ h _ hc => h.child hc

/-- The block of a clause lies between the lines that the clause does. -/
theorem clauseEntry (h : n.Between lo hi) (form : Choice) :
    lo ≤ (Outline.clauseEntry form n).1 ∧ (Outline.clauseEntry form n).1 ≤ hi := by
  rcases clauseEntry_cases form n with ⟨s, hs, -, hline⟩ | hentry
  · rw [hline]
    exact ((hereditary lo hi).listed h (mem_clauseBody hs)).lines.1
  · rw [hentry]
    cases hlast : n.clauseBody.getLast? with
    | none => exact h.lines.2
    | some s =>
      exact ((hereditary lo hi).listed h (mem_clauseBody (List.mem_of_getLast? hlast))).lines.2

/-- The false path of an if starts between the lines. -/
theorem falsePath (h : n.Between lo hi) :
    lo ≤ (Outline.falsePath n).1 ∧ (Outline.falsePath n).1 ≤ hi := by
  unfold Outline.falsePath
  split
  · rename_i a ha
    exact (h.child (child?_mem ha)).lines.1
  · cases hc : n.child? .consequence with
    | none => exact h.lines.2
    | some c => exact (h.child (child?_mem hc)).lines.2

end Between

end Node

/-- The nodes that a visit goes to lie between two lines. -/
def Visit.Between (lo hi : Int) : Visit → Prop
  | .node n => n.Between lo hi
  | .nodes ns => ∀ n ∈ ns, n.Between lo hi
  | .clauses _ ks => ∀ k ∈ ks, k.Between lo hi

/-- The scope refers to lines between the bounds. Outside functions there is room for one line
below `hi`. -/
structure Scope.Bounded (lo hi top : Int) (s : Scope) : Prop where
  functionEnd : ∀ e ∈ s.functionEnd, lo ≤ e ∧ e ≤ top
  outside : s.functionEnd = none → hi < top
  loopHeader : ∀ l ∈ s.loopHeader, lo ≤ l ∧ l ≤ top
  switchHeader : ∀ l ∈ s.switchHeader, lo ≤ l ∧ l ≤ top

/-- The false path of an if ends within the bounds. -/
theorem Scope.Bounded.elseEnd {lo hi top : Int} {s : Scope} (hs : s.Bounded lo hi top)
    (htop : hi ≤ top) {n : Node} (hn : n.Between lo hi) :
    lo ≤ s.elseEnd n ∧ s.elseEnd n ≤ top := by
  unfold Scope.elseEnd
  have hstart := hn.falsePath
  cases hpath : (Outline.falsePath n).2 with
  | some l =>
    have hline : lo ≤ l ∧ l ≤ hi := by
      unfold Outline.falsePath at hpath
      split at hpath
      · rename_i a ha
        cases hpath
        exact (hn.child (Node.child?_mem ha)).lines.2
      · cases hpath
    show lo ≤ l ∧ l ≤ top
    omega
  | none =>
    rw [Walk.falseEnd]
    cases hend : s.functionEnd with
    | none =>
      have hroom := hs.outside hend
      show lo ≤ (Outline.falsePath n).1 + 1 ∧ (Outline.falsePath n).1 + 1 ≤ top
      omega
    | some e =>
      have he := hs.functionEnd e hend
      show lo ≤ (if (Outline.falsePath n).1 + 1 > e then e else (Outline.falsePath n).1 + 1) ∧
        (if (Outline.falsePath n).1 + 1 > e then e else (Outline.falsePath n).1 + 1) ≤ top
      omega

/-! ## Confined changes -/

/-- The changes alter blocks on lines between the bounds only. -/
def Confined (lo top : Int) (cs : List Change) : Prop := ∀ c ∈ cs, lo ≤ c.line ∧ c.line ≤ top

namespace Confined

variable {lo top : Int} {cs ds : List Change}

theorem nil : Confined lo top [] := fun _ h => by cases h

theorem append (hcs : Confined lo top cs) (hds : Confined lo top ds) : Confined lo top (cs ++ ds) :=
  fun c hc => (List.mem_append.1 hc).elim (hcs c) (hds c)

theorem cons {c : Change} (hc : lo ≤ c.line ∧ c.line ≤ top) (hcs : Confined lo top cs) :
    Confined lo top (c :: cs) :=
  List.forall_mem_cons.2 ⟨hc, hcs⟩

theorem linksTo {l : Int} (hl : lo ≤ l ∧ l ≤ top) (t : Option Int) :
    Confined lo top (linksTo l t) := by
  intro c hc
  obtain ⟨m, -, rfl⟩ := mem_linksTo.1 hc
  exact hl

theorem linksFrom {s : Option Int} (hs : ∀ l ∈ s, lo ≤ l ∧ l ≤ top) (t : Int) :
    Confined lo top (linksFrom s t) := by
  intro c hc
  obtain ⟨m, hm, rfl⟩ := mem_linksFrom.1 hc
  exact hs m hm

/-- Confined changes register lines within the bounds. -/
theorem registered (hcs : Confined lo top cs) {l : Int} (hl : l ∈ registeredBy cs) :
    lo ≤ l ∧ l ≤ top := by
  obtain ⟨kind, owner, hreg⟩ := mem_registeredBy.1 hl
  exact hcs _ hreg

/-- The registrations that a function opens and closes with. -/
theorem foresee {n body : Node} {hi : Int} (hn : n.Between lo hi) (htop : hi ≤ top)
    (hbody : body ∈ n.children) (name : String) :
    Confined lo top (Walk.foreseeChanges name (Outline.returnLines body) n.endLine) ∧
      Confined lo top (Walk.closeChanges name (Outline.returnLines body) n.endLine) := by
  have hlast : lo ≤ n.endLine ∧ n.endLine ≤ top := by
    have := hn.lines
    omega
  unfold Walk.foreseeChanges Walk.closeChanges
  split
  · exact ⟨cons hlast nil, cons hlast nil⟩
  · refine ⟨fun c hc => ?_, nil⟩
    obtain ⟨l, hl, rfl⟩ := List.mem_map.1 hc
    obtain ⟨r, hr, rfl⟩ := List.mem_map.1 hl
    have hlines := ((Node.Between.hereditary lo hi).statements (hn.child hbody) r
      (List.mem_filter.1 hr).1).lines
    show lo ≤ r.startLine ∧ r.startLine ≤ top
    omega

/-- The end of a loop. The edge back starts from a line that the loop has registered. -/
theorem loopEnd {g : Graph} {w : Walk} {first last : Int} (hw : w.graph = g.replay cs)
    (hcs : Confined lo top cs) (hfirst : first ∈ registeredBy cs) (hlast : lo ≤ last ∧ last ≤ top) :
    Confined lo top (w.loopEndChanges first last) := by
  have hbody : Confined lo top (w.loopBodyChanges first last) := by
    unfold Walk.loopBodyChanges
    split
    · exact cons hlast nil
    · exact nil
  refine hbody.append ?_
  rw [hw, ← Graph.replay_append]
  have hfirst' : first ∈ registeredBy (cs ++ w.loopBodyChanges first last) := by simp [hfirst]
  obtain ⟨m, hm, hnewest⟩ := Graph.newest_replay_mem (g := g) hfirst'
  unfold Walk.backEdgeChanges
  rw [hnewest]
  split
  · exact nil
  · exact cons ((hcs.append hbody).registered hm) nil

/-- At the end of a clause, at most an edge of its own block is added. -/
theorem clauseEnd (w : Walk) {line : Int} (hline : lo ≤ line ∧ line ≤ top) (outer : Scope) :
    Confined lo top (w.clauseEndChanges line outer) := by
  unfold Walk.clauseEndChanges
  split
  · exact nil
  · split
    · exact nil
    · exact linksTo hline _

/-- The blocks of an if. -/
theorem cond {line elseLine elseEnd : Int} (hline : lo ≤ line ∧ line ≤ top)
    (helse : lo ≤ elseLine ∧ elseLine ≤ top) (hend : lo ≤ elseEnd ∧ elseEnd ≤ top) (s : Scope) :
    Confined lo top (Walk.condChanges s line elseLine elseEnd) :=
  cons hline (cons helse (cons hend (cons hline nil)))

/-- The edges of its false path. -/
theorem falsePath {elseLine elseEnd : Int} (helse : lo ≤ elseLine ∧ elseLine ≤ top)
    (hend : lo ≤ elseEnd ∧ elseEnd ≤ top) (s : Scope) :
    Confined lo top (Walk.falsePathChanges s elseLine elseEnd) :=
  append (linksTo helse _) (linksTo hend _)

/-- The block of a switch or select, which the loop around it is linked with. -/
theorem choice {line : Int} (hline : lo ≤ line ∧ line ≤ top) {s : Scope}
    (hloop : ∀ l ∈ s.loopHeader, lo ≤ l ∧ l ≤ top) (form : Choice) :
    Confined lo top (Walk.choiceChanges s form line) := by
  refine cons hline (append (append (linksFrom hloop _) (linksTo hline _)) ?_)
  split
  · exact linksTo hline _
  · exact nil

/-- The block of a clause, which its switch or select is linked with. -/
theorem clause {line : Int} (hline : lo ≤ line ∧ line ≤ top) {s : Scope}
    (hswitch : ∀ l ∈ s.switchHeader, lo ≤ l ∧ l ≤ top) (kind : BlockKind) :
    Confined lo top (Walk.clauseChanges s line kind) :=
  cons hline (append (append (linksTo hline _) (linksFrom hswitch _)) (linksTo hline _))

end Confined

namespace Visits

variable {ε : Type} {decode : List UInt8 → Except ε String}
variable {v : Visit} {w w' : Walk} {cs : List Change} {lo hi top : Int}

/-- A visit leaves behind a scope within the bounds, as it found one. -/
theorem bounded (h : Visits decode v w cs w') (hw : w.scope.Bounded lo hi top) :
    w'.scope.Bounded lo hi top := by
  rw [h.scope_eq]
  exact ⟨hw.functionEnd, hw.outside, hw.loopHeader, hw.switchHeader⟩

/-- The scope in the body of a function that lies between the lines. -/
theorem bounded_function {n : Node} (hn : n.Between lo hi) (htop : hi ≤ top) (w : Walk)
    (name : String) (returns : List Int) :
    ((w.enterFunction name n.startLine (some n.endLine)).foresee returns
      n.endLine).scope.Bounded lo hi top := by
  rw [Walk.scope_foresee]
  refine ⟨?_, by simp, by simp, by simp⟩
  rintro e ⟨⟩
  have := hn.lines
  omega

/-- The scope in the body of a loop. -/
theorem bounded_loop (h : Visits decode v w cs w') (hw : w.scope.Bounded lo hi top) {line : Int}
    (hline : lo ≤ line ∧ line ≤ top) :
    ((w'.aimAt w.scope.returnTarget).enterLoop line).scope.Bounded lo hi top := by
  rw [Walk.scope_enterLoop, h.scope_aimAt]
  refine ⟨hw.functionEnd, hw.outside, ?_, hw.switchHeader⟩
  rintro l ⟨⟩
  exact hline

/-- The scope in the clauses of a switch or select. -/
theorem bounded_choice (h : Visits decode v w cs w') (hw : w.scope.Bounded lo hi top) {line : Int}
    (hline : lo ≤ line ∧ line ≤ top) (form : Choice) :
    ((w'.aimAt w.scope.returnTarget).enterChoice form line).scope.Bounded lo hi top := by
  rw [Walk.scope_enterChoice, h.scope_aimAt]
  refine ⟨hw.functionEnd, hw.outside, hw.loopHeader, ?_⟩
  rintro l ⟨⟩
  exact hline

/-- **Confinement**: visits to nodes between the lines change nothing beyond the bounds. -/
theorem confined (h : Visits decode v w cs w') (htop : hi ≤ top) (hv : v.Between lo hi)
    (hw : w.scope.Bounded lo hi top) : Confined lo top cs := by
  have hwiden : ∀ {l}, lo ≤ l ∧ l ≤ hi → lo ≤ l ∧ l ≤ top := by
    intro l hl
    omega
  have hdown := Node.Between.hereditary lo hi
  induction h with
  | other _ _ ih => exact ih (hdown.named hv) hw
  | prototype => exact .cons (hwiden (Node.Between.lines hv).1) .nil
  | function _ hbody _ _ ih =>
    have hbody' := Node.child?_mem hbody
    obtain ⟨hforesee, hclose⟩ := Confined.foresee hv htop hbody' _
    have hcs := ih (hdown.statements (Node.Between.child hv hbody'))
      (bounded_function hv htop _ _ _)
    exact .cons (hwiden (Node.Between.lines hv).1) (hforesee.append (hcs.append hclose))
  | ret _ _ ih =>
    have hline := hwiden (Node.Between.lines hv).1
    have hcs := ih (hdown.named hv) (by
      rw [Walk.scope_enterReturn]
      exact ⟨hw.functionEnd, hw.outside, hw.loopHeader, hw.switchHeader⟩)
    exact .cons hline (.append (.linksFrom hw.switchHeader _) hcs)
  | spawn _ _ ih =>
    have hline := hwiden (Node.Between.lines hv).1
    exact .cons hline (ih (hdown.named hv) hw)
  | @cond n w cs w₁ ds w₂ es w₃ _ consequence header _ ih₁ ih₂ ih₃ =>
    have hline := hwiden (Node.Between.lines hv).1
    have helse := hwiden (Node.Between.falsePath hv)
    have hend := hw.elseEnd htop hv
    have hw₁ : (w₁.leaveCond (Outline.falsePath n).1 (w.scope.elseEnd n)).scope.Bounded lo hi
        top := by
      rw [Walk.scope_leaveCond]
      exact consequence.bounded hw
    have hcs := ih₁ (hdown.statementsUnder hv _) hw
    have hds := ih₂ (fun s hs => (List.mem_append.1 hs).elim
      (hdown.namedUnder hv _ s) (hdown.namedUnder hv _ s)) hw₁
    have hes := ih₃ (hdown.child? hv _) (header.bounded hw₁)
    exact (Confined.cond hline helse hend _).append
      (hcs.append ((Confined.falsePath helse hend _).append (hds.append hes)))
  | @loop n w cs w₁ ds w₂ _ header body ih₁ ih₂ =>
    have hline := hwiden (Node.Between.lines hv).1
    have hcs := ih₁ (hdown.headerParts hv) hw
    have hds := ih₂ (hdown.statementsUnder hv _) (header.bounded_loop hw hline)
    have hloop : Confined lo top (Walk.loopChanges w.scope n.startLine) :=
      .cons hline (.linksTo hline _)
    have hgraph : w₂.graph = w₁.graph.replay (Walk.loopChanges w.scope n.startLine ++ ds) := by
      rw [body.graph_eq, header.graph_enterLoop, Graph.replay_append]
    have hfirst : n.startLine ∈ registeredBy (Walk.loopChanges w.scope n.startLine ++ ds) := by
      simp [Walk.loopChanges]
    -- the edge back starts from the block registered last, which is one of the loop
    have hend := Confined.loopEnd hgraph (hloop.append hds) hfirst
      (hwiden (Node.Between.lines hv).2)
    exact hcs.append (hloop.append (hds.append hend))
  | choice _ header _ ih₁ ih₂ =>
    have hline := hwiden (Node.Between.lines hv).1
    have hcs := ih₁ (hdown.headerParts hv) hw
    have hds := ih₂ (fun k hk => Node.Between.child hv (List.mem_filter.1 hk).1)
      (header.bounded_choice hw hline _)
    exact hcs.append ((Confined.choice hline hw.loopHeader _).append hds)
  | nil => exact .nil
  | cons first _ ih₁ ih₂ =>
    exact (ih₁ (hv _ List.mem_cons_self) hw).append
      (ih₂ (fun n hn => hv n (List.mem_cons_of_mem _ hn)) (first.bounded hw))
  | noClause => exact .nil
  | @clause form k ks w cs w₁ ds w₂ body _ ih₁ ih₂ =>
    have hk := hv k List.mem_cons_self
    have hline := hwiden (hk.clauseEntry form)
    have hw₀ : (w.enterClause (Outline.clauseEntry form k).1
        (Outline.clauseEntry form k).2).scope.Bounded lo hi top := by
      rw [Walk.scope_enterClause]
      exact hw
    have hw₁ := body.bounded hw₀
    have hcs := ih₁ (fun s hs => hdown.listed hk (Node.mem_clauseBody hs)) hw₀
    have hds := ih₂ (fun m hm => hv m (List.mem_cons_of_mem k hm)) (by
      rw [Walk.scope_leaveClause]
      exact ⟨hw₁.functionEnd, hw₁.outside, hw₁.loopHeader, hw.switchHeader⟩)
    exact (Confined.clause hline hw.switchHeader _).append
      (hcs.append ((Confined.clauseEnd w₁ hline _).append hds))

/-- **A declaration keeps to its own lines**, whatever the scope it stands in. -/
theorem confined_function {n : Node} (h : Visits decode (.node n) w cs w')
    (hn : n.label.isFunction) (hnested : n.nested) : Confined n.startLine n.endLine cs := by
  have hself := Node.between_self hnested
  rcases h.function_cases hn with ⟨name, -, -, rfl⟩ | ⟨body, name, ds, u, hbody, -, inside, rfl⟩
  · exact .cons hself.lines.1 .nil
  · have hbody' := Node.child?_mem hbody
    obtain ⟨hforesee, hclose⟩ := Confined.foresee hself (Int.le_refl _) hbody' name
    have hstatements := (Node.Between.hereditary _ _).statements (hself.child hbody')
    have hds := inside.confined (Int.le_refl _) hstatements
      (bounded_function hself (Int.le_refl _) _ _ _)
    exact .cons hself.lines.1 (hforesee.append (hds.append hclose))

end Visits

/-! ## Rows outside functions -/

/-- Whether a walk finds anything in the node to react to. -/
def Node.holdsConstruct (n : Node) : Bool := !(Outline.ofNode n).isEmpty

/-- A declaration is a construct itself. -/
theorem Node.holdsConstruct_of_isFunction {n : Node} (hn : n.label.isFunction) :
    n.holdsConstruct := by
  unfold holdsConstruct
  cases hbody : n.child? .body with
  | none => rw [Outline.ofNode_prototype hn hbody]; rfl
  | some body => rw [Outline.ofNode_function hn hbody]; rfl

/-- A visit to nodes in which there is nothing to react to. -/
def Visit.Quiet : Visit → Prop
  | .node n => Outline.ofNode n = []
  | .nodes ns => Outline.ofNodes ns = []
  | .clauses _ ks => ks = []

/-- No loop, switch or function is around. -/
structure Scope.Outside (s : Scope) : Prop where
  functionEnd : s.functionEnd = none
  loopHeader : s.loopHeader = none
  switchHeader : s.switchHeader = none

namespace Visits

variable {ε : Type} {decode : List UInt8 → Except ε String}
variable {v : Visit} {w w' : Walk} {cs : List Change}

/-- A visit that starts outside functions ends there. -/
theorem outside (h : Visits decode v w cs w') (hw : w.scope.Outside) : w'.scope.Outside :=
  ⟨h.functionEnd_eq.trans hw.functionEnd, h.loopHeader_eq.trans hw.loopHeader,
    h.switchHeader_eq.trans hw.switchHeader⟩

/-- Where there is nothing to react to, nothing changes. -/
theorem changes_of_quiet (h : Visits decode v w cs w') (hv : v.Quiet) : cs = [] := by
  induction h with
  | other label _ ih =>
    rw [Visit.Quiet, Outline.ofNode_other label] at hv
    exact ih hv
  | prototype label hbody => rw [Visit.Quiet, Outline.ofNode_prototype label hbody] at hv; cases hv
  | function label hbody => rw [Visit.Quiet, Outline.ofNode_function label hbody] at hv; cases hv
  | ret label => rw [Visit.Quiet, Outline.ofNode_ret label] at hv; cases hv
  | spawn label => rw [Visit.Quiet, Outline.ofNode_spawn label] at hv; cases hv
  | cond label => rw [Visit.Quiet, Outline.ofNode_cond label] at hv; cases hv
  | loop label => rw [Visit.Quiet, Outline.ofNode_loop label] at hv; cases hv
  | choice label => rw [Visit.Quiet, Outline.ofNode_choice label] at hv; cases hv
  | nil => rfl
  | cons _ _ ih₁ ih₂ =>
    rw [Visit.Quiet, Outline.ofNodes_cons, List.append_eq_nil_iff] at hv
    rw [ih₁ hv.1, ih₂ hv.2, List.append_nil]
  | noClause => rfl
  | clause => cases hv

/-- **Confinement outside functions**: each change belongs to a node of the row that holds a
construct, and alters a block on a line of that node or on the line below it. -/
theorem confined_row {ns : List Node} (h : Visits decode (.nodes ns) w cs w')
    (hns : ∀ n ∈ ns, n.nested) (hw : w.scope.Outside) :
    ∀ c ∈ cs, ∃ n ∈ ns, n.holdsConstruct ∧ n.startLine ≤ c.line ∧ c.line ≤ n.endLine + 1 := by
  induction ns generalizing w cs with
  | nil =>
    cases h
    simp
  | cons n ns ih =>
    cases h with
    | cons first rest =>
      intro c hc
      rcases List.mem_append.1 hc with hc | hc
      · refine ⟨n, List.mem_cons_self, ?_, ?_⟩
        · cases hquiet : (Outline.ofNode n).isEmpty with
          | false => simp [Node.holdsConstruct, hquiet]
          | true =>
            rw [first.changes_of_quiet (List.isEmpty_iff.1 hquiet)] at hc
            cases hc
        · have hself := Node.between_self (hns n List.mem_cons_self)
          -- no function clamps the false path of an if here: it needs the line below
          have hbounded : w.scope.Bounded n.startLine n.endLine (n.endLine + 1) :=
            ⟨by simp [hw.functionEnd], fun _ => by omega, by simp [hw.loopHeader],
              by simp [hw.switchHeader]⟩
          exact first.confined (by omega) hself hbounded c hc
      · obtain ⟨m, hm, hline⟩ :=
          ih rest (fun m hm => hns m (List.mem_cons_of_mem n hm)) (first.outside hw) c hc
        exact ⟨m, List.mem_cons_of_mem n hm, hline⟩

end Visits

end GoFlow
