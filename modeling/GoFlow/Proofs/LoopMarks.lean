import GoFlow.Proofs.Passage
import GoFlow.Proofs.Scoping

/-!
# The blocks of a loop and their edges to the header

The walk links a block of a loop back to the header in two ways: switches, selects and their clauses
ask for the loop around them, and the false path of an if and the header of a loop further in ask
for the return target, which is the header until a return stands open. The outline of the body tells
which blocks these are.

- `Outline.marks`: the blocks of a stretch in the order in which the walk registers them, each with
  its kind and with whether it is linked to the header of the loop around.
- `Marked`: a list of changes registers the blocks of the marks and draws their edges.
- `Visits.marked`: a visit in a loop does so for the marks of its outline.
-/

namespace GoFlow

namespace Outline

/-- A block that is registered inside a loop. -/
structure Mark where
  line : Int
  kind : BlockKind
  /-- Whether the block is linked to the header of the loop. -/
  back : Bool := false
  /-- Whether the header is linked to the block. -/
  ahead : Bool := false
deriving DecidableEq, Repr

/-- The marks of the body of a loop that ends on line `last`. -/
def orForBody (last : Int) (ms : List Mark) : List Mark :=
  if ms.isEmpty then [{ line := last, kind := .forBody }] else ms

mutual

/-- The marks of a construct. `home` says whether the loop is the innermost one around it, and
`aimed` whether the header of the loop is the return target. -/
def marksOf (home aimed : Bool) : Item → List Mark
  | .prototype .. | .function .. => []
  | .ret line inside => { line, kind := .returnStatement } :: marks home false inside
  | .spawn line inside => { line, kind := .goStatement } :: marks home aimed inside
  | .cond line elseLine elseEnd consequence header alternative =>
    -- the false path is linked behind the consequence, and the header is walked behind that
    let left := aimed && (openReturns consequence).isEmpty
    { line, kind := .ifCondition }
      :: { line := elseLine, kind := .elseCondition, back := left }
      :: { line := elseEnd.getD (elseLine + 1), kind := .elseBody, back := left }
      :: (marks home aimed consequence ++ (marks home left header
        ++ marks home (left && (openReturns header).isEmpty) alternative))
  | .loop first last header body =>
    marks home aimed header ++ { line := first, kind := .forStatement, back := aimed }
      :: orForBody last (marks false false body)
  | .choice form line header clauses =>
    marks home aimed header ++ { line, kind := form.kind, back := home, ahead := home }
      :: clauseMarks home aimed clauses

/-- The marks of a row of constructs. -/
def marks (home aimed : Bool) : List Item → List Mark
  | [] => []
  | i :: rest => marksOf home aimed i ++ marks home (aimed && (openReturnsOf i).isEmpty) rest

/-- The marks of clauses. -/
def clauseMarks (home aimed : Bool) : List Clause → List Mark
  | [] => []
  | .mk line kind body :: rest =>
    { line, kind, back := home } :: (marks home aimed body ++ clauseMarks home aimed rest)

end

variable {home aimed : Bool}

theorem marks_singleton (i : Item) : marks home aimed [i] = marksOf home aimed i := by
  rw [marks, marks, List.append_nil]

/-- In a row, what comes second is aimed at the loop only if nothing in front of it returns. -/
theorem marks_append (is js : List Item) :
    marks home aimed (is ++ js)
      = marks home aimed is ++ marks home (aimed && (openReturns is).isEmpty) js := by
  induction is generalizing aimed with
  | nil => simp [marks, openReturns]
  | cons i is ih =>
    have hopen : (openReturns (i :: is)).isEmpty
        = ((openReturnsOf i).isEmpty && (openReturns is).isEmpty) := by
      rw [openReturns]
      cases openReturnsOf i <;> rfl
    rw [List.cons_append, marks, marks, ih, hopen, Bool.and_assoc, List.append_assoc]

/-- The mark that is left on a line. -/
def lastMark? (l : Int) : List Mark → Option Mark
  | [] => none
  | m :: ms => (lastMark? l ms).or (if m.line = l then some m else none)

/-- Of two rows, the second decides on the last mark of a line. -/
theorem lastMark?_append (l : Int) (ms ns : List Mark) :
    lastMark? l (ms ++ ns) = (lastMark? l ns).or (lastMark? l ms) := by
  induction ms with
  | nil => rw [List.nil_append, lastMark?, Option.or_none]
  | cons m ms ih => rw [List.cons_append, lastMark?, lastMark?, ih, Option.or_assoc]

theorem lastMark?_eq_none {l : Int} {ms : List Mark} :
    lastMark? l ms = none ↔ l ∉ ms.map Mark.line := by
  induction ms with
  | nil => simp [lastMark?]
  | cons m ms ih =>
    rw [lastMark?, Option.or_eq_none_iff, ih, List.map_cons, List.mem_cons, not_or, and_comm]
    refine and_congr_left fun _ => ?_
    rw [ite_eq_right_iff, eq_comm]
    exact ⟨fun h hl => (Option.some_ne_none m) (h hl), fun h hl => absurd hl h⟩

/-- It is one of the marks, and on the line. -/
theorem mem_of_lastMark? {l : Int} {ms : List Mark} {m : Mark} (h : lastMark? l ms = some m) :
    m ∈ ms ∧ m.line = l := by
  induction ms with
  | nil => cases h
  | cons n ms ih =>
    rw [lastMark?, Option.or_eq_some_iff] at h
    rcases h with h | ⟨-, h⟩
    · exact ⟨List.mem_cons_of_mem n (ih h).1, (ih h).2⟩
    · obtain ⟨hline, hn⟩ := Option.ite_none_right_eq_some.1 h
      obtain rfl := Option.some.inj hn
      exact ⟨List.mem_cons_self, hline⟩

/-- The last mark of all is left on its line. -/
theorem lastMark?_of_getLast? {ms : List Mark} {m : Mark} (h : ms.getLast? = some m) :
    lastMark? m.line ms = some m := by
  obtain ⟨ns, rfl⟩ := List.getLast?_eq_some_iff.1 h
  rw [lastMark?_append]
  simp [lastMark?]

end Outline

open Outline (Mark lastMark?)

/-! ## Changes and their marks -/

/-- The changes register the blocks of the marks, one after the other. Unless its line is registered
again, a block gets its edge to line `s`, and from there. -/
inductive Marked (s : Int) : List Change → List Mark → Prop where
  | nil : Marked s [] []
  | link {l t : Int} {cs : List Change} {ms : List Mark} (rest : Marked s cs ms) :
      Marked s (.link l t :: cs) ms
  | register {owner : String} {m : Mark} {cs : List Change} {ms : List Mark}
      (back : m.line ∉ registeredBy cs → m.back → .link m.line s ∈ cs)
      (ahead : m.line ∉ registeredBy cs → m.ahead → .link s m.line ∈ cs) (rest : Marked s cs ms) :
      Marked s (.register m.line m.kind owner :: cs) (m :: ms)

namespace Marked

variable {s : Int} {cs ds : List Change} {ms ns : List Mark}

/-- Marks of changes are made one after the other. -/
theorem append (hcs : Marked s cs ms) (hds : Marked s ds ns) : Marked s (cs ++ ds) (ms ++ ns) := by
  induction hcs with
  | nil => exact hds
  | link _ ih => exact .link ih
  | @register owner m cs ms back ahead _ ih =>
    have hfirst : m.line ∉ registeredBy (cs ++ ds) → m.line ∉ registeredBy cs := by
      rw [registeredBy_append, List.mem_append, not_or]
      exact And.left
    rw [List.cons_append, List.cons_append]
    exact .register (fun hl hm => List.mem_append_left _ (back (hfirst hl) hm))
      (fun hl hm => List.mem_append_left _ (ahead (hfirst hl) hm)) ih

/-- Edges leave no marks. -/
theorem of_links (h : registeredBy cs = []) : Marked s cs [] := by
  induction cs with
  | nil => exact .nil
  | cons c cs ih =>
    cases c with
    | register l kind owner => cases h
    | link l t => exact .link (ih h)

/-- A block that is not linked to the header. -/
theorem plain (l : Int) (kind : BlockKind) (owner : String) (h : Marked s cs ms) :
    Marked s (.register l kind owner :: cs) ({ line := l, kind } :: ms) :=
  @register s owner { line := l, kind } cs ms (fun _ hback => by cases hback)
    (fun _ hahead => by cases hahead) h

/-- A block that may be linked to the header. -/
theorem backed {l : Int} {kind : BlockKind} {owner : String} {back : Bool}
    (hback : back → .link l s ∈ cs) (h : Marked s cs ms) :
    Marked s (.register l kind owner :: cs) ({ line := l, kind, back } :: ms) :=
  @register s owner { line := l, kind, back } cs ms (fun _ => hback)
    (fun _ hahead => by cases hahead) h

/-- There is a mark for every registration. -/
theorem registeredBy_eq (h : Marked s cs ms) : registeredBy cs = ms.map Mark.line := by
  induction h with
  | nil => rfl
  | link _ ih => rwa [registeredBy_link]
  | register _ _ _ ih => rw [registeredBy_register, ih, List.map_cons]

/-- **The mark that is left on a line** belongs to its last registration, and the edges it speaks of
come behind. -/
theorem exists_last (h : Marked s cs ms) {l : Int} {m : Mark} (hm : lastMark? l ms = some m) :
    ∃ pre owner post, cs = pre ++ .register l m.kind owner :: post ∧ l ∉ registeredBy post ∧
      (m.back → .link l s ∈ post) ∧ (m.ahead → .link s l ∈ post) := by
  induction h with
  | nil => cases hm
  | @link k t cs ms _ ih =>
    obtain ⟨pre, owner, post, rfl, hpost⟩ := ih hm
    exact ⟨.link k t :: pre, owner, post, rfl, hpost⟩
  | @register owner' n cs ms back ahead rest ih =>
    rw [lastMark?, Option.or_eq_some_iff] at hm
    rcases hm with hm | ⟨hnone, hm⟩
    · obtain ⟨pre, owner, post, rfl, hpost⟩ := ih hm
      exact ⟨.register n.line n.kind owner' :: pre, owner, post, rfl, hpost⟩
    · obtain ⟨rfl, hn⟩ := Option.ite_none_right_eq_some.1 hm
      obtain rfl := Option.some.inj hn
      have hlast : n.line ∉ registeredBy cs := by
        rw [rest.registeredBy_eq]
        exact Outline.lastMark?_eq_none.1 hnone
      exact ⟨[], owner', cs, rfl, hlast, back hlast, ahead hlast⟩

end Marked

/-! ## Visits -/

/-- The marks of a stretch. -/
def Visit.marks (home aimed : Bool) : Visit → List Mark
  | .node n => Outline.marks home aimed (Outline.ofNode n)
  | .nodes ns => Outline.marks home aimed (Outline.ofNodes ns)
  | .clauses form ks => Outline.clauseMarks home aimed (ks.map (Outline.ofClause form))

/-- The scope refers back to the loop on line `s`, as far as the flags say so. -/
structure Scope.Inside (s : Int) (home aimed : Bool) (scope : Scope) : Prop where
  loopHeader : home → scope.loopHeader = some s
  returnTarget : aimed → scope.returnTarget = some s

/-- Nothing is asked of a scope that is neither home nor aimed. -/
theorem Scope.inside_false (s : Int) (scope : Scope) : scope.Inside s false false :=
  ⟨(fun h => by cases h), (fun h => by cases h)⟩

section

variable {ε : Type} {decode : List UInt8 → Except ε String} {root d : Node} {s : Int}

/-- A visit refers back to the loop behind it as it did before, unless it leaves a return open. -/
theorem Visits.inside {v : Visit} {w w' : Walk} {cs : List Change} (h : Visits decode v w cs w')
    {home aimed : Bool} (hw : w.scope.Inside s home aimed) :
    w'.scope.Inside s home (aimed && v.openReturns.isEmpty) := by
  refine ⟨fun hhome => h.loopHeader_eq.trans (hw.loopHeader hhome), fun haimed => ?_⟩
  rw [Bool.and_eq_true, List.isEmpty_iff] at haimed
  rw [h.returnTarget_eq, haimed.2]
  exact hw.returnTarget haimed.1

/-- A visit without open returns leaves the scope inside the loop as it was. -/
theorem Visits.inside_of_nil {v : Visit} {w w' : Walk} {cs : List Change}
    (h : Visits decode v w cs w') (hv : v.openReturns = []) {home aimed : Bool}
    (hw : w.scope.Inside s home aimed) : w'.scope.Inside s home aimed := by
  have hin := h.inside hw
  rwa [hv, List.isEmpty_nil, Bool.and_true] at hin

/-- The constructs of a function end above its last line. -/
theorem Node.Spread.endLine_lt (hroot : root.Spread) (hd : d ∈ root.children)
    (hfunction : d.label.isFunction) {n : Node} (hn : n ∈ nodesIn d.children)
    (hconstruct : n.label.isConstruct) : n.endLine < d.endLine := by
  have hd' : d ∈ root.nodes := mem_nodes_of_child hd d.mem_nodes_self
  obtain ⟨c, hc, hnc⟩ := mem_nodesIn.1 hn
  have hif : d.label ≠ .ifStatement := by
    intro h
    rw [h] at hfunction
    cases hfunction
  have hbraced := hroot.braces d hd' (Label.isConstruct_of_isFunction hfunction) c hc (by
    simp [hangsOn, hif, Label.choice?_of_isFunction hfunction]) n
      (mem_constructs.2 ⟨hnc, hconstruct⟩)
  have hstop := ((between_self (hroot.nested_of_mem hd')).child hc).stop
  omega

/-- So the function goes on below the false path of an if. -/
theorem Scope.FilesUnder.elseEnd_eq {scope : Scope} (hw : scope.FilesUnder decode (some d))
    (hroot : root.Spread) (hd : d ∈ root.children) (hfunction : d.label.isFunction) {n : Node}
    (hn : n ∈ Node.nodesIn d.children) (label : n.label = .ifStatement) :
    scope.elseEnd n = (Outline.falsePath n).2.getD ((Outline.falsePath n).1 + 1) := by
  have hlt := hroot.endLine_lt hd hfunction hn (by rw [label]; rfl)
  have hle := (Node.between_self
    (hroot.nested_of_mem (Node.mem_nodes_of_inside hd hn))).falsePath.2
  unfold Scope.elseEnd
  cases (Outline.falsePath n).2 with
  | some l => rfl
  | none =>
    rw [Walk.falseEnd, hw.functionEnd]
    show (if (Outline.falsePath n).1 + 1 > d.endLine then _ else _) = _
    rw [if_neg (by omega)]
    rfl

/-! ## The lines of a loop -/

/-- What the header of a construct registers lies below its first line. -/
theorem Visits.registered_header (hroot : root.Spread) (hd : d ∈ root.children) {n : Node}
    {w w' : Walk} {cs : List Change} (h : Visits decode (.nodes n.headerParts) w cs w')
    (hw : w.scope.FilesUnder decode (some d)) (hn : n ∈ Node.nodesIn d.children)
    (hconstruct : n.label.isConstruct) : ∀ l ∈ registeredBy cs, n.startLine < l := by
  intro l hl
  obtain ⟨c, hc, m, hm, hstart, -⟩ := h.exists_construct hroot hd
    ((Node.hereditary_nodesIn d.children).headerParts hn) hw hl
  have := hroot.startLine_lt (Node.mem_nodes_of_inside hd hn) hconstruct (List.mem_filter.1 hc).1 hm
  omega

/-- What the body of a loop registers lies below the first line of the loop, and no further down
than its last. -/
theorem Visits.registered_loopBody (hroot : root.Spread) (hd : d ∈ root.children) {n : Node}
    (hn : n ∈ Node.nodesIn d.children) (hlabel : n.label = .forStatement) {w w' : Walk}
    {ds : List Change} (h : Visits decode (.nodes (n.statementsUnder .body)) w ds w')
    (hw : w.scope.FilesUnder decode (some d)) :
    ∀ l ∈ registeredBy ds, n.startLine < l ∧ l ≤ n.endLine := by
  intro l hl
  obtain ⟨x, hx, m, hm, hstart, hstop⟩ := h.exists_construct hroot hd
    ((Node.hereditary_nodesIn d.children).statementsUnder hn _) hw hl
  obtain ⟨c, hc, hx⟩ := Node.mem_statementsUnder hx
  have := hroot.inside_loop (Node.mem_nodes_of_inside hd hn) hlabel (Node.child?_mem hc)
    (Node.constructs_subset (Node.mem_nodes_of_statements hx) hm)
  omega

/-- A visit to a loop. -/
theorem Visits.loop_cases {n : Node} {w w' : Walk} {cs : List Change}
    (h : Visits decode (.node n) w cs w') (hn : n.label = .forStatement) :
    ∃ hs w₁ ds w₂, Visits decode (.nodes n.headerParts) w hs w₁ ∧
      Visits decode (.nodes (n.statementsUnder .body))
        ((w₁.aimAt w.scope.returnTarget).enterLoop n.startLine) ds w₂ ∧
      cs = hs ++ (Walk.loopChanges w.scope n.startLine
        ++ (ds ++ w₂.loopEndChanges n.startLine n.endLine)) := by
  cases h with
  | loop _ header body => exact ⟨_, _, _, _, header, body, rfl⟩
  | other label => rw [hn] at label; cases label
  | prototype label => rw [hn] at label; cases label
  | function label => rw [hn] at label; cases label
  | ret label => rw [hn] at label; cases label
  | spawn label => rw [hn] at label; cases label
  | cond label => rw [hn] at label; cases label
  | choice label => rw [hn] at label; cases label

/-- Behind a body that registers something, the end of the loop registers nothing. -/
theorem Walk.registeredBy_loopEnd {w : Walk} {g : Graph} {scope : Scope} {first : Int}
    {ds : List Change} (hw : w.graph = g.replay (loopChanges scope first ++ ds))
    (hds : ∀ l ∈ registeredBy ds, first < l) (hne : registeredBy ds ≠ []) (last : Int) :
    registeredBy (w.loopEndChanges first last) = [] := by
  obtain ⟨t, ht⟩ : ∃ t, (registeredBy ds).getLast? = some t :=
    ⟨_, List.getLast?_eq_some_getLast hne⟩
  have hlt := hds t (List.mem_of_getLast? ht)
  rw [Graph.replay_append] at hw
  rw [loopEnd_of_newest hw ht (by omega)]
  split <;> rfl

/-- A body that registers nothing gets a block at the end of the loop. -/
theorem Marked.orForBody {w : Walk} {g : Graph} {scope : Scope} {first : Int} {ds : List Change}
    {ms : List Mark} (h : Marked s ds ms)
    (hw : w.graph = g.replay (Walk.loopChanges scope first ++ ds))
    (hds : ∀ l ∈ registeredBy ds, first < l) (last : Int) :
    Marked s (ds ++ w.loopEndChanges first last) (Outline.orForBody last ms) := by
  have hlines := h.registeredBy_eq
  cases ms with
  | nil =>
    rw [Walk.loopEnd_of_empty hw hlines]
    exact h.append (.plain last .forBody _ (.link .nil))
  | cons m ms =>
    have hend := Walk.registeredBy_loopEnd hw hds (by simp [hlines]) last
    exact List.append_nil (m :: ms) ▸ h.append (of_links hend)

/-! ## Visits are marked -/

/-- The changes of a visit in the declaration `d` are marked as the outline says, for a loop on line
`s` that is around the stretch. -/
def Visit.IsMarked (decode : List UInt8 → Except ε String) (d : Node) (s : Int) (v : Visit)
    (w : Walk) (cs : List Change) : Prop :=
  ∀ home aimed, v.All (· ∈ Node.nodesIn d.children) → w.scope.FilesUnder decode (some d) →
    w.scope.Inside s home aimed → Marked s cs (v.marks home aimed)

/-- An if: the false path is linked to the return target that the consequence leaves. -/
theorem Visits.marked_cond (hroot : root.Spread) (hd : d ∈ root.children)
    (hfunction : d.label.isFunction) {n : Node} {w w₁ w₂ : Walk} {cs ds es : List Change}
    (label : n.label = .ifStatement)
    (consequence : Visits decode (.nodes (n.statementsUnder .consequence))
      (w.enterCond n.startLine (Outline.falsePath n).1 (w.scope.elseEnd n)) cs w₁)
    (header : Visits decode (.nodes (n.namedUnder .initializer ++ n.namedUnder .condition))
      (w₁.leaveCond (Outline.falsePath n).1 (w.scope.elseEnd n)) ds w₂)
    (ih₁ : Visit.IsMarked decode d s (.nodes (n.statementsUnder .consequence))
      (w.enterCond n.startLine (Outline.falsePath n).1 (w.scope.elseEnd n)) cs)
    (ih₂ : Visit.IsMarked decode d s
      (.nodes (n.namedUnder .initializer ++ n.namedUnder .condition))
      (w₁.leaveCond (Outline.falsePath n).1 (w.scope.elseEnd n)) ds)
    (ih₃ : Visit.IsMarked decode d s (.nodes (n.child? .alternative).toList) w₂ es) :
    Visit.IsMarked decode d s (.node n) w
      (Walk.condChanges w.scope n.startLine (Outline.falsePath n).1 (w.scope.elseEnd n)
        ++ (cs ++ (Walk.falsePathChanges w₁.scope (Outline.falsePath n).1 (w.scope.elseEnd n)
          ++ (ds ++ es)))) := by
  intro home aimed hn hw hin
  have hdown := Node.hereditary_nodesIn d.children
  have hw₁ := (consequence.filesUnder hw).leaveCond (Outline.falsePath n).1 (w.scope.elseEnd n)
  have hin₁ := consequence.inside hin
  have hin₁' : (w₁.leaveCond (Outline.falsePath n).1 (w.scope.elseEnd n)).scope.Inside s home _ :=
    (Walk.scope_leaveCond _ _ _).symm ▸ hin₁
  have hcs := ih₁ home aimed (hdown.statementsUnder hn _) hw hin
  have hds := ih₂ home _ (fun x hx => (List.mem_append.1 hx).elim (hdown.namedUnder hn _ x)
    (hdown.namedUnder hn _ x)) hw₁ hin₁'
  have hes := ih₃ home _ (hdown.child? hn _) (header.filesUnder hw₁) (header.inside hin₁')
  have hlinks : registeredBy (Walk.falsePathChanges w₁.scope (Outline.falsePath n).1
      (w.scope.elseEnd n)) = [] := by
    simp [Walk.falsePathChanges]
  have hrest := hcs.append ((Marked.of_links hlinks).append (hds.append hes))
  rw [Visit.marks, Outline.ofNode_cond label, Outline.marks_singleton, Outline.marksOf,
    ← hw.elseEnd_eq hroot hd hfunction hn label]
  refine .plain _ _ _ (.backed (fun hleft => ?_) (.backed (fun hleft => ?_) (.link hrest)))
  · simp [Walk.falsePathChanges, hin₁.returnTarget hleft, mem_linksTo]
  · simp [Walk.falsePathChanges, hin₁.returnTarget hleft, mem_linksTo]

/-- A loop further in: its header is linked to the return target, and nothing inside it is linked
past it. -/
theorem Visits.marked_loop (hroot : root.Spread) (hd : d ∈ root.children) {n : Node}
    {w w₁ w₂ : Walk} {cs ds : List Change} (label : n.label = .forStatement)
    (header : Visits decode (.nodes n.headerParts) w cs w₁)
    (body : Visits decode (.nodes (n.statementsUnder .body))
      ((w₁.aimAt w.scope.returnTarget).enterLoop n.startLine) ds w₂)
    (ih₁ : Visit.IsMarked decode d s (.nodes n.headerParts) w cs)
    (ih₂ : Visit.IsMarked decode d s (.nodes (n.statementsUnder .body))
      ((w₁.aimAt w.scope.returnTarget).enterLoop n.startLine) ds) :
    Visit.IsMarked decode d s (.node n) w
      (cs ++ (Walk.loopChanges w.scope n.startLine
        ++ (ds ++ w₂.loopEndChanges n.startLine n.endLine))) := by
  intro home aimed hn hw hin
  have hdown := Node.hereditary_nodesIn d.children
  have hw₁ := (header.filesUnder hw).enterLoop w.scope.returnTarget n.startLine
  have hcs := ih₁ home aimed (hdown.headerParts hn) hw hin
  have hds := ih₂ false false (hdown.statementsUnder hn _) hw₁ (Scope.inside_false s _)
  have hend := hds.orForBody
    (by rw [body.graph_eq, header.graph_enterLoop, Graph.replay_append])
    (fun l hl => (body.registered_loopBody hroot hd hn label hw₁ l hl).1) n.endLine
  rw [Visit.marks, Outline.ofNode_loop label, Outline.marks_singleton, Outline.marksOf]
  refine hcs.append (.backed (fun haimed => ?_)
    ((Marked.of_links (registeredBy_linksTo _ _)).append hend))
  simp [hin.returnTarget haimed, mem_linksTo]

/-- A switch or select is linked with the loop around it both ways. -/
theorem Visits.marked_choice {n : Node} {form : Choice} {w w₁ : Walk} {cs ds : List Change}
    (label : n.label.choice? = some form) (header : Visits decode (.nodes n.headerParts) w cs w₁)
    (ih₁ : Visit.IsMarked decode d s (.nodes n.headerParts) w cs)
    (ih₂ : Visit.IsMarked decode d s (.clauses form n.clauses)
      ((w₁.aimAt w.scope.returnTarget).enterChoice form n.startLine) ds) :
    Visit.IsMarked decode d s (.node n) w
      (cs ++ (Walk.choiceChanges w.scope form n.startLine ++ ds)) := by
  intro home aimed hn hw hin
  have hdown := Node.hereditary_nodesIn d.children
  have hscope : ((w₁.aimAt w.scope.returnTarget).enterChoice form n.startLine).scope
      = { w.scope with switchHeader := some n.startLine } := by
    rw [Walk.scope_enterChoice, header.scope_aimAt]
  have hcs := ih₁ home aimed (hdown.headerParts hn) hw hin
  have hds := ih₂ home aimed (hdown.clauseBody hn)
    ((header.filesUnder hw).enterChoice _ _ _) (by
      rw [hscope]
      exact ⟨hin.loopHeader, hin.returnTarget⟩)
  rw [Visit.marks, Outline.ofNode_choice label, Outline.marks_singleton, Outline.marksOf]
  have hrest := (Marked.of_links (Walk.registeredBy_choiceLinks w.scope form n.startLine)).append
    hds
  refine hcs.append (@Marked.register s w.scope.function
    { line := n.startLine, kind := form.kind, back := home, ahead := home } _ _
    (fun _ hhome => ?_) (fun _ hhome => ?_) hrest)
  · simp [hin.loopHeader hhome, mem_linksTo]
  · simp [hin.loopHeader hhome, mem_linksFrom]

/-- A clause is linked to the loop around it, and hands the return target on to the next one. -/
theorem Visits.marked_clause {form : Choice} {k : Node} {ks : List Node} {w w₁ : Walk}
    {cs ds : List Change}
    (body : Visits decode (.nodes k.clauseBody)
      (w.enterClause (Outline.clauseEntry form k).1 (Outline.clauseEntry form k).2) cs w₁)
    (ih₁ : Visit.IsMarked decode d s (.nodes k.clauseBody)
      (w.enterClause (Outline.clauseEntry form k).1 (Outline.clauseEntry form k).2) cs)
    (ih₂ : Visit.IsMarked decode d s (.clauses form ks)
      (w₁.leaveClause (Outline.clauseEntry form k).1 w.scope) ds) :
    Visit.IsMarked decode d s (.clauses form (k :: ks)) w
      (Walk.clauseChanges w.scope (Outline.clauseEntry form k).1 (Outline.clauseEntry form k).2
        ++ (cs ++ (w₁.clauseEndChanges (Outline.clauseEntry form k).1 w.scope ++ ds))) := by
  intro home aimed hks hw hin
  have hw₀ := hw.enterClause (Outline.clauseEntry form k).1 (Outline.clauseEntry form k).2
  have hin₀ : (w.enterClause (Outline.clauseEntry form k).1
      (Outline.clauseEntry form k).2).scope.Inside s home aimed :=
    (Walk.scope_enterClause _ _ _).symm ▸ hin
  have hcs := ih₁ home aimed (hks k List.mem_cons_self) hw₀ hin₀
  have hds := ih₂ home aimed (fun j hj => hks j (List.mem_cons_of_mem k hj))
    ((body.filesUnder hw₀).leaveClause _ _) (by
      rw [Walk.scope_leaveClause]
      exact ⟨(body.inside hin₀).loopHeader, hin.returnTarget⟩)
  rw [Visit.marks, List.map_cons, Outline.ofClause, Outline.clauseMarks]
  have hrest := hcs.append
    ((Marked.of_links (registeredBy_clauseEnd w₁ (Outline.clauseEntry form k).1 w.scope)).append
      hds)
  refine .backed (fun hhome => ?_) ((Marked.of_links (by simp)).append hrest)
  simp [hin.loopHeader hhome, mem_linksTo]

/-- **Blocks and their edges to the loop around them**: the changes of a visit in a function are
marked as its outline says. -/
theorem Visits.marked (hroot : root.Spread) (hd : d ∈ root.children)
    (hfunction : d.label.isFunction) {v : Visit} {w w' : Walk} {cs : List Change}
    (h : Visits decode v w cs w') : v.IsMarked decode d s w cs := by
  have hdown := Node.hereditary_nodesIn d.children
  induction h with
  | other label _ ih =>
    intro home aimed hn
    rw [Visit.marks, Outline.ofNode_other label]
    exact ih home aimed (hdown.named hn)
  | @prototype n _ _ label =>
    intro _ _ hn
    rw [hroot.top d hd n hn] at label
    cases label
  | @function n _ _ _ _ _ label =>
    intro _ _ hn
    rw [hroot.top d hd n hn] at label
    cases label
  | @ret n w cs w' label inside ih =>
    intro home aimed hn hw hin
    -- behind a return, the return target is the return and no longer the loop
    have hcs := ih home false (hdown.named hn) (hw.enterReturn _) (by
      rw [Walk.scope_enterReturn]
      exact ⟨hin.loopHeader, (fun h => by cases h)⟩)
    rw [Visit.marks, Outline.ofNode_ret label, Outline.marks_singleton, Outline.marksOf]
    exact .plain _ _ _ ((Marked.of_links (registeredBy_linksFrom _ _)).append hcs)
  | spawn label _ ih =>
    intro home aimed hn hw hin
    rw [Visit.marks, Outline.ofNode_spawn label, Outline.marks_singleton, Outline.marksOf]
    exact .plain _ _ _ (ih home aimed (hdown.named hn) hw hin)
  | cond label consequence header _ ih₁ ih₂ ih₃ =>
    exact marked_cond hroot hd hfunction label consequence header ih₁ ih₂ ih₃
  | loop label header body ih₁ ih₂ => exact marked_loop hroot hd label header body ih₁ ih₂
  | choice label header _ ih₁ ih₂ => exact marked_choice label header ih₁ ih₂
  | nil => exact fun _ _ _ _ _ => .nil
  | cons first _ ih₁ ih₂ =>
    intro home aimed hns hw hin
    rw [Visit.marks, Outline.ofNodes_cons, Outline.marks_append]
    exact (ih₁ home aimed (hns _ List.mem_cons_self) hw hin).append
      (ih₂ home _ (fun n hn => hns n (List.mem_cons_of_mem _ hn)) (first.filesUnder hw)
        (first.inside hin))
  | noClause => exact fun _ _ _ _ _ => .nil
  | clause body _ ih₁ ih₂ => exact marked_clause body ih₁ ih₂

end

end GoFlow
