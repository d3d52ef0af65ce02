import GoFlow.Proofs.Replay
import GoFlow.Walk

/-!
# The parts of the constructs

What entering and leaving a construct does to a walk, in two equations each: the graph is replayed
by a list of changes, and the scope is updated. For most parts the changes depend on the scope
alone; leaving a loop or a clause also looks at the graph.
-/

namespace GoFlow

/-- The edge from a line to a target, if there is one. -/
def linksTo (source : Int) (target : Option Int) : List Change := target.toList.map (.link source)

/-- The edge from a source, if there is one, to a line. -/
def linksFrom (source : Option Int) (target : Int) : List Change :=
  source.toList.map (.link · target)

@[simp] theorem registeredBy_linksTo (s : Int) (t : Option Int) :
    registeredBy (linksTo s t) = [] := by
  cases t <;> rfl

@[simp] theorem registeredBy_linksFrom (s : Option Int) (t : Int) :
    registeredBy (linksFrom s t) = [] := by
  cases s <;> rfl

/-- A link to a target is made only if there is one. -/
theorem mem_linksTo {c : Change} {s : Int} {t : Option Int} :
    c ∈ linksTo s t ↔ ∃ m, t = some m ∧ c = .link s m := by
  cases t <;> simp [linksTo]

theorem mem_linksFrom {c : Change} {s : Option Int} {t : Int} :
    c ∈ linksFrom s t ↔ ∃ m, s = some m ∧ c = .link m t := by
  cases s <;> simp [linksFrom]

namespace Walk

/-! ## Registering and linking -/

theorem graph_add (w : Walk) (l : Int) (kind : BlockKind) :
    (w.add l kind).graph = w.graph.apply (.register l kind w.scope.function) := rfl

@[simp] theorem scope_add (w : Walk) (l : Int) (kind : BlockKind) :
    (w.add l kind).scope = w.scope := rfl

theorem graph_linkTo (w : Walk) (s : Int) (t : Option Int) :
    (w.linkTo s t).graph = w.graph.replay (linksTo s t) := by
  cases t <;> rfl

@[simp] theorem scope_linkTo (w : Walk) (s : Int) (t : Option Int) :
    (w.linkTo s t).scope = w.scope := by
  cases t <;> rfl

theorem graph_linkFrom (w : Walk) (s : Option Int) (t : Int) :
    (w.linkFrom s t).graph = w.graph.replay (linksFrom s t) := by
  cases s <;> rfl

@[simp] theorem scope_linkFrom (w : Walk) (s : Option Int) (t : Int) :
    (w.linkFrom s t).scope = w.scope := by
  cases s <;> rfl

@[simp] theorem graph_aimAt (w : Walk) (t : Option Int) : (w.aimAt t).graph = w.graph := rfl

@[simp] theorem scope_aimAt (w : Walk) (t : Option Int) :
    (w.aimAt t).scope = { w.scope with returnTarget := t } := rfl

/-! ## Functions -/

/-- Registers the returns that a function has, or else its last line. -/
def foreseeChanges (function : String) (returns : List Int) (last : Int) : List Change :=
  if returns.isEmpty then [.register last .returnStatement function]
  else returns.map (.register · .returnStatement function)

/-- Registers the last line of a function without returns. -/
def closeChanges (function : String) (returns : List Int) (last : Int) : List Change :=
  if returns.isEmpty then [.register last .returnStatement function] else []

@[simp] theorem scope_enterFunction (w : Walk) (name : String) (first : Int) (last : Option Int) :
    (w.enterFunction name first last).scope = { function := name, functionEnd := last } := rfl

/-- Foreseeing one return after the other leaves the last one as the target. -/
theorem foldl_expect (rs : List Int) :
    ∀ w : Walk,
      (rs.foldl expect w).graph
          = w.graph.replay (rs.map (.register · .returnStatement w.scope.function)) ∧
        (rs.foldl expect w).scope
          = { w.scope with returnTarget := rs.getLast?.or w.scope.returnTarget } := by
  induction rs with
  | nil => intro w; exact ⟨rfl, rfl⟩
  | cons r rs ih =>
    intro w
    obtain ⟨hgraph, hscope⟩ := ih (w.expect r)
    refine ⟨hgraph, hscope.trans ?_⟩
    rw [List.getLast?_cons]
    cases rs.getLast? <;> rfl

/-- The returns of a function are registered before its body is walked. -/
theorem graph_foresee (w : Walk) (returns : List Int) (last : Int) :
    (w.foresee returns last).graph
      = w.graph.replay (foreseeChanges w.scope.function returns last) := by
  cases returns with
  | nil => rfl
  | cons r rs => exact (foldl_expect (r :: rs) w).1

/-- What a function registers before its body is walked. -/
theorem graph_foresee_enterFunction (w : Walk) (name : String) (first last : Int)
    (returns : List Int) :
    ((w.enterFunction name first (some last)).foresee returns last).graph
      = w.graph.replay (.register first .functionEntry name
          :: foreseeChanges name returns last) :=
  graph_foresee _ _ _

/-- The last of them becomes the return target, or else the last line of the function. -/
theorem scope_foresee (w : Walk) (returns : List Int) (last : Int) :
    (w.foresee returns last).scope
      = { w.scope with returnTarget := some (returns.getLast?.getD last) } := by
  cases returns with
  | nil => rfl
  | cons r rs =>
    refine (foldl_expect (r :: rs) w).2.trans ?_
    rw [List.getLast?_cons]
    rfl

/-- At the end, the last line of a function without returns is registered again. -/
theorem graph_closeOn (w : Walk) (returns : List Int) (last : Int) :
    (w.closeOn returns last).graph
      = w.graph.replay (closeChanges w.scope.function returns last) := by
  unfold closeOn closeChanges
  split <;> rfl

@[simp] theorem graph_leaveFunction (w : Walk) (name : String) (first : Int) (outer : Scope) :
    (w.leaveFunction name first outer).graph = w.graph := rfl

/-! ## Returns and conditionals -/

/-- A return, and the edge from the switch around it. -/
def returnChanges (s : Scope) (line : Int) : List Change :=
  .register line .returnStatement s.function :: linksFrom s.switchHeader line

/-- A return is registered, and the clause it stands in is linked with it. -/
theorem graph_enterReturn (w : Walk) (line : Int) :
    (w.enterReturn line).graph = w.graph.replay (returnChanges w.scope line) :=
  graph_linkFrom _ _ _

@[simp] theorem scope_enterReturn (w : Walk) (line : Int) :
    (w.enterReturn line).scope = { w.scope with returnTarget := some line } :=
  scope_linkFrom _ _ _

/-- The three blocks of an if, and the edge that skips it. -/
def condChanges (s : Scope) (line elseLine elseEnd : Int) : List Change :=
  [.register line .ifCondition s.function, .register elseLine .elseCondition s.function,
   .register elseEnd .elseBody s.function, .link line elseEnd]

/-- An if registers three blocks and links the first with the last. -/
theorem graph_enterCond (w : Walk) (line elseLine elseEnd : Int) :
    (w.enterCond line elseLine elseEnd).graph
      = w.graph.replay (condChanges w.scope line elseLine elseEnd) := rfl

@[simp] theorem scope_enterCond (w : Walk) (line elseLine elseEnd : Int) :
    (w.enterCond line elseLine elseEnd).scope = w.scope := rfl

/-- The edges of the false path to the return target. -/
def falsePathChanges (s : Scope) (elseLine elseEnd : Int) : List Change :=
  linksTo elseLine s.returnTarget ++ linksTo elseEnd s.returnTarget

/-- Both blocks of the false path are linked with the return target. -/
theorem graph_leaveCond (w : Walk) (elseLine elseEnd : Int) :
    (w.leaveCond elseLine elseEnd).graph
      = w.graph.replay (falsePathChanges w.scope elseLine elseEnd) := by
  rw [falsePathChanges, Graph.replay_append, leaveCond, graph_linkTo, graph_linkTo]

@[simp] theorem scope_leaveCond (w : Walk) (elseLine elseEnd : Int) :
    (w.leaveCond elseLine elseEnd).scope = w.scope := by
  rw [leaveCond, scope_linkTo, scope_linkTo]

/-! ## Loops -/

/-- The header of a loop, and the edge that leaves the loop. -/
def loopChanges (s : Scope) (line : Int) : List Change :=
  .register line .forStatement s.function :: linksTo line s.returnTarget

/-- A loop is registered and linked with the return target. -/
theorem graph_enterLoop (w : Walk) (line : Int) :
    (w.enterLoop line).graph = w.graph.replay (loopChanges w.scope line) :=
  graph_linkTo _ _ _

/-- It becomes header and return target of its body. -/
@[simp] theorem scope_enterLoop (w : Walk) (line : Int) :
    (w.enterLoop line).scope
      = { w.scope with returnTarget := some line, loopHeader := some line } := by
  show ({ ((w.add line .forStatement).linkTo line w.scope.returnTarget).scope with
    returnTarget := some line, loopHeader := some line } : Scope) = _
  rw [scope_linkTo, scope_add]

/-- A block for the body of a loop that registered nothing. -/
def loopBodyChanges (w : Walk) (first last : Int) : List Change :=
  if w.graph.newest = some first ∧ w.kindAt first = some .forStatement then
    [.register last .forBody w.scope.function]
  else []

/-- The edge back from the block registered last, unless that is a return. -/
def backEdgeChanges (g : Graph) (first : Int) : List Change :=
  if g.kind? (.line (g.newest.getD first)) = some .returnStatement then []
  else [.link (g.newest.getD first) first]

/-- The end of a loop. -/
def loopEndChanges (w : Walk) (first last : Int) : List Change :=
  w.loopBodyChanges first last
    ++ backEdgeChanges (w.graph.replay (w.loopBodyChanges first last)) first

/-- At its end, the block registered last is linked with the header. -/
theorem graph_leaveLoop (w : Walk) (first last : Int) (outer : Scope) :
    (w.leaveLoop first last outer).graph = w.graph.replay (w.loopEndChanges first last) := by
  have hbody : ∀ v : Walk,
      (if v.graph.newest = some first ∧ v.kindAt first = some .forStatement then v.add last .forBody
        else v).graph = v.graph.replay (v.loopBodyChanges first last) := by
    intro v
    unfold loopBodyChanges
    split <;> rfl
  have hback : ∀ (v : Walk) (s : Scope),
      (if ({ v with scope := s } : Walk).kindAt (v.graph.newest.getD first) = some .returnStatement
        then ({ v with scope := s } : Walk)
        else ({ v with scope := s } : Walk).link (v.graph.newest.getD first) first).graph
        = v.graph.replay (backEdgeChanges v.graph first) := by
    intro v s
    unfold backEdgeChanges
    split
    · rename_i hret
      rw [if_pos (show v.graph.kind? _ = _ from hret)]
      rfl
    · rename_i hret
      rw [if_neg (show ¬ v.graph.kind? _ = _ from hret)]
      rfl
  refine (hback _ _).trans ?_
  rw [hbody, loopEndChanges, Graph.replay_append]
  rfl

/-- Behind a loop, the scope around it counts again. -/
@[simp] theorem scope_leaveLoop (w : Walk) (first last : Int) (outer : Scope) :
    (w.leaveLoop first last outer).scope
      = { w.scope with
          returnTarget := outer.returnTarget, loopHeader := outer.loopHeader,
          loopTail := outer.loopTail } := by
  unfold leaveLoop
  simp only
  split <;> split <;> rfl

/-! ## Switches, selects and their clauses -/

/-- The block of a switch or select, with its edges to and from the loop around it. -/
def choiceChanges (s : Scope) (form : Choice) (line : Int) : List Change :=
  .register line form.kind s.function :: (linksFrom s.loopHeader line ++ linksTo line s.loopHeader
    ++ if form.linksReturn then linksTo line s.returnTarget else [])

/-- Behind the registration come edges only. -/
theorem registeredBy_choiceLinks (s : Scope) (form : Choice) (line : Int) :
    registeredBy (linksFrom s.loopHeader line ++ linksTo line s.loopHeader
      ++ if form.linksReturn then linksTo line s.returnTarget else []) = [] := by
  rw [registeredBy_append, registeredBy_append, registeredBy_linksFrom, registeredBy_linksTo]
  split <;> simp

/-- A switch or select is registered and linked with the loop around it. -/
theorem graph_enterChoice (w : Walk) (form : Choice) (line : Int) :
    (w.enterChoice form line).graph = w.graph.replay (choiceChanges w.scope form line) := by
  have hlinks : (((w.add line form.kind).linkFrom w.scope.loopHeader line).linkTo line
      w.scope.loopHeader).graph
      = (w.graph.apply (.register line form.kind w.scope.function)).replay
          (linksFrom w.scope.loopHeader line ++ linksTo line w.scope.loopHeader) := by
    rw [graph_linkTo, graph_linkFrom, graph_add, Graph.replay_append]
  rw [choiceChanges, Graph.replay_cons, Graph.replay_append, ← hlinks]
  unfold enterChoice
  cases form.linksReturn with
  | false => simp
  | true => simp [graph_linkTo]

@[simp] theorem scope_enterChoice (w : Walk) (form : Choice) (line : Int) :
    (w.enterChoice form line).scope = { w.scope with switchHeader := some line } := by
  unfold enterChoice
  cases form.linksReturn <;> simp

/-- The block of a clause, with its edges from the switch and to loop and return target. -/
def clauseChanges (s : Scope) (line : Int) (kind : BlockKind) : List Change :=
  .register line kind s.function :: (linksTo line s.loopHeader ++ linksFrom s.switchHeader line
    ++ linksTo line s.returnTarget)

/-- A clause is registered and linked with its switch, the loop and the return target. -/
theorem graph_enterClause (w : Walk) (line : Int) (kind : BlockKind) :
    (w.enterClause line kind).graph = w.graph.replay (clauseChanges w.scope line kind) := by
  rw [clauseChanges, Graph.replay_cons, Graph.replay_append, Graph.replay_append]
  simp [enterClause, graph_linkTo, graph_linkFrom, graph_add]

@[simp] theorem scope_enterClause (w : Walk) (line : Int) (kind : BlockKind) :
    (w.enterClause line kind).scope = w.scope := by
  simp [enterClause]

/-- The edge that leaves a clause, unless the clause returns, switches or goes back into a loop. -/
def clauseEndChanges (w : Walk) (line : Int) (outer : Scope) : List Change :=
  if w.kindAt line = some .returnStatement ∨ w.kindAt line = some .switchStatement then []
  else if w.graph.hasSuccessorOfKind (.line line) .forStatement then []
  else linksTo line outer.returnTarget

/-- At its end, a clause that has no way back to a loop is linked with the return target. -/
theorem graph_leaveClause (w : Walk) (line : Int) (outer : Scope) :
    (w.leaveClause line outer).graph = w.graph.replay (w.clauseEndChanges line outer) := by
  unfold leaveClause clauseEndChanges kindAt
  simp only
  split
  · rfl
  · split
    · rfl
    · exact graph_linkTo _ _ _

@[simp] theorem scope_leaveClause (w : Walk) (line : Int) (outer : Scope) :
    (w.leaveClause line outer).scope
      = { w.scope with
          switchHeader := outer.switchHeader, returnTarget := outer.returnTarget } := by
  unfold leaveClause
  simp only
  split
  · rfl
  · split
    · rfl
    · exact scope_linkTo _ _ _

end Walk

end GoFlow
