import GoFlow.Graph
import GoFlow.Outline

/-!
# The walk

Walks an outline once, depth first. Each construct registers the lines its blocks end on and links
them while the walk unwinds; a scope carries the blocks that constructs further in refer back to.

- `Scope`: the back-references.
- `Walk.item`, `Walk.items`, `Walk.clauses`: the walk. It fails only where the name of a function
  cannot be decoded.
- `build`: the walk over a whole tree, the listing, and the default edges between neighbours.
- `Builder`: a tree that is walked once, however often its blocks are asked for.
-/

namespace GoFlow

/-- What the constructs further in refer back to (`TraversalState`). Every construct leaves the
scope as it found it, except a return, which is meant to be seen by the statements after it. -/
structure Scope where
  /-- Name of the enclosing function, empty outside functions. -/
  function : String := ""
  /-- Last line of the enclosing function. -/
  functionEnd : Option Int := none
  /-- Where a path that leaves the current statement goes. -/
  returnTarget : Option Int := none
  /-- The enclosing loop. -/
  loopHeader : Option Int := none
  /-- The block at which the loop that just ended goes back to its header. -/
  loopTail : Option Int := none
  /-- The enclosing switch or select. -/
  switchHeader : Option Int := none
deriving DecidableEq, Repr

/-- A function whose walk is complete, with the number of blocks registered by then. -/
structure Progress where
  function : String
  line : Int
  blocks : Nat
deriving DecidableEq, Repr

/-- The state of a walk. -/
structure Walk where
  graph : Graph := {}
  scope : Scope := {}
  /-- Functions completed so far, in the order of their completion. -/
  log : List Progress := []
deriving DecidableEq, Repr

/-- A walk that had to stop, with what it had reported until then. -/
structure Stopped (ε : Type) where
  cause : ε
  log : List Progress
deriving Repr

namespace Walk

/-- Registers a block for the enclosing function (`_add`). -/
def add (w : Walk) (line : Int) (kind : BlockKind) : Walk :=
  { w with graph := w.graph.register line kind w.scope.function }

/-- Links two registered lines. -/
def link (w : Walk) (source target : Int) : Walk :=
  { w with graph := w.graph.link (.line source) (.line target) }

/-- Links a line to a target if there is one. -/
def linkTo (w : Walk) (source : Int) (target : Option Int) : Walk :=
  target.elim w (w.link source)

/-- Links a line from a source if there is one. -/
def linkFrom (w : Walk) (source : Option Int) (target : Int) : Walk :=
  source.elim w (w.link · target)

/-- Kind of the block registered on the line. -/
def kindAt (w : Walk) (line : Int) : Option BlockKind := w.graph.kind? (.line line)

/-- Makes the line the return target. -/
def aimAt (w : Walk) (target : Option Int) : Walk :=
  { w with scope := { w.scope with returnTarget := target } }

/-! ## Parts of the constructs -/

/-- Enters a function (`_visit_function`): a scope of its own and the entry block. -/
def enterFunction (w : Walk) (name : String) (first : Int) (last : Option Int) : Walk :=
  { w with scope := { function := name, functionEnd := last } }.add first .functionEntry

/-- Registers a return that the walk has not reached yet. -/
def expect (w : Walk) (line : Int) : Walk := (w.add line .returnStatement).aimAt (some line)

/-- Registers the returns among the statements of a function before the walk reaches them
(`_visit_function`). A function that has none of them returns on its last line. -/
def foresee (w : Walk) (returns : List Int) (last : Int) : Walk :=
  if returns.isEmpty then w.expect last else returns.foldl expect w

/-- The last line stays the way out of a function without returns, whatever else the walk
registered there. -/
def closeOn (w : Walk) (returns : List Int) (last : Int) : Walk :=
  if returns.isEmpty then w.add last .returnStatement else w

/-- Leaves a function for the scope around it and reports it. -/
def leaveFunction (w : Walk) (name : String) (first : Int) (outer : Scope) : Walk :=
  { w with scope := outer, log := w.log ++ [⟨name, first, w.graph.size⟩] }

/-- A return becomes the return target, and a clause it stands in leads to it (`_visit_return`). -/
def enterReturn (w : Walk) (line : Int) : Walk :=
  ((w.add line .returnStatement).aimAt (some line)).linkFrom w.scope.switchHeader line

/-- Where the false path of an if ends: on the line after it starts, but not behind the end of
the function, unless an alternative says where. -/
def falseEnd (s : Scope) (elseLine : Int) : Option Int → Int
  | some l => l
  | none =>
    match s.functionEnd with
    | some last => if elseLine + 1 > last then last else elseLine + 1
    | none => elseLine + 1

/-- The three blocks of an if (`_visit_if`). -/
def enterCond (w : Walk) (line elseLine elseEnd : Int) : Walk :=
  (((w.add line .ifCondition).add elseLine .elseCondition).add elseEnd .elseBody).link line elseEnd

/-- The false path of an if goes on to the return target (`_visit_if`). -/
def leaveCond (w : Walk) (elseLine elseEnd : Int) : Walk :=
  (w.linkTo elseLine w.scope.returnTarget).linkTo elseEnd w.scope.returnTarget

/-- The header of a loop (`_visit_for`). Within the body, paths lead back to it. -/
def enterLoop (w : Walk) (line : Int) : Walk :=
  let w := (w.add line .forStatement).linkTo line w.scope.returnTarget
  { w with scope := { w.scope with returnTarget := some line, loopHeader := some line } }

/-- The end of a loop (`_visit_for`). The block registered last leads back to the header, unless it
is a return; a body that registered nothing gets a block of its own. -/
def leaveLoop (w : Walk) (first last : Int) (outer : Scope) : Walk :=
  let w := w.aimAt outer.returnTarget
  let w :=
    if w.graph.newest = some first ∧ w.kindAt first = some .forStatement then w.add last .forBody
    else w
  let tail := w.graph.newest.getD first
  let w := { w with scope := { w.scope with loopTail := some tail } }
  let w := if w.kindAt tail = some .returnStatement then w else w.link tail first
  { w with scope := { w.scope with loopHeader := outer.loopHeader, loopTail := outer.loopTail } }

/-- The block of a switch or select (`_visit_branching`). In a loop it is linked with the header
both ways. -/
def enterChoice (w : Walk) (form : Choice) (line : Int) : Walk :=
  let w := w.add line form.kind
  let w := (w.linkFrom w.scope.loopHeader line).linkTo line w.scope.loopHeader
  let w := if form.linksReturn then w.linkTo line w.scope.returnTarget else w
  { w with scope := { w.scope with switchHeader := some line } }

/-- The block of a clause (`_visit_clause`). -/
def enterClause (w : Walk) (line : Int) (kind : BlockKind) : Walk :=
  let w := (w.add line kind).linkTo line w.scope.loopHeader
  (w.linkFrom w.scope.switchHeader line).linkTo line w.scope.returnTarget

/-- The end of a clause (`_visit_clause`). Unless it returns or switches itself, it goes on to the
return target; an edge back into a loop will do instead. -/
def leaveClause (w : Walk) (line : Int) (outer : Scope) : Walk :=
  let w := { w with scope := { w.scope with
    switchHeader := outer.switchHeader, returnTarget := outer.returnTarget } }
  if w.kindAt line = some .returnStatement ∨ w.kindAt line = some .switchStatement then w
  else if w.graph.hasSuccessorOfKind (.line line) .forStatement then w
  else w.linkTo line w.scope.returnTarget

/-! ## The walk itself -/

section

variable {ε : Type} (decode : List UInt8 → Except ε String)

/-- The name of a function; a missing one is empty. -/
def decodeName (w : Walk) : Option (List UInt8) → Except (Stopped ε) String
  | none => .ok ""
  | some text =>
    match decode text with
    | .ok name => .ok name
    | .error cause => .error ⟨cause, w.log⟩

mutual

/-- Walks one construct. -/
def item : Item → Walk → Except (Stopped ε) Walk
  | .prototype name first, w => do
    let name ← decodeName decode w name
    return { w.enterFunction name first none with scope := w.scope }
  | .function name first last returns body, w => do
    let outer := w.scope
    let name ← decodeName decode w name
    let w ← items body ((w.enterFunction name first (some last)).foresee returns last)
    return (w.closeOn returns last).leaveFunction name first outer
  | .ret line inside, w => items inside (w.enterReturn line)
  | .spawn line inside, w => items inside (w.add line .goStatement)
  | .cond line elseLine elseEnd consequence header alternative, w => do
    let elseEnd := falseEnd w.scope elseLine elseEnd
    let w ← items consequence (w.enterCond line elseLine elseEnd)
    let w ← items header (w.leaveCond elseLine elseEnd)
    items alternative w
  | .loop first last header body, w => do
    let outer := w.scope
    let w ← items header w
    let w ← items body ((w.aimAt outer.returnTarget).enterLoop first)
    return w.leaveLoop first last outer
  | .choice form line header parts, w => do
    let outer := w.scope
    let w ← items header w
    let w ← clauses parts ((w.aimAt outer.returnTarget).enterChoice form line)
    return { w with scope := { w.scope with switchHeader := outer.switchHeader } }

/-- Walks constructs from left to right. -/
def items : List Item → Walk → Except (Stopped ε) Walk
  | [], w => .ok w
  | i :: rest, w => do items rest (← item i w)

/-- Walks the clauses of a switch or select from left to right. -/
def clauses : List Clause → Walk → Except (Stopped ε) Walk
  | [], w => .ok w
  | .mk line kind body :: rest, w => do
    let outer := w.scope
    let w ← items body (w.enterClause line kind)
    clauses rest (w.leaveClause line outer)

end

end

end Walk

/-- A finished graph. -/
structure Build where
  graph : Graph
  /-- The blocks by ascending key, as they were when the graph was finished. -/
  listing : List Handle
  log : List Progress
deriving DecidableEq, Repr

/-- Builds the graph of a tree on top of the blocks of `start` (`CfgBuilder.build`). -/
def build {ε : Type} (decode : List UInt8 → Except ε String) (root : Node) (start : Graph) :
    Except (Stopped ε) Build := do
  let w ← Walk.items decode (Outline.inside root.children) { graph := start }
  let listing := w.graph.listing
  return ⟨w.graph.numbered.linkFallthrough listing, listing, w.log⟩

/-- A tree, with the blocks that it was found to have (`CfgBuilder`). -/
structure Builder where
  root : Node
  listing : Option (List Handle) := none

/-- Builds the graph of the tree on top of the blocks of `start` (`CfgBuilder.build`). If that was
done before, the blocks are those of the first time, and nothing happens to the graph. -/
def Builder.build {ε : Type} (decode : List UInt8 → Except ε String) (b : Builder)
    (start : Graph) : Except (Stopped ε) (Build × Builder) :=
  match b.listing with
  | some listing => .ok (⟨start, listing, []⟩, b)
  | none => do
    let finished ← GoFlow.build decode b.root start
    return (finished, { b with listing := some finished.listing })

/-- A tree that was walked is not walked again, whatever became of the graph in between. -/
theorem Builder.build_again {ε : Type} {decode : List UInt8 → Except ε String} {b after : Builder}
    {start : Graph} {r : Build} (h : b.build decode start = .ok (r, after)) (g : Graph) :
    after.build decode g = .ok (⟨g, r.listing, []⟩, after) := by
  unfold build at h
  split at h
  next hlisting =>
    cases h
    unfold build
    rw [hlisting]
  next =>
    cases hfinished : GoFlow.build decode b.root start with
    | error stopped =>
      rw [hfinished] at h
      cases h
    | ok finished =>
      rw [hfinished] at h
      cases h
      rfl

end GoFlow
