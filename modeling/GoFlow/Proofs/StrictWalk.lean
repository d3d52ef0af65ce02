import GoFlow.Proofs.Integrity
import GoFlow.Proofs.Itinerary
import GoFlow.Proofs.StackedWalk
import GoFlow.Text.Codec

/-!
# The strict walk

A walk takes much for granted: that the lines it links are registered, that some block was
registered last when a loop ends, that a clause with statements has a last one. The strict walk
does what the walk with a stack does, but it fails wherever something that it asks for is not
there.

- `Obstacle`, `need`: what stops a strict walk, and the access that may fail.
- `Strict.construct`, `Strict.build`: the strict walk.
- `Walk.Safe`: what holds all along a walk, so that all that is asked for is there.
- `strict_build_eq`: the strict walk ends as the walk does. It fails at a name or not at all.
-/

namespace GoFlow

/-- What stops a strict walk. -/
inductive Obstacle (ε : Type) where
  /-- A name that cannot be decoded. -/
  | name (stopped : Stopped ε)
  /-- Something that is not there. -/
  | absent

section

variable {ε α β : Type}

/-- What is there, or a failure. -/
def need (x : Option α) : Except (Obstacle ε) α := x.elim (.error .absent) .ok

/-- Asks for something only after a look at whether it is there. -/
def guarded (x : Option α) (otherwise : Except (Obstacle ε) β)
    (go : α → Except (Obstacle ε) β) : Except (Obstacle ε) β :=
  if x.isSome then do go (← need x) else otherwise

@[simp] theorem guarded_eq (x : Option α) (otherwise : Except (Obstacle ε) β)
    (go : α → Except (Obstacle ε) β) : guarded x otherwise go = x.elim otherwise go := by
  cases x <;> rfl

theorem ok_bind (a : α) (f : α → Except (Obstacle ε) β) : (.ok a >>= f) = f a := rfl

/-- If nothing is missing, nothing stops the search. -/
theorem mapM_need {f : α → Option β} {as : List α} (h : ∀ a ∈ as, (f a).isSome) :
    as.mapM (fun a => need (f a)) = (.ok (as.filterMap f) : Except (Obstacle ε) (List β)) := by
  induction as with
  | nil => rfl
  | cons a as ih =>
    obtain ⟨b, hb⟩ := Option.isSome_iff_exists.1 (h a List.mem_cons_self)
    rw [List.mapM_cons, hb, List.filterMap_cons_some hb,
      ih fun c hc => h c (List.mem_cons_of_mem a hc)]
    rfl

/-- The walk that stops at names only, as a strict one. -/
def strictly : Except (Stopped ε) α → Except (Obstacle ε) α
  | .ok a => .ok a
  | .error s => .error (.name s)

/-- What comes second has to agree only where what comes first leads to. -/
theorem strictly_bind {x : Except (Stopped ε) α} {f : α → Except (Obstacle ε) β}
    {g : α → Except (Stopped ε) β} (h : ∀ a, x = .ok a → f a = strictly (g a)) :
    (strictly x >>= f) = strictly (x >>= g) := by
  cases x with
  | error s => rfl
  | ok a => exact h a rfl

end

namespace Strict

/-! ## Parts of the constructs -/

section

variable {ε : Type}

/-- The block of a line. -/
def block (w : Walk) (line : Int) : Except (Obstacle ε) Block := need (w.graph.get? (.line line))

/-- Links two lines. -/
def link (w : Walk) (source target : Int) : Except (Obstacle ε) Walk := do
  let _ ← block w source
  let b ← block w target
  return { w with graph := w.graph.modify (.line source) (·.addEdge b.key (.line target)) }

/-- Links a line to a target if there is one. -/
def linkTo (w : Walk) (source : Int) (target : Option Int) : Except (Obstacle ε) Walk :=
  guarded target (.ok w) (link w source)

/-- Links a line from a source if there is one. -/
def linkFrom (w : Walk) (source : Option Int) (target : Int) : Except (Obstacle ε) Walk :=
  guarded source (.ok w) (link w · target)

/-- Whether some edge of the block leads to a block of the kind. -/
def leadsToKind (w : Walk) (b : Block) (kind : BlockKind) : Except (Obstacle ε) Bool := do
  let targets ← b.edges.mapM fun e => need (w.graph.get? e.target)
  return targets.any (·.kind == kind)

/-- A return. -/
def enterReturn (w : Walk) (line : Int) : Except (Obstacle ε) Walk :=
  linkFrom ((w.add line .returnStatement).aimAt (some line)) w.scope.switchHeader line

/-- Where the false path of an if starts, and where it ends if an alternative says so. -/
def falsePath (n : Node) : Except (Obstacle ε) (Int × Option Int) :=
  guarded (n.child? .alternative)
    (guarded (n.child? .consequence) (.ok (n.endLine, none)) fun c => .ok (c.endLine, none))
    fun a => .ok (a.startLine, some a.endLine)

/-- The three blocks of an if. -/
def enterCond (w : Walk) (line elseLine elseEnd : Int) : Except (Obstacle ε) Walk :=
  link (((w.add line .ifCondition).add elseLine .elseCondition).add elseEnd .elseBody) line elseEnd

/-- The false path of an if goes on to the return target. -/
def leaveCond (w : Walk) (elseLine elseEnd : Int) : Except (Obstacle ε) Walk := do
  let v ← linkTo w elseLine w.scope.returnTarget
  linkTo v elseEnd w.scope.returnTarget

/-- The header of a loop. -/
def enterLoop (w : Walk) (line : Int) : Except (Obstacle ε) Walk := do
  let w ← linkTo (w.add line .forStatement) line w.scope.returnTarget
  return { w with scope := { w.scope with returnTarget := some line, loopHeader := some line } }

/-- The edge back to the header of a loop, from the block registered last. -/
def turnBack (w : Walk) (first : Int) : Except (Obstacle ε) Walk := do
  let tail ← need w.graph.newest
  let w := { w with scope := { w.scope with loopTail := some tail } }
  let marker ← block w tail
  if marker.kind = .returnStatement then .ok w else link w tail first

/-- The end of a loop. -/
def leaveLoop (w : Walk) (first last : Int) (outer : Scope) : Except (Obstacle ε) Walk := do
  let w := w.aimAt outer.returnTarget
  let header ← block w first
  let w ← turnBack
    (if w.graph.newest = some first ∧ header.kind = .forStatement then w.add last .forBody else w)
    first
  return { w with scope := { w.scope with
    loopHeader := outer.loopHeader, loopTail := outer.loopTail } }

/-- The block of a switch or select. -/
def enterChoice (w : Walk) (form : Choice) (line : Int) : Except (Obstacle ε) Walk := do
  let v ← linkFrom (w.add line form.kind) w.scope.loopHeader line
  let v ← linkTo v line w.scope.loopHeader
  let v ← linkTo v line (if form.linksReturn then w.scope.returnTarget else none)
  return { v with scope := { v.scope with switchHeader := some line } }

/-- Line and kind of the block of a clause. -/
def clauseEntry (form : Choice) (k : Node) : Except (Obstacle ε) (Int × BlockKind) :=
  guarded (k.clauseBody.find? fun s => (Outline.lentKind? s).isSome)
    (do
      let last ← if k.clauseBody.isEmpty then .ok k else need k.clauseBody.getLast?
      return (last.endLine, form.clauseKind))
    fun s => do return (s.startLine, ← need (Outline.lentKind? s))

/-- The block of a clause. -/
def enterClause (w : Walk) (line : Int) (kind : BlockKind) : Except (Obstacle ε) Walk := do
  let v ← linkTo (w.add line kind) line w.scope.loopHeader
  let v ← linkFrom v w.scope.switchHeader line
  linkTo v line w.scope.returnTarget

/-- The edge that leaves a clause. -/
def exitClause (w : Walk) (line : Int) : Except (Obstacle ε) Walk := do
  let clause ← block w line
  if clause.kind = .returnStatement ∨ clause.kind = .switchStatement then .ok w
  else if ← leadsToKind w clause .forStatement then .ok w
  else linkTo w line w.scope.returnTarget

/-- The end of a clause. -/
def leaveClause (w : Walk) (line : Int) (outer : Scope) : Except (Obstacle ε) Walk :=
  exitClause { w with scope := { w.scope with
    switchHeader := outer.switchHeader, returnTarget := outer.returnTarget } } line

end

/-! ## The walk itself -/

section

variable {ε : Type} (decode : List UInt8 → Except ε String)
variable (arm : Node → Walk → Except (Obstacle ε) Walk)

/-- The name of a declaration; a missing one is empty, and so is one without a text. -/
def nameOf (n : Node) (w : Walk) : Except (Obstacle ε) String :=
  guarded (n.child? .name) (.ok "") fun name =>
    guarded name.head.text (.ok "") fun text => strictly (Walk.decodeName decode w (some text))

/-- Walks the clauses of a switch or select from left to right. -/
def visitClauses (form : Choice) (ks : List Node) (w : Walk) : Except (Obstacle ε) Walk :=
  ks.foldlM (fun w k => do
    let entry ← clauseEntry form k
    let outer := w.scope
    let w ← enterClause w entry.1 entry.2
    let w ← visitRow arm k.clauseBody w
    leaveClause w entry.1 outer) w

/-- Walks a declaration. -/
def visitFunction (n : Node) (w : Walk) : Except (Obstacle ε) Walk := do
  let name ← nameOf decode n w
  guarded (n.child? .body)
    (.ok { w.enterFunction name n.startLine none with scope := w.scope }) fun body => do
      let returns := Outline.returnLines body
      let inner := (w.enterFunction name n.startLine (some n.endLine)).foresee returns n.endLine
      let inner ← visitRow arm body.statements inner
      return (inner.closeOn returns n.endLine).leaveFunction name n.startLine w.scope

/-- Walks an if. -/
def visitCond (n : Node) (w : Walk) : Except (Obstacle ε) Walk := do
  let path ← falsePath n
  let elseEnd := Walk.falseEnd w.scope path.1 path.2
  let w ← enterCond w n.startLine path.1 elseEnd
  let w ← visitRow arm (n.statementsUnder .consequence) w
  let w ← leaveCond w path.1 elseEnd
  let w ← guarded (n.child? .initializer) (.ok w) fun c => loopInside arm c w
  let w ← guarded (n.child? .condition) (.ok w) fun c => loopInside arm c w
  guarded (n.child? .alternative) (.ok w) fun a => visitRow arm [a] w

/-- Walks a for. -/
def visitLoop (n : Node) (w : Walk) : Except (Obstacle ε) Walk := do
  let outer := w.scope
  let w ← visitRow arm n.headerParts w
  let w ← enterLoop (w.aimAt outer.returnTarget) n.startLine
  let w ← visitRow arm (n.statementsUnder .body) w
  leaveLoop w n.startLine n.endLine outer

/-- Walks a switch or select. -/
def visitChoice (form : Choice) (n : Node) (w : Walk) : Except (Obstacle ε) Walk := do
  let outer := w.scope
  let w ← visitRow arm n.headerParts w
  let w ← enterChoice (w.aimAt outer.returnTarget) form n.startLine
  let w ← visitClauses arm form n.clauses w
  return { w with scope := { w.scope with switchHeader := outer.switchHeader } }

/-- Walks a construct. The constructs further in are left to the arm. -/
def construct (n : Node) (w : Walk) : Except (Obstacle ε) Walk :=
  if n.label.isFunction then visitFunction decode arm n w
  else if n.label = .returnStatement then do loopInside arm n (← enterReturn w n.startLine)
  else if n.label = .goStatement then loopInside arm n (w.add n.startLine .goStatement)
  else if n.label = .ifStatement then visitCond arm n w
  else if n.label = .forStatement then visitLoop arm n w
  else n.label.choice?.elim (.ok w) fun form => visitChoice arm form n w

/-- Walks constructs that nest up to some depth. Deeper ones count as missing. -/
def nested : Nat → Node → Walk → Except (Obstacle ε) Walk
  | 0 => fun _ _ => .error .absent
  | depth + 1 => construct decode (nested depth)

/-- Builds the graph of a tree on top of the blocks of `start`. -/
def build (root : Node) (start : Graph) : Except (Obstacle ε) Build := do
  let w ← loopInside (nested decode root.depth) root { graph := start }
  return w.finish

end

/-! ## What is asked for is there -/

section

variable {ε : Type} {w : Walk}

theorem block_eq {l : Int} {b : Block} (h : w.graph.get? (.line l) = some b) :
    block w l = (.ok b : Except (Obstacle ε) Block) := by
  rw [block, h]
  rfl

/-- A link between registered lines is made. -/
theorem link_eq {s t : Int} (hs : w.graph.contains s) (ht : w.graph.contains t) :
    link w s t = (.ok (w.link s t) : Except (Obstacle ε) Walk) := by
  obtain ⟨b, hb⟩ := Graph.contains_iff.1 hs
  obtain ⟨c, hc⟩ := Graph.contains_iff.1 ht
  rw [link, block_eq hb, ok_bind, block_eq hc, ok_bind, Walk.link, Graph.link, hc]
  rfl

theorem linkTo_eq {s : Int} {t : Option Int} (h : w.graph.AdmitsAll (linksTo s t)) :
    linkTo w s t = (.ok (w.linkTo s t) : Except (Obstacle ε) Walk) := by
  rw [linkTo, guarded_eq]
  cases t with
  | none => rfl
  | some t => exact link_eq h.1.1 h.1.2

theorem linkFrom_eq {s : Option Int} {t : Int} (h : w.graph.AdmitsAll (linksFrom s t)) :
    linkFrom w s t = (.ok (w.linkFrom s t) : Except (Obstacle ε) Walk) := by
  rw [linkFrom, guarded_eq]
  cases s with
  | none => rfl
  | some s => exact link_eq h.1.1 h.1.2

theorem enterReturn_eq {line : Int} (h : w.graph.AdmitsAll (Walk.returnChanges w.scope line)) :
    enterReturn w line = (.ok (w.enterReturn line) : Except (Obstacle ε) Walk) :=
  linkFrom_eq h.2

theorem falsePath_eq (n : Node) :
    falsePath n = (.ok (Outline.falsePath n) : Except (Obstacle ε) (Int × Option Int)) := by
  rw [falsePath, guarded_eq, guarded_eq, Outline.falsePath]
  cases n.child? .alternative with
  | some a => rfl
  | none => cases n.child? .consequence <;> rfl

theorem enterCond_eq (w : Walk) (line elseLine elseEnd : Int) :
    enterCond w line elseLine elseEnd
      = (.ok (w.enterCond line elseLine elseEnd) : Except (Obstacle ε) Walk) := by
  refine link_eq ?_ ?_ <;> simp [Walk.add, Graph.contains_register]

theorem leaveCond_eq {elseLine elseEnd : Int}
    (h : w.graph.AdmitsAll (Walk.falsePathChanges w.scope elseLine elseEnd)) :
    leaveCond w elseLine elseEnd
      = (.ok (w.leaveCond elseLine elseEnd) : Except (Obstacle ε) Walk) := by
  obtain ⟨hline, hend⟩ := (Graph.admitsAll_append _ _ _).1 h
  rw [← Walk.graph_linkTo] at hend
  rw [leaveCond, linkTo_eq hline, ok_bind, linkTo_eq hend, Walk.leaveCond]

theorem enterLoop_eq {line : Int} (h : w.graph.AdmitsAll (Walk.loopChanges w.scope line)) :
    enterLoop w line = (.ok (w.enterLoop line) : Except (Obstacle ε) Walk) := by
  rw [enterLoop, linkTo_eq h.2, ok_bind]
  rfl

/-- The kind of a block that is there. -/
theorem kindAt_eq {l : Int} {b : Block} (h : w.graph.get? (.line l) = some b) :
    w.kindAt l = some b.kind := by
  rw [Walk.kindAt, Graph.kind?, h]
  rfl

theorem turnBack_eq {tail first : Int} (hnewest : w.graph.newest = some tail)
    (htail : w.graph.contains tail) (hfirst : w.graph.contains first) :
    turnBack w first
      = (.ok (let tail := w.graph.newest.getD first
          let v := { w with scope := { w.scope with loopTail := some tail } }
          if v.kindAt tail = some .returnStatement then v else v.link tail first) :
        Except (Obstacle ε) Walk) := by
  obtain ⟨marker, hmarker⟩ := Graph.contains_iff.1 htail
  rw [turnBack, hnewest]
  show (block { w with scope := { w.scope with loopTail := some tail } } tail >>= _)
    = Except.ok (if w.kindAt tail = some .returnStatement then _ else _)
  rw [block_eq (w := { w with scope := { w.scope with loopTail := some tail } }) hmarker, ok_bind,
    kindAt_eq hmarker]
  by_cases hreturn : marker.kind = .returnStatement
  · rw [if_pos hreturn, if_pos (congrArg some hreturn)]
    rfl
  · rw [if_neg hreturn, if_neg fun h => hreturn (Option.some.inj h)]
    exact link_eq htail hfirst

/-- At the end of a loop there is a block registered last, as the header was registered before. -/
theorem exists_newest {g : Graph} {cs : List Change} {first : Int} (hw : w.graph = g.replay cs)
    (hfirst : first ∈ registeredBy cs) (last : Int) :
    ∃ tail, ∀ v, v = (if w.graph.newest = some first ∧ w.kindAt first = some .forStatement then
        w.add last .forBody else w) →
      v.graph.newest = some tail ∧ v.graph.contains tail ∧ v.graph.contains first := by
  have hcontains : ∀ {l}, l ∈ registeredBy cs → w.graph.contains l :=
    fun hl => hw ▸ Graph.contains_replay_of_mem hl g
  split
  · refine ⟨last, ?_⟩
    rintro v rfl
    simp [Walk.add, Graph.contains_register, hcontains hfirst]
  · obtain ⟨tail, htail, hnewest⟩ := Graph.newest_replay_mem (g := g) hfirst
    refine ⟨tail, ?_⟩
    rintro v rfl
    exact ⟨hw ▸ hnewest, hcontains htail, hcontains hfirst⟩

/-- A loop that is left has a newest block, since its header was registered. -/
theorem leaveLoop_eq {g : Graph} {cs : List Change} {first : Int} (hw : w.graph = g.replay cs)
    (hfirst : first ∈ registeredBy cs) (last : Int) (outer : Scope) :
    leaveLoop w first last outer
      = (.ok (w.leaveLoop first last outer) : Except (Obstacle ε) Walk) := by
  obtain ⟨header, hheader⟩ := Graph.contains_iff.1 (hw ▸ Graph.contains_replay_of_mem hfirst g)
  have hkind := kindAt_eq (w := w.aimAt outer.returnTarget) hheader
  obtain ⟨tail, hbody⟩ := exists_newest (w := w.aimAt outer.returnTarget) hw hfirst last
  obtain ⟨hnewest, htail, hfirst⟩ := hbody _ rfl
  have hcond : header.kind = .forStatement
      ↔ (w.aimAt outer.returnTarget).kindAt first = some .forStatement := by
    rw [hkind, Option.some.injEq]
  rw [leaveLoop, block_eq (w := w.aimAt outer.returnTarget) hheader, ok_bind,
    if_congr (and_congr_right fun _ => hcond) rfl rfl, turnBack_eq hnewest htail hfirst]
  rfl

/-- The edges of a sound block lead to blocks that are there. -/
theorem leadsToKind_eq {l : Int} {b : Block} (hw : w.graph.Sound)
    (hb : w.graph.get? (.line l) = some b) (kind : BlockKind) :
    leadsToKind w b kind
      = (.ok (w.graph.hasSuccessorOfKind (.line l) kind) : Except (Obstacle ε) Bool) := by
  have htargets : ∀ e ∈ b.edges, (w.graph.get? e.target).isSome := by
    intro e he
    obtain ⟨htarget, hcontains⟩ := (hw.block hb).edges e he
    rw [htarget]
    exact hcontains
  have hsuccessors : w.graph.successors (.line l) = b.edges.map Edge.target := by
    rw [Graph.successors, hb, Option.elim_some]
  rw [leadsToKind, mapM_need htargets, ok_bind, Graph.hasSuccessorOfKind, hsuccessors,
    List.any_filterMap, List.any_map]
  refine congrArg (fun p => Except.ok (b.edges.any p)) (funext fun e => ?_)
  rw [Function.comp_apply, Graph.kind?]
  cases w.graph.get? e.target <;> rfl

theorem clauseEntry_eq (form : Choice) (k : Node) :
    clauseEntry form k
      = (.ok (Outline.clauseEntry form k) : Except (Obstacle ε) (Int × BlockKind)) := by
  rw [clauseEntry, guarded_eq, Outline.clauseEntry]
  cases hfind : k.clauseBody.find? fun s => (Outline.lentKind? s).isSome with
  | none =>
    have hnone : (k.clauseBody.findSome? fun s => (Outline.lentKind? s).map (s.startLine, ·))
        = none := by
      rw [List.findSome?_eq_none_iff]
      intro s hs
      simpa using List.find?_eq_none.1 hfind s hs
    rw [hnone, Option.elim_none]
    by_cases hbody : k.clauseBody = []
    · simp [hbody]
    · have hlast := List.getLast?_eq_some_getLast hbody
      simp [hbody, hlast, need]
  | some s =>
    obtain ⟨hs, before, after, hbody, hbefore⟩ := List.find?_eq_some_iff_append.1 hfind
    obtain ⟨kind, hkind⟩ := Option.isSome_iff_exists.1 hs
    have hsome : (k.clauseBody.findSome? fun s => (Outline.lentKind? s).map (s.startLine, ·))
        = some (s.startLine, kind) := by
      rw [List.findSome?_eq_some_iff]
      refine ⟨before, s, after, hbody, by rw [hkind]; rfl, fun t ht => ?_⟩
      simpa using hbefore t ht
    rw [hsome, Option.elim_some, hkind]
    rfl

theorem enterChoice_eq {form : Choice} {line : Int}
    (h : w.graph.AdmitsAll (Walk.choiceChanges w.scope form line)) :
    enterChoice w form line = (.ok (w.enterChoice form line) : Except (Obstacle ε) Walk) := by
  obtain ⟨-, h⟩ := h
  simp only [Graph.admitsAll_append] at h
  obtain ⟨⟨hfrom, hto⟩, hreturn⟩ := h
  rw [← Walk.graph_add, ← Walk.graph_linkFrom] at hto
  rw [Graph.replay_append, ← Walk.graph_add, ← Walk.graph_linkFrom, ← Walk.graph_linkTo] at hreturn
  have hlinks : (if form.linksReturn then linksTo line w.scope.returnTarget else [])
      = linksTo line (if form.linksReturn then w.scope.returnTarget else none) := by
    split <;> rfl
  rw [hlinks] at hreturn
  rw [enterChoice, linkFrom_eq (w := w.add line form.kind) hfrom, ok_bind, linkTo_eq hto, ok_bind,
    linkTo_eq hreturn, ok_bind]
  have hmodel : ∀ v : Walk, v.scope = w.scope →
      (if form.linksReturn then v.linkTo line v.scope.returnTarget else v)
        = v.linkTo line (if form.linksReturn then w.scope.returnTarget else none) := by
    intro v hv
    rw [hv]
    split <;> rfl
  have hscope : (((w.add line form.kind).linkFrom w.scope.loopHeader line).linkTo line
      w.scope.loopHeader).scope = w.scope := by
    rw [Walk.scope_linkTo, Walk.scope_linkFrom, Walk.scope_add]
  unfold Walk.enterChoice
  simp only [Walk.scope_add, hmodel _ hscope]
  rfl

theorem enterClause_eq {line : Int} {kind : BlockKind}
    (h : w.graph.AdmitsAll (Walk.clauseChanges w.scope line kind)) :
    enterClause w line kind = (.ok (w.enterClause line kind) : Except (Obstacle ε) Walk) := by
  obtain ⟨-, h⟩ := h
  simp only [Graph.admitsAll_append] at h
  obtain ⟨⟨hloop, hfrom⟩, hreturn⟩ := h
  rw [← Walk.graph_add, ← Walk.graph_linkTo] at hfrom
  rw [Graph.replay_append, ← Walk.graph_add, ← Walk.graph_linkTo, ← Walk.graph_linkFrom] at hreturn
  rw [enterClause, linkTo_eq (w := w.add line kind) hloop, ok_bind, linkFrom_eq hfrom, ok_bind,
    linkTo_eq hreturn]
  simp [Walk.enterClause]

/-- The block of a clause is there when the clause is left, so that its kind and its edges can be
looked at. -/
theorem exitClause_eq {line : Int} (hw : w.graph.Sound) (hline : w.graph.contains line)
    (h : w.graph.AdmitsAll (linksTo line w.scope.returnTarget)) :
    exitClause w line
      = (.ok (
          if w.kindAt line = some .returnStatement ∨ w.kindAt line = some .switchStatement then w
          else if w.graph.hasSuccessorOfKind (.line line) .forStatement then w
          else w.linkTo line w.scope.returnTarget) : Except (Obstacle ε) Walk) := by
  obtain ⟨clause, hclause⟩ := Graph.contains_iff.1 hline
  rw [exitClause, block_eq hclause, ok_bind, kindAt_eq hclause]
  by_cases hkind : clause.kind = .returnStatement ∨ clause.kind = .switchStatement
  · rw [if_pos hkind, if_pos (by simpa using hkind)]
  · rw [if_neg hkind, if_neg (by simpa using hkind), leadsToKind_eq hw hclause, ok_bind]
    split
    · rfl
    · exact linkTo_eq h

theorem leaveClause_eq {line : Int} {outer : Scope} (hw : w.graph.Sound)
    (hline : w.graph.contains line) (houter : ∀ l ∈ outer.returnTarget, w.graph.contains l) :
    leaveClause w line outer = (.ok (w.leaveClause line outer) : Except (Obstacle ε) Walk) := by
  refine exitClause_eq hw hline (Graph.admitsAll_links fun c hc => ?_)
  obtain ⟨m, hm, rfl⟩ := mem_linksTo.1 hc
  exact ⟨line, m, rfl, hline, houter m hm⟩

end

end Strict

/-! ## What holds all along a walk -/

/-- The scope refers back to registered lines, and the edges of registered blocks lead to such. -/
structure Walk.Safe (w : Walk) : Prop where
  anchored : w.Anchored
  sound : w.graph.Sound

section

variable {ε : Type} {decode : List UInt8 → Except ε String} {w w' : Walk} {cs : List Change}

/-- Admitted changes keep a walk safe. -/
theorem Walk.Safe.of_admitted (hw : w.Safe) (hgraph : w'.graph = w.graph.replay cs)
    (h : w.graph.AdmitsAll cs ∧ w'.Anchored) : w'.Safe :=
  ⟨h.2, hgraph ▸ hw.sound.replay h.1⟩

/-- **A visit keeps a walk safe.** -/
theorem Visits.safe {v : Visit} (h : Visits decode v w cs w') (hw : w.Safe) : w'.Safe :=
  hw.of_admitted h.graph_eq (h.admitted hw.anchored)

/-- Putting the return target back keeps a walk safe. -/
theorem Visits.safe_aimAt {v : Visit} (h : Visits decode v w cs w') (hw : w.Safe) :
    (w'.aimAt w.scope.returnTarget).Safe :=
  ⟨h.anchored_aimAt hw.anchored, (h.safe hw).sound⟩

end

/-! ## The strict walk ends as the walk does -/

section

variable {ε : Type} {decode : List UInt8 → Except ε String}
variable {arm : Node → Walk → Except (Obstacle ε) Walk} {n : Node} {ns : List Node}

/-- The arm does at a construct what the walk does, as long as the walk is safe. -/
def Strict.Agrees (decode : List UInt8 → Except ε String)
    (arm : Node → Walk → Except (Obstacle ε) Walk) (n : Node) : Prop :=
  n.label.isConstruct → ∀ w : Walk, w.Safe →
    arm n w = strictly (Walk.items decode (Outline.ofNode n) w)

namespace Strict

theorem row_eq_of_walk
    (h : ∀ n ∈ ns, ∀ w : Walk, w.Safe →
      (descent arm).walk n w = strictly (Walk.items decode (Outline.ofNode n) w)) :
    ∀ w : Walk, w.Safe →
      (descent arm).row ns w = strictly (Walk.items decode (Outline.ofNodes ns) w) := by
  induction ns with
  | nil =>
    intro w _
    rw [Outline.ofNodes_nil, Walk.items]
    rfl
  | cons n rest ih =>
    intro w hw
    rw [Traversal.row_cons, Outline.ofNodes_cons, items_append, h n List.mem_cons_self w hw]
    refine strictly_bind fun w₁ hw₁ => ?_
    obtain ⟨cs, hcs⟩ := Visits.exists_node n hw₁
    exact ih (fun m hm => h m (List.mem_cons_of_mem n hm)) w₁ (hcs.safe hw)

/-- By induction on the size of the node: what it goes on to is smaller. -/
theorem walk_descent_eq (h : ∀ s ∈ n.nodes, Agrees decode arm s) :
    ∀ w : Walk, w.Safe →
      (descent arm).walk n w = strictly (Walk.items decode (Outline.ofNode n) w) := by
  induction hsize : sizeOf n using Nat.strongRecOn generalizing n with
  | ind _ ih =>
    subst hsize
    intro w hw
    rw [walk_descent]
    by_cases hlabel : n.label.isConstruct
    · rw [if_pos hlabel]
      exact h n n.mem_nodes_self hlabel w hw
    · rw [if_neg hlabel, Outline.ofNode_other (by simpa using hlabel)]
      refine row_eq_of_walk (fun c hc => ?_) w hw
      have hc' := (List.mem_filter.1 hc).1
      exact ih _ (Node.sizeOf_lt_of_mem hc') (fun s hs => h s (Node.mem_nodes_of_child hc' hs)) rfl

/-- **Between constructs**, the strict walk is the walk. -/
theorem row_descent_eq (h : ∀ s ∈ Node.nodesIn ns, Agrees decode arm s) {w : Walk} (hw : w.Safe) :
    (descent arm).row ns w = strictly (Walk.items decode (Outline.ofNodes ns) w) :=
  row_eq_of_walk
    (fun _ hn => walk_descent_eq fun s hs => h s (Node.mem_nodesIn.2 ⟨_, hn, hs⟩)) w hw

section

-- the arm agrees with the walk at all constructs further in
variable (h : ∀ s ∈ Node.nodesIn n.children, Agrees decode arm s) {w : Walk} (hw : w.Safe)

include h hw

/-- A row that the walk goes on to from a construct. -/
theorem row_eq (hns : ns ⊆ n.onward) :
    (descent arm).row ns w = strictly (Walk.items decode (Outline.ofNodes ns) w) := by
  refine row_descent_eq (fun s hs => h s ?_) hw
  exact (Node.hereditary_nodesIn n.children).nodesIn
    (fun c hc => Node.mem_nodesIn_of_mem_onward (hns hc)) hs

theorem visitRow_eq (hns : ns ⊆ n.onward) :
    visitRow arm ns w = strictly (Walk.items decode (Outline.ofNodes ns) w) := by
  rw [GoFlow.visitRow_eq, row_eq h hw hns]

theorem loopUnder_eq {f : Field} (hns : n.namedUnder f ⊆ n.onward) :
    guarded (n.child? f) (.ok w) (fun c => loopInside arm c w)
      = strictly (Walk.items decode (Outline.ofNodes (n.namedUnder f)) w) := by
  rw [← row_eq h hw hns, guarded_eq, Node.namedUnder]
  cases n.child? f with
  | none => rfl
  | some c => exact loopInside_eq arm c w

/-- **A declaration** has its parts looked up, and none that it needs is missing. -/
theorem visitFunction_eq (label : n.label.isFunction) :
    visitFunction decode arm n w = strictly (Walk.items decode (Outline.ofNode n) w) := by
  have hname : nameOf decode n w = strictly (Walk.decodeName decode w (Outline.nameText n)) := by
    rw [nameOf, guarded_eq, Outline.nameText]
    cases n.child? .name with
    | none => rfl
    | some name =>
      rw [Option.elim_some, guarded_eq]
      show _ = strictly (Walk.decodeName decode w name.head.text)
      cases name.head.text <;> rfl
  rw [visitFunction, hname]
  cases hbody : n.child? .body with
  | none =>
    rw [Outline.ofNode_prototype label hbody, items_singleton, Walk.item]
    exact strictly_bind fun name _ => rfl
  | some body =>
    have honward : body.statements ⊆ n.onward := by
      rw [Node.onward_function label, Node.statementsUnder, hbody, Node.statementsOf_some]
      exact List.Subset.refl _
    rw [Outline.ofNode_function label hbody, items_singleton, Walk.item]
    refine strictly_bind fun name _ => ?_
    have hinner : ((w.enterFunction name n.startLine (some n.endLine)).foresee
        (Outline.returnLines body) n.endLine).Safe :=
      hw.of_admitted (Walk.graph_foresee_enterFunction w name _ _ _)
        ⟨⟨rfl, Walk.foresee_admitted _ _ _ _⟩, Walk.anchored_foresee w name _ _ _⟩
    rw [guarded_eq, Option.elim_some]
    show (visitRow arm body.statements _ >>= _) = _
    rw [visitRow_eq h hinner honward]
    exact strictly_bind fun w₁ _ => rfl

/-- **An if** is visited as its outline is walked. -/
theorem visitCond_eq (label : n.label = .ifStatement) :
    visitCond arm n w = strictly (Walk.items decode (Outline.ofNode n) w) := by
  obtain ⟨hconsequence, hheader, halternative⟩ := Node.cond_subset_onward label
  obtain ⟨hinitializer, hcondition⟩ := List.append_subset.1 hheader
  have helse : Walk.falseEnd w.scope (Outline.falsePath n).1 (Outline.falsePath n).2
      = w.scope.elseEnd n := rfl
  have hw₀ := hw.of_admitted (Walk.graph_enterCond w n.startLine (Outline.falsePath n).1
    (w.scope.elseEnd n)) (Walk.enterCond_admitted hw.anchored _ _ _)
  rw [visitCond, falsePath_eq, ok_bind, Outline.ofNode_cond label, items_singleton, Walk.item]
  simp only [helse]
  rw [enterCond_eq, ok_bind, visitRow_eq h hw₀ hconsequence]
  refine strictly_bind fun w₁ h₁ => ?_
  obtain ⟨cs, hcs⟩ := visits_nodes_iff.2 h₁
  have hleave := hcs.leaveCond_admitted (hcs.safe hw₀).anchored
  have hw₁ := (hcs.safe hw₀).of_admitted (Walk.graph_leaveCond w₁ _ _) hleave
  rw [leaveCond_eq hleave.1, ok_bind, loopUnder_eq h hw₁ hinitializer, Outline.ofNodes_append,
    items_append, bind_assoc]
  refine strictly_bind fun w₂ h₂ => ?_
  obtain ⟨ds, hds⟩ := visits_nodes_iff.2 h₂
  rw [loopUnder_eq h (hds.safe hw₁) hcondition]
  refine strictly_bind fun w₃ h₃ => ?_
  obtain ⟨es, hes⟩ := visits_nodes_iff.2 h₃
  rw [← visitRow_eq h (hes.safe (hds.safe hw₁)) halternative, guarded_eq]
  cases n.child? .alternative <;> rfl

/-- **A loop** is visited as its outline is walked. -/
theorem visitLoop_eq (label : n.label = .forStatement) :
    visitLoop arm n w = strictly (Walk.items decode (Outline.ofNode n) w) := by
  obtain ⟨hheader, hbody⟩ := Node.loop_subset_onward label
  rw [visitLoop, visitRow_eq h hw hheader, Outline.ofNode_loop label, items_singleton, Walk.item]
  refine strictly_bind fun w₁ h₁ => ?_
  obtain ⟨cs, hcs⟩ := visits_nodes_iff.2 h₁
  have hw₁ := hcs.safe_aimAt hw
  have henter := Walk.enterLoop_admitted hw₁.anchored n.startLine
  have hw₁' := hw₁.of_admitted (Walk.graph_enterLoop _ _) henter
  rw [enterLoop_eq henter.1, ok_bind, visitRow_eq h hw₁' hbody]
  refine strictly_bind fun w₂ h₂ => ?_
  obtain ⟨ds, hds⟩ := visits_nodes_iff.2 h₂
  -- the header was registered in front of the body, so some block was registered last
  have hgraph : w₂.graph = w₁.graph.replay (Walk.loopChanges w.scope n.startLine ++ ds) := by
    rw [hds.graph_eq, hcs.graph_enterLoop, Graph.replay_append]
  rw [leaveLoop_eq hgraph (by simp [Walk.loopChanges])]
  rfl

theorem visitClauses_eq {form : Choice} {ks : List Node}
    (hks : ∀ k ∈ ks, k.clauseBody ⊆ n.onward) :
    visitClauses arm form ks w
      = strictly (Walk.clauses decode (ks.map (Outline.ofClause form)) w) := by
  induction ks generalizing w with
  | nil =>
    rw [List.map_nil, Walk.clauses]
    rfl
  | cons k ks ih =>
    have henter := Walk.enterClause_admitted hw.anchored (Outline.clauseEntry form k).1
      (BlockKind.isMarker_of_isPlain (clauseEntry_isPlain form k))
    have hw₀ := hw.of_admitted (Walk.graph_enterClause w _ _) henter
    rw [List.map_cons, Outline.ofClause, Walk.clauses]
    show (clauseEntry form k >>= _) >>= visitClauses arm form ks = _
    rw [clauseEntry_eq, ok_bind, enterClause_eq henter.1, ok_bind,
      visitRow_eq h hw₀ (hks k List.mem_cons_self), bind_assoc]
    refine strictly_bind fun w₁ h₁ => ?_
    obtain ⟨cs, hcs⟩ := visits_nodes_iff.2 h₁
    have hw₁ := hcs.safe hw₀
    have hleave := hcs.leaveClause_admitted hw.anchored hw₁.anchored
    -- the clause was registered in front of its body, and the return target in front of the clause
    have hline : w₁.graph.contains (Outline.clauseEntry form k).1 := hcs.contains_of (by
      rw [Walk.graph_enterClause]
      exact Graph.contains_replay_of_mem (by simp [Walk.clauseChanges]) _)
    have houter : ∀ l ∈ w.scope.returnTarget, w₁.graph.contains l := fun l hl => hcs.contains_of (by
      rw [Walk.graph_enterClause]
      exact Graph.contains_replay_of (hw.anchored.returnTarget l hl) _)
    rw [leaveClause_eq hw₁.sound hline houter, ok_bind]
    exact ih (hw₁.of_admitted (Walk.graph_leaveClause w₁ _ _) hleave)
      fun j hj => hks j (List.mem_cons_of_mem k hj)

/-- **A switch or select** is visited as its outline is walked. -/
theorem visitChoice_eq {form : Choice} (label : n.label.choice? = some form) :
    visitChoice arm form n w = strictly (Walk.items decode (Outline.ofNode n) w) := by
  obtain ⟨hheader, hclauses⟩ := Node.choice_subset_onward label
  rw [visitChoice, visitRow_eq h hw hheader, Outline.ofNode_choice label, items_singleton,
    Walk.item]
  refine strictly_bind fun w₁ h₁ => ?_
  obtain ⟨cs, hcs⟩ := visits_nodes_iff.2 h₁
  have hw₁ := hcs.safe_aimAt hw
  have henter := Walk.enterChoice_admitted hw₁.anchored form n.startLine
  have hw₁' := hw₁.of_admitted (Walk.graph_enterChoice _ _ _) henter
  rw [enterChoice_eq henter.1, ok_bind, visitClauses_eq h hw₁' hclauses]
  exact strictly_bind fun w₂ _ => rfl

/-- **At a construct**, the strict walk does what the walk does, if the arm does further in. -/
theorem construct_eq (hlabel : n.label.isConstruct) :
    construct decode arm n w = strictly (Walk.items decode (Outline.ofNode n) w) := by
  rw [construct]
  rcases n.label.construct_cases with
    plain | label | label | label | label | label | ⟨form, label⟩
  · rw [hlabel] at plain
    cases plain
  · rw [if_pos label, visitFunction_eq h hw label]
  · simp only [label, Label.isFunction, reduceCtorEq, if_false, if_true]
    have henter := Walk.enterReturn_admitted hw.anchored n.startLine
    have hw₁ := hw.of_admitted (Walk.graph_enterReturn w n.startLine) henter
    rw [enterReturn_eq henter.1, ok_bind, loopInside_eq, Outline.ofNode_ret label, items_singleton,
      Walk.item, ← Node.onward_other (.inr (.inl label)), row_eq h hw₁ (List.Subset.refl _)]
  · simp only [label, Label.isFunction, reduceCtorEq, if_false, if_true]
    have hgraph : (w.add n.startLine .goStatement).graph
        = w.graph.replay [.register n.startLine .goStatement w.scope.function] := rfl
    have hw₁ := hw.of_admitted hgraph ⟨⟨rfl, trivial⟩,
      hw.anchored.of_replay hgraph (fun _ => .inl) (fun _ => .inl) (fun _ => .inl)⟩
    rw [loopInside_eq, Outline.ofNode_spawn label, items_singleton, Walk.item,
      ← Node.onward_other (.inr (.inr label)), row_eq h hw₁ (List.Subset.refl _)]
  · simp only [label, Label.isFunction, reduceCtorEq, if_false, if_true]
    exact visitCond_eq h hw label
  · simp only [label, Label.isFunction, reduceCtorEq, if_false, if_true]
    exact visitLoop_eq h hw label
  · rw [label, Option.elim_some, visitChoice_eq h hw label]
    cases hl : n.label <;> simp_all [Label.choice?, Label.isFunction]

end

/-- The induction is on the depth: constructs further in nest less deep. -/
theorem nested_agrees {depth : Nat} :
    ∀ {n : Node}, n.depth ≤ depth → Agrees decode (nested decode depth) n := by
  induction depth with
  | zero =>
    intro n hn hlabel
    rw [n.depth_eq, if_pos hlabel] at hn
    omega
  | succ depth ih =>
    intro n hn hlabel w hw
    rw [n.depth_eq, if_pos hlabel] at hn
    exact construct_eq (fun s hs => ih (Node.depth_le_of_mem_nodesIn (by omega) hs)) hw hlabel

end Strict

end

/-- **Nothing is missing**: on top of a sound graph, a strict build ends as the build does, with the
same graph or at the same name. -/
theorem strict_build_eq {ε : Type} (decode : List UInt8 → Except ε String) (root : Node)
    {start : Graph} (hstart : start.Sound) :
    Strict.build decode root start = strictly (build decode root start) := by
  have hagrees : ∀ s ∈ Node.nodesIn root.named,
      Strict.Agrees decode (Strict.nested decode root.depth) s := by
    intro s hs
    obtain ⟨c, hc, hs⟩ := Node.mem_nodesIn.1 hs
    exact Strict.nested_agrees ((Node.hereditary_depth root.depth).nodes (Nat.le_refl _)
      (Node.mem_nodes_of_child (List.mem_filter.1 hc).1 hs))
  have hinside : Outline.inside root.children = Outline.ofNodes root.named :=
    Outline.inside_eq root.children
  have hsafe : ({ graph := start } : Walk).Safe := ⟨Walk.anchored_start start, hstart⟩
  rw [Strict.build, build, hinside, loopInside_eq, Strict.row_descent_eq hagrees hsafe]
  exact strictly_bind fun w _ => rfl

/-- **Builds fail at names only.** A build fails exactly if it comes to a declaration whose name
cannot be decoded, and it fails for the reason that the first such declaration on its way gives. If
it starts from blocks of earlier builds, it asks for nothing that is not there: a build that checks
each access ends in the same way. -/
theorem build_fails_iff_undecodable {ε : Type} (decode : List UInt8 → Except ε String)
    (root : Node) (start : Graph) :
    ((∃ s, build decode root start = .error s) ↔ ∃ n ∈ root.route, ∃ e, n.Undecodable decode e) ∧
      (∀ s, build decode root start = .error s → ∃ before n after,
        root.route = before ++ n :: after ∧ n.Undecodable decode s.cause ∧
          ∀ m ∈ before, ∀ e, ¬ m.Undecodable decode e) ∧
      (start.Grown → Strict.build decode root start = strictly (build decode root start)) := by
  have hcause : cause? (build decode root start) = root.route.findSome? (Node.nameFault? decode) :=
    cause?_build root start
  refine ⟨?_, fun s hs => ?_, fun hstart => strict_build_eq decode root hstart.sound⟩
  · constructor
    · rintro ⟨s, hs⟩
      rw [hs] at hcause
      obtain ⟨n, hn, hfault⟩ := List.exists_of_findSome?_eq_some hcause.symm
      exact ⟨n, hn, s.cause, Node.nameFault?_eq_some.1 hfault⟩
    · rintro ⟨n, hn, e, hfault⟩
      cases hbuild : build decode root start with
      | error s => exact ⟨s, rfl⟩
      | ok b =>
        rw [hbuild] at hcause
        have hnone := List.findSome?_eq_none_iff.1 hcause.symm n hn
        exact absurd hfault (Node.nameFault?_eq_none.1 hnone e)
  · rw [hs] at hcause
    obtain ⟨before, n, after, hroute, hfault, hbefore⟩ := List.findSome?_eq_some_iff.1 hcause.symm
    exact ⟨before, n, after, hroute, Node.nameFault?_eq_some.1 hfault,
      fun m hm => Node.nameFault?_eq_none.1 (hbefore m hm)⟩

/-- A declaration without a body on line 3, with a name of one byte. -/
def bareDeclaration (name : UInt8) : Node :=
  .mk { label := .methodDeclaration, span := { startRow := 2, endRow := 2 } } [
    .mk { label := .other "field_identifier", field := some .name, text := some [name] } []]

/-- A function with an if on lines 2 to 4. The condition, which comes first in the source, and the
consequence each hold a declaration, and neither name is UTF-8. -/
def garbledTree : Node :=
  .mk { label := .other "source_file" } [
    .mk { label := .functionDeclaration, span := { startRow := 0, endRow := 4 } } [
      .mk { label := .block, span := { startRow := 0, endRow := 4 }, field := some .body } [
        .mk { label := .ifStatement, span := { startRow := 1, endRow := 3 } } [
          .mk { label := .other "call_expression", field := some .condition } [
            bareDeclaration 0xFF],
          .mk { label := .block, span := { startRow := 1, endRow := 3 },
                field := some .consequence } [bareDeclaration 0xC3]]]]]

/-- The build fails at the declaration in the consequence, which the walk comes to first. -/
theorem build_fails_iff_undecodable_garbledTree :
    ({} : Graph).Grown ∧ ∃ s, build (decodeAs "utf-8") garbledTree {} = .error s ∧
      (bareDeclaration 0xC3).Undecodable (decodeAs "utf-8") s.cause ∧
      Strict.build (decodeAs "utf-8") garbledTree {} = .error (.name s) ∧
      ∃ before n after, garbledTree.route = before ++ n :: after ∧
        n.Undecodable (decodeAs "utf-8") s.cause ∧
          ∀ m ∈ before, ∀ e, ¬ m.Undecodable (decodeAs "utf-8") e := by
  obtain ⟨-, hfirst, hstrict⟩ := build_fails_iff_undecodable (decodeAs "utf-8") garbledTree {}
  have hbuild : ∃ s, build (decodeAs "utf-8") garbledTree {} = .error s ∧
      decodeAs "utf-8" [0xC3] = .error s.cause := ⟨_, rfl, rfl⟩
  obtain ⟨s, hs, hcause⟩ := hbuild
  have hgrown : ({} : Graph).Grown := .empty
  rw [hs] at hstrict
  exact ⟨hgrown, s, hs, ⟨rfl, _, _, rfl, rfl, hcause⟩, hstrict hgrown, hfirst s hs⟩

end GoFlow
