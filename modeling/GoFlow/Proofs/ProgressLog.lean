import GoFlow.Analysis
import GoFlow.Proofs.Integrity
import GoFlow.Proofs.Itinerary
import GoFlow.Proofs.Rendering
import Mathlib.Data.List.Perm.Basic

/-!
# The progress log

While a graph is built, every declaration with a body is reported as soon as its walk is complete,
with the number of blocks that there are by then. Lines are never given up, so these numbers do not
go down. Behind the reports come the end of the walk and the size of the graph.

- `Node.completions`: the declarations in the order in which the walk is done with them. They are
  those that the walk comes to, `Node.completions_perm`.
- `Reported`: what a report says, and when it is made.
- `Journal`: the reports of a stretch of the walk. Stretches in a row have their reports in a row,
  and `Visits.journal` has one for every visit.
- `Source.Logged`: all that is logged of a build.
-/

namespace GoFlow

/-! ## Declarations in the order of their completion -/

namespace Node

/-- Whether a node is a declaration with a body. -/
def hasBody (n : Node) : Bool := n.label.isFunction && (n.child? .body).isSome

/-- The declarations with a body that the walk comes to from a node, each behind those inside it. -/
def completions (n : Node) : List Node :=
  (n.onward.attach.flatMap fun c => c.1.completions) ++ if n.hasBody then [n] else []
termination_by sizeOf n
decreasing_by exact sizeOf_lt_of_mem_onward c.2

/-- A declaration is complete when all that is inside it is. -/
theorem completions_eq (n : Node) :
    n.completions = n.onward.flatMap completions ++ if n.hasBody then [n] else [] := by
  rw [completions]
  simp

/-- The declarations with a body that a build comes to, in the order of their completion. -/
def routeCompletions (root : Node) : List Node := root.named.flatMap completions

/-- The walk is done with each declaration once that it comes to. -/
theorem completions_perm (n : Node) : n.completions.Perm (n.itinerary.filter hasBody) := by
  induction hsize : sizeOf n using Nat.strongRecOn generalizing n with
  | ind _ ih =>
    subst hsize
    have hinside : (n.onward.flatMap completions).Perm
        ((n.onward.flatMap itinerary).filter hasBody) := by
      rw [List.filter_flatMap]
      exact List.Perm.flatMap_left _ fun c hc => ih _ (sizeOf_lt_of_mem_onward hc) c rfl
    have hself : n.itinerary.filter hasBody
        = (if n.hasBody then [n] else []) ++ (n.onward.flatMap itinerary).filter hasBody := by
      rw [itinerary_eq, List.filter_cons]
      split <;> rfl
    -- the itinerary has the node in front of what is inside it, the completions behind
    rw [completions_eq, hself]
    exact (hinside.append_right _).trans List.perm_append_comm

/-- The declarations that complete are those with bodies on the way of the walk. -/
theorem routeCompletions_perm (root : Node) :
    root.routeCompletions.Perm (root.route.filter hasBody) := by
  rw [route, List.filter_flatMap]
  exact List.Perm.flatMap_left _ fun n _ => n.completions_perm

variable {n : Node}

theorem completions_plain (label : n.label.isFunction = false) :
    n.completions = n.onward.flatMap completions := by
  rw [completions_eq, hasBody, label, Bool.false_and, if_neg Bool.false_ne_true, List.append_nil]

/-- A declaration without a body is never reported. -/
theorem completions_prototype (label : n.label.isFunction) (hbody : n.child? .body = none) :
    n.completions = [] := by
  rw [completions_eq, onward_function label, statementsUnder, hasBody, hbody]
  simp

/-- Those inside a body are reported before the declaration itself. -/
theorem completions_function {body : Node} (label : n.label.isFunction)
    (hbody : n.child? .body = some body) :
    n.completions = body.statements.flatMap completions ++ [n] := by
  rw [completions_eq, onward_function label, statementsUnder, hasBody, hbody, label]
  rfl

end Node

/-- The declarations that the walk is done with in a stretch, in order. -/
def Visit.completions : Visit → List Node
  | .node n => n.completions
  | .nodes ns => ns.flatMap Node.completions
  | .clauses _ ks => (ks.flatMap Node.clauseBody).flatMap Node.completions

/-! ## The parts of the constructs report nothing -/

namespace Walk

variable (w : Walk)

@[simp] theorem log_linkTo (s : Int) (t : Option Int) : (w.linkTo s t).log = w.log := by
  cases t <;> rfl

@[simp] theorem log_linkFrom (s : Option Int) (t : Int) : (w.linkFrom s t).log = w.log := by
  cases s <;> rfl

theorem log_foldl_expect (rs : List Int) : ∀ w : Walk, (rs.foldl expect w).log = w.log := by
  induction rs with
  | nil => exact fun w => rfl
  | cons r rs ih => exact fun w => ih (w.expect r)

/-- Nothing but the end of a function is reported. So it is for each of the steps below. -/
theorem log_foresee (returns : List Int) (last : Int) :
    (w.foresee returns last).log = w.log := by
  unfold foresee
  split
  · rfl
  · exact log_foldl_expect returns w

theorem log_closeOn (returns : List Int) (last : Int) :
    (w.closeOn returns last).log = w.log := by
  unfold closeOn
  split <;> rfl

theorem log_enterReturn (line : Int) : (w.enterReturn line).log = w.log := log_linkFrom _ _ _

theorem log_leaveCond (elseLine elseEnd : Int) : (w.leaveCond elseLine elseEnd).log = w.log := by
  rw [leaveCond, log_linkTo, log_linkTo]

theorem log_enterLoop (line : Int) : (w.enterLoop line).log = w.log := log_linkTo _ _ _

theorem log_leaveLoop (first last : Int) (outer : Scope) :
    (w.leaveLoop first last outer).log = w.log := by
  unfold leaveLoop
  simp only
  split <;> split <;> rfl

theorem log_enterChoice (form : Choice) (line : Int) : (w.enterChoice form line).log = w.log := by
  unfold enterChoice
  cases form.linksReturn <;> simp [add]

theorem log_enterClause (line : Int) (kind : BlockKind) :
    (w.enterClause line kind).log = w.log := by
  simp [enterClause, add]

theorem log_leaveClause (line : Int) (outer : Scope) : (w.leaveClause line outer).log = w.log := by
  unfold leaveClause
  simp only
  split
  · rfl
  · split
    · rfl
    · exact log_linkTo _ _ _

end Walk

/-! ## Blocks are never given up -/

namespace Graph

theorem size_eq (g : Graph) : g.size = g.registered.length := (List.length_map _).symm

/-- A change takes no blocks away. -/
theorem size_le_apply (g : Graph) (c : Change) : g.size ≤ (g.apply c).size := by
  rw [size_eq, size_eq]
  cases c with
  | register l kind owner =>
    rw [apply, registered_register]
    split
    · exact Nat.le_refl _
    · simp
  | link s t => rw [apply, registered_link]

theorem size_le_replay (cs : List Change) : ∀ g : Graph, g.size ≤ (g.replay cs).size := by
  induction cs with
  | nil => exact fun g => Nat.le_refl _
  | cons c cs ih => exact fun g => Nat.le_trans (g.size_le_apply c) (ih (g.apply c))

/-- The listing has as many blocks as the graph. -/
theorem length_listing (g : Graph) : g.listing.length = g.size := by
  rw [listing, sort, List.length_map, (sortByKey_perm _).length_eq, List.length_map,
    List.length_map]
  rfl

end Graph

/-! ## Reports -/

/-- Numbers that go up to one in the middle, and from there on, go up throughout. -/
theorem pairwise_through {a b c : Nat} {xs ys : List Nat}
    (h : (a :: (xs ++ [b])).Pairwise (· ≤ ·)) (h' : (b :: (ys ++ [c])).Pairwise (· ≤ ·)) :
    (a :: (xs ++ ys ++ [c])).Pairwise (· ≤ ·) := by
  simp only [List.pairwise_cons, List.pairwise_append, List.mem_append, List.mem_singleton]
    at h h' ⊢
  grind

section

variable {ε : Type} (decode : List UInt8 → Except ε String)

/-- What is reported on a declaration during a walk that starts from a graph and makes changes to
it: name and first line of the declaration, and the number of blocks that there are when the visit
to it is over. -/
structure Reported (g : Graph) (cs : List Change) (n : Node) (p : Progress) : Prop where
  named : Named decode (Outline.nameText n) p.function
  line : p.line = n.startLine
  blocks : ∃ pre own post u u', cs = pre ++ (own ++ post) ∧ u.graph = g.replay pre ∧
    Visits decode (.node n) u own u' ∧ p.blocks = u'.graph.size

/-- From one walk to another, changes are made and declarations are reported. -/
structure Journal (w : Walk) (cs : List Change) (done : List Node) (ps : List Progress)
    (w' : Walk) : Prop where
  log_eq : w'.log = w.log ++ ps
  graph_eq : w'.graph = w.graph.replay cs
  reported : List.Forall₂ (Reported decode w.graph cs) done ps
  ascending : (w.graph.size :: (ps.map Progress.blocks ++ [w'.graph.size])).Pairwise (· ≤ ·)

variable {decode}

/-- What is reported is not affected by what comes later. -/
theorem Reported.extend {g : Graph} {cs : List Change} {n : Node} {p : Progress}
    (h : Reported decode g cs n p) (ds : List Change) : Reported decode g (cs ++ ds) n p :=
  { h with
    blocks := by
      obtain ⟨pre, own, post, u, u', rfl, hu, hvisit, hblocks⟩ := h.blocks
      exact ⟨pre, own, post ++ ds, u, u', by simp, hu, hvisit, hblocks⟩ }

/-- What came before a report is counted in it. -/
theorem Reported.delay {g : Graph} {cs ds : List Change} {n : Node} {p : Progress}
    (h : Reported decode (g.replay cs) ds n p) : Reported decode g (cs ++ ds) n p :=
  { h with
    blocks := by
      obtain ⟨pre, own, post, u, u', rfl, hu, hvisit, hblocks⟩ := h.blocks
      exact ⟨cs ++ pre, own, post, u, u', by simp, by rw [hu, Graph.replay_append], hvisit,
        hblocks⟩ }

namespace Journal

variable {w w₁ w₂ : Walk} {cs ds : List Change} {done more : List Node} {ps qs : List Progress}

/-- Changes without reports. -/
theorem silent (hlog : w₁.log = w.log) (hgraph : w₁.graph = w.graph.replay cs) :
    Journal decode w cs [] [] w₁ where
  log_eq := by rw [hlog, List.append_nil]
  graph_eq := hgraph
  reported := .nil
  ascending := by simpa [hgraph] using w.graph.size_le_replay cs

/-- Reports of stretches in a row come in a row. -/
theorem append (h : Journal decode w cs done ps w₁) (h' : Journal decode w₁ ds more qs w₂) :
    Journal decode w (cs ++ ds) (done ++ more) (ps ++ qs) w₂ where
  log_eq := by rw [h'.log_eq, h.log_eq, List.append_assoc]
  graph_eq := by rw [h'.graph_eq, h.graph_eq, Graph.replay_append]
  reported := by
    have hlater := h'.reported
    rw [h.graph_eq] at hlater
    exact List.rel_append (h.reported.imp fun _ _ hp => hp.extend ds)
      (hlater.imp fun _ _ hp => hp.delay)
  ascending := by
    rw [List.map_append]
    exact pairwise_through h.ascending h'.ascending

/-- Silent changes may come before the reports of a stretch. -/
theorem after (h : Journal decode w₁ ds done ps w₂) (hlog : w₁.log = w.log)
    (hgraph : w₁.graph = w.graph.replay cs) : Journal decode w (cs ++ ds) done ps w₂ :=
  (silent hlog hgraph).append h

/-- They may come behind them. -/
theorem before (h : Journal decode w cs done ps w₁) (hlog : w₂.log = w₁.log)
    (hgraph : w₂.graph = w₁.graph.replay ds) : Journal decode w (cs ++ ds) done ps w₂ := by
  have hsilent := h.append (silent hlog hgraph)
  rwa [List.append_nil, List.append_nil] at hsilent

/-- A function that is left is reported behind all others, with the blocks that there are. -/
theorem leaveFunction (h : Journal decode w cs done ps w₁) {n : Node} {name : String}
    {outer : Scope} (named : Named decode (Outline.nameText n) name)
    (hvisit : Visits decode (.node n) w cs (w₁.leaveFunction name n.startLine outer)) :
    ∃ p, Journal decode w cs (done ++ [n]) (ps ++ [p])
      (w₁.leaveFunction name n.startLine outer) := by
  have hp : Reported decode w.graph cs n ⟨name, n.startLine, w₁.graph.size⟩ :=
    ⟨named, rfl, [], cs, [], w, _, by simp, rfl, hvisit, rfl⟩
  refine ⟨⟨name, n.startLine, w₁.graph.size⟩, ?_, h.graph_eq, ?_, ?_⟩
  · show w₁.log ++ [_] = w.log ++ (ps ++ [_])
    rw [h.log_eq, List.append_assoc]
  · exact List.rel_append h.reported (.cons hp .nil)
  · rw [List.map_append]
    exact pairwise_through h.ascending (by simp)

end Journal

/-- **Every visit has its journal**: the declarations that the walk is done with are reported, and
no others. By induction on the rules; each construct is a row of stretches and silent parts. -/
theorem Visits.journal {v : Visit} {w w' : Walk} {cs : List Change} (h : Visits decode v w cs w') :
    ∃ ps, Journal decode w cs v.completions ps w' := by
  induction h with
  | @other n w cs w' label inside ih =>
    have hplain := Label.isFunction_of_not_construct label
    rw [Visit.completions, Node.completions_plain hplain, Node.onward_other (.inl label)]
    exact ih
  | @prototype n w name label hbody named =>
    rw [Visit.completions, Node.completions_prototype label hbody]
    exact ⟨[], .silent rfl rfl⟩
  | @function n w body name cs w' label hbody named inside ih =>
    obtain ⟨ps, hps⟩ := ih
    rw [Visit.completions, Node.completions_function label hbody]
    -- the last line is registered under the name that the body was entered with
    have hname := inside.function_eq
    rw [Walk.scope_foresee] at hname
    have hinside : Journal decode w _ (Visit.nodes body.statements).completions ps
        (w'.closeOn (Outline.returnLines body) n.endLine) :=
      (hps.before (Walk.log_closeOn _ _ _) (Walk.graph_closeOn _ _ _)).after
        (Walk.log_foresee _ _ _)
        (w.graph_foresee_enterFunction name n.startLine n.endLine (Outline.returnLines body))
    rw [hname] at hinside
    obtain ⟨p, hp⟩ := hinside.leaveFunction named (.function label hbody named inside)
    exact ⟨ps ++ [p], hp⟩
  | @ret n w cs w' label inside ih =>
    obtain ⟨ps, hps⟩ := ih
    rw [Visit.completions, Node.completions_plain (by rw [label]; rfl),
      Node.onward_other (.inr (.inl label))]
    exact ⟨ps, hps.after (w.log_enterReturn _) (w.graph_enterReturn _)⟩
  | @spawn n w cs w' label inside ih =>
    obtain ⟨ps, hps⟩ := ih
    rw [Visit.completions, Node.completions_plain (by rw [label]; rfl),
      Node.onward_other (.inr (.inr label)), ← List.singleton_append]
    exact ⟨ps, hps.after rfl rfl⟩
  | @cond n w cs w₁ ds w₂ es w₃ label consequence header alternative ih₁ ih₂ ih₃ =>
    obtain ⟨ps, hps⟩ := ih₁
    obtain ⟨qs, hqs⟩ := ih₂
    obtain ⟨rs, hrs⟩ := ih₃
    rw [Visit.completions, Node.completions_plain (by rw [label]; rfl), Node.onward_cond label,
      List.append_assoc, List.flatMap_append, List.flatMap_append]
    have hfalse := (hqs.append hrs).after (w₁.log_leaveCond _ _) (w₁.graph_leaveCond _ _)
    have hcond : Journal decode w _ _ (ps ++ (qs ++ rs)) w₃ :=
      (hps.append hfalse).after rfl (w.graph_enterCond _ _ _)
    exact ⟨_, hcond⟩
  | @loop n w cs w₁ ds w₂ label header body ih₁ ih₂ =>
    obtain ⟨ps, hps⟩ := ih₁
    obtain ⟨qs, hqs⟩ := ih₂
    rw [Visit.completions, Node.completions_plain (by rw [label]; rfl), Node.onward_loop label,
      List.flatMap_append]
    have hbody : Journal decode w₁ _ _ qs (w₂.leaveLoop n.startLine n.endLine w.scope) :=
      (hqs.before (w₂.log_leaveLoop _ _ _) (w₂.graph_leaveLoop _ _ _)).after
        (Walk.log_enterLoop _ _) (header.graph_enterLoop _)
    exact ⟨ps ++ qs, hps.append hbody⟩
  | @choice n form w cs w₁ ds w₂ label header parts ih₁ ih₂ =>
    obtain ⟨ps, hps⟩ := ih₁
    obtain ⟨qs, hqs⟩ := ih₂
    have hplain := Label.isFunction_of_choice label
    rw [Visit.completions, Node.completions_plain hplain, Node.onward_choice label,
      List.flatMap_append]
    -- what is put back behind the clauses is part of the scope
    have hparts : Journal decode w₁ _ _ qs
        ({ w₂ with scope := { w₂.scope with switchHeader := w.scope.switchHeader } } : Walk) :=
      Journal.after { hqs with } (Walk.log_enterChoice _ _ _) (header.graph_enterChoice _ _)
    exact ⟨ps ++ qs, hps.append hparts⟩
  | nil => exact ⟨[], .silent rfl rfl⟩
  | @cons n ns w cs w₁ ds w₂ first rest ih₁ ih₂ =>
    obtain ⟨ps, hps⟩ := ih₁
    obtain ⟨qs, hqs⟩ := ih₂
    exact ⟨_, hps.append hqs⟩
  | noClause => exact ⟨[], .silent rfl rfl⟩
  | @clause form k ks w cs w₁ ds w₂ body rest ih₁ ih₂ =>
    obtain ⟨ps, hps⟩ := ih₁
    obtain ⟨qs, hqs⟩ := ih₂
    rw [Visit.completions, List.flatMap_cons, List.flatMap_append]
    have hrest := hqs.after (w₁.log_leaveClause _ _) (w₁.graph_leaveClause _ _)
    exact ⟨ps ++ qs, (hps.append hrest).after (w.log_enterClause _ _) (w.graph_enterClause _ _)⟩

end

/-! ## The edges of a finished graph -/

/-- The listed blocks of a finished graph are there, and so are their successors. -/
theorem Build.Finishes.holds {b : Build} {g : Graph} {ls : List Int} (h : b.Finishes g ls) :
    b.graph.Holds b.listing := by
  intro k hk
  rw [h.listing_eq, List.mem_map] at hk
  obtain ⟨l, hl, rfl⟩ := hk
  obtain ⟨x, hx⟩ := Graph.contains_iff.1 (h.contains_iff.2 hl)
  refine ⟨by rw [hx]; rfl, fun t ht => ?_⟩
  rw [Graph.successors, hx, Option.elim_some] at ht
  obtain ⟨e, he, rfl⟩ := List.mem_map.1 ht
  obtain ⟨htarget, hcontains⟩ := (h.sound.block hx).edges e he
  rw [htarget]
  exact hcontains

/-- In a rendering, the indented lines are those of the edges. -/
theorem Graph.countP_render {g : Graph} {hs : List Handle} (hg : g.Holds hs) :
    (g.render hs).countP Block.isIndented = g.edgeCount hs := by
  induction hs with
  | nil => rfl
  | cons h hs ih =>
    obtain ⟨b, hb⟩ := hg.head
    have hown : ((g.successorBlocks h).map Block.renderSuccessor).countP Block.isIndented
        = (g.successors h).length := by
      rw [List.countP_eq_length.2 isIndented_of_mem_successors, List.length_map]
      have hblocks := congrArg List.length (hg.map_successorBlocks Block.render)
      rwa [List.length_map, List.length_map] at hblocks
    have hrest := ih hg.tail
    rw [render] at hrest
    rw [render, List.flatMap_cons, renderBlock_eq hb, List.countP_append, List.countP_cons, hown,
      hrest, b.isIndented_render]
    rfl

/-! ## All that is logged -/

/-- What is logged of a source whose graph could be built. -/
structure Source.Logged (s : Source) (root : Node) (b : Build) (ps : List Progress)
    (events : List Event) : Prop where
  /-- The walk reports the declarations with a body in the order of their completion, -/
  reports : ∃ cs w, Visits s.decodeText (.nodes root.named) {} cs w ∧ b = w.finish ∧
    List.Forall₂ (Reported s.decodeText {} cs) root.routeCompletions ps
  /-- each as often as it comes to it. -/
  completions : root.routeCompletions.Perm (root.route.filter Node.hasBody)
  /-- The numbers of blocks do not go down, and none is above the final one. -/
  ascending : ps.Pairwise (·.blocks ≤ ·.blocks)
  bounded : ∀ p ∈ ps, p.blocks ≤ b.listing.length
  /-- The records are one for each report, one for the end of the walk, which is a warning if it
  took more than a second, and one for the size of the graph. -/
  records : ∀ elapsed : Duration, events.map (Event.record elapsed) =
    (ps.map fun p => ⟨"gocfg.bblock.builder", .debug, "function_walked",
      [("function", .str p.function), ("line", .int p.line), ("blocks", .int p.blocks)]⟩) ++
    [if elapsed.isSlow then
        ⟨"gocfg.bblock.pipeline", .warning, "slow_operation",
          [("operation", .str "cfg_build"), ("duration_ms", .real elapsed.rounded),
           ("file", .str s.file), ("slow", .bool true)]⟩
      else
        ⟨"gocfg.bblock.pipeline", .debug, "operation_complete",
          [("operation", .str "cfg_build"), ("duration_ms", .real elapsed.rounded),
           ("file", .str s.file)]⟩,
     ⟨"gocfg.bblock.pipeline", .info, "cfg_built",
      [("file", .str s.file), ("blocks", .int b.listing.length),
       ("edges", .int ((b.graph.render b.listing).countP Block.isIndented))]⟩]

/-- The record of a finished walk is a warning if the walk was slow. -/
theorem record_walkEnded (elapsed : Duration) (file : String) :
    Event.record elapsed (.walkEnded file none) =
      if elapsed.isSlow then
        ⟨"gocfg.bblock.pipeline", .warning, "slow_operation",
          [("operation", .str "cfg_build"), ("duration_ms", .real elapsed.rounded),
           ("file", .str file), ("slow", .bool true)]⟩
      else
        ⟨"gocfg.bblock.pipeline", .debug, "operation_complete",
          [("operation", .str "cfg_build"), ("duration_ms", .real elapsed.rounded),
           ("file", .str file)]⟩ := by
  show timingRecord "gocfg.bblock.pipeline" "cfg_build" elapsed [("file", .str file)] = _
  unfold timingRecord
  split
  · simp [Fields.setAll, Fields.set]
  · simp [Fields.setAll, Fields.set]

/-- **The progress log** of a build that succeeds: each declaration with a body that the walk comes
to, in the order of completion and with numbers of blocks that do not go down; then the end of the
walk; then the size of the graph, with as many edges as a rendering has lines for them. -/
theorem logged_of_buildGraph {s : Source} {root : Node} {b : Build}
    (h : (s.buildGraph root).result = .ok b) :
    ∃ ps, s.Logged root b ps (s.buildGraph root).events := by
  obtain ⟨hbuild, hevents⟩ := Source.buildGraph_eq_ok h
  obtain ⟨cs, w, hvisit, rfl⟩ := build_eq_ok_iff.1 hbuild
  obtain ⟨-, ls, hfinish⟩ := hvisit.finishes Graph.sound_empty
  obtain ⟨ps, hps⟩ := hvisit.journal
  have hlog : w.log = ps := hps.log_eq
  have hlength : w.finish.listing.length = w.graph.size := w.graph.length_listing
  -- the numbers lie between those of the empty graph and of the one that the walk leaves
  obtain ⟨-, hascending⟩ := List.pairwise_cons.1 hps.ascending
  obtain ⟨hpairs, -, hbound⟩ := List.pairwise_append.1 hascending
  refine ⟨ps, ⟨cs, w, hvisit, rfl, hps.reported⟩, root.routeCompletions_perm, ?_, ?_, ?_⟩
  · exact List.pairwise_map.1 hpairs
  · intro p hp
    rw [hlength]
    exact hbound _ (List.mem_map_of_mem hp) _ List.mem_cons_self
  · intro elapsed
    have hedges := Graph.countP_render hfinish.holds
    rw [hevents, List.map_append, List.map_cons, List.map_singleton, record_walkEnded, ← hedges,
      show w.finish.log = ps from hlog, List.map_map]
    rfl

/-- A declaration without a body, and a method with a loop that holds another declaration. -/
def nestedTree : Node :=
  .mk { label := .other "source_file", span := { endRow := 8 } } [
    .mk { label := .functionDeclaration } [
      .mk { label := .other "identifier", field := some .name, text := some [102] } []],
    .mk { label := .methodDeclaration, span := { startRow := 1, endRow := 7 } } [
      .mk { label := .other "identifier", field := some .name, text := some [103] } [],
      .mk { label := .block, span := { startRow := 1, endRow := 7 }, field := some .body } [
        .mk { label := .forStatement, span := { startRow := 2, endRow := 5 } } [
          .mk { label := .block, span := { startRow := 2, endRow := 5 }, field := some .body } [
            .mk { label := .functionDeclaration, span := { startRow := 3, endRow := 4 } } [
              .mk { label := .other "identifier", field := some .name, text := some [102] } [],
              .mk { label := .block, span := { startRow := 3, endRow := 4 },
                    field := some .body } []]]],
        .mk { label := .goStatement, span := { startRow := 6, endRow := 6 } } []]]]

/-- The declaration in the loop is complete before the method around it, and one block less is there
by then. -/
theorem logged_of_buildGraph_nested :
    ∃ b, (Source.buildGraph { content := "" } nestedTree).result = .ok b ∧
      b.log = [⟨"f", 4, 6⟩, ⟨"g", 2, 7⟩] ∧
      ∃ ps, Source.Logged { content := "" } nestedTree b ps
        (Source.buildGraph { content := "" } nestedTree).events :=
  ⟨_, rfl, rfl, logged_of_buildGraph rfl⟩

/-- A build that takes two seconds has no record of an operation that is complete: that it was slow
is logged in its place. -/
theorem records_slow_nested :
    ((Source.buildGraph { content := "" } nestedTree).events.map
      (Event.record (.between .zero (.ofInt 2)))).map Record.event
      = ["function_walked", "function_walked", "slow_operation", "cfg_built"] := by
  decide

end GoFlow
