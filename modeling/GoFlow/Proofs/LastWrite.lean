import GoFlow.Proofs.Sound
import Mathlib.Data.List.Basic

/-!
# The last write wins

A client of a graph registers lines, keeps the handles that it gets, and links blocks through any
two of them, however old they are and whatever happened to their lines in between. What the graph
holds in the end can be read off the list of its calls, one line at a time.

- `Call`, `Session`: the calls, and the graph with the handles that were given out.
- `Session.AllowsAll`: clients register no markers and use no handles but those they got.
- `Session.callAll_spec`: a session is the replay of the changes that its calls stand for.
- `Session.LastWrite`: what a graph holds after a list of calls.
-/

namespace GoFlow

/-- A call to a graph. -/
inductive Call where
  | register (line : Int) (kind : BlockKind) (owner : String)
  | link (source target : Handle)
deriving DecidableEq, Repr

namespace Call

/-- The line that the call registers. -/
def registers? : Call → Option Int
  | register l _ _ => some l
  | link _ _ => none

/-- Where the call leads to from the block of a handle. -/
def targetFrom? (source : Handle) : Call → Option Handle
  | register _ _ _ => none
  | link s t => if s = source then some t else none

end Call

/-- The lines that the calls register, from first to last. -/
def linesOf (calls : List Call) : List Int := calls.filterMap Call.registers?

/-- The targets that the calls link to the block of a handle, from first to last. -/
def targetsFrom (source : Handle) (calls : List Call) : List Handle :=
  calls.filterMap (Call.targetFrom? source)

@[simp] theorem linesOf_register (l : Int) (kind : BlockKind) (owner : String)
    (calls : List Call) : linesOf (.register l kind owner :: calls) = l :: linesOf calls := rfl

@[simp] theorem linesOf_append (cs ds : List Call) :
    linesOf (cs ++ ds) = linesOf cs ++ linesOf ds := List.filterMap_append

theorem mem_targetsFrom {source target : Handle} {calls : List Call} :
    target ∈ targetsFrom source calls ↔ .link source target ∈ calls := by
  rw [targetsFrom, List.mem_filterMap]
  constructor
  · rintro ⟨c, hc, htarget⟩
    cases c with
    | register l kind owner => cases htarget
    | link s t =>
      obtain ⟨rfl, rfl⟩ : s = source ∧ t = target := by simpa [Call.targetFrom?] using htarget
      exact hc
  · intro hc
    exact ⟨_, hc, if_pos rfl⟩

/-- A graph in use, with the handle that each registration so far gave out for its line. -/
structure Session where
  graph : Graph := {}
  given : List (Int × Handle) := []
deriving DecidableEq, Repr

namespace Session

/-- Makes one call. -/
def call (s : Session) : Call → Session
  | .register l kind owner =>
    let (graph, handle) := s.graph.getOrCreate l kind owner
    ⟨graph, s.given ++ [(l, handle)]⟩
  | .link source target => { s with graph := s.graph.link source target }

/-- Makes the calls from left to right. -/
def callAll (s : Session) (calls : List Call) : Session := calls.foldl call s

/-- Whether a client may make the call. -/
def Allows (s : Session) : Call → Prop
  | .register _ kind _ => kind.isMarker = false
  | .link source target => source ∈ s.given.map Prod.snd ∧ target ∈ s.given.map Prod.snd

/-- Whether a client may make the calls one after the other. -/
def AllowsAll (s : Session) : List Call → Prop
  | [] => True
  | c :: calls => s.Allows c ∧ (s.call c).AllowsAll calls

/-- What a registration leaves, and the handle that it gives out. -/
theorem call_register (s : Session) (l : Int) (kind : BlockKind) (owner : String) :
    s.call (.register l kind owner)
      = ⟨s.graph.register l kind owner, s.given ++ [(l, .line l)]⟩ := by
  rw [call, Graph.getOrCreate_eq]

/-- Calls are allowed one after the other if the second row is allowed behind the first. -/
theorem allowsAll_append (cs ds : List Call) :
    ∀ s : Session, s.AllowsAll (cs ++ ds) ↔ s.AllowsAll cs ∧ (s.callAll cs).AllowsAll ds := by
  induction cs with
  | nil => simp [AllowsAll, callAll]
  | cons c cs ih =>
    intro s
    rw [List.cons_append, AllowsAll, AllowsAll, ih, and_assoc]
    rfl

end Session

/-! ## Calls as changes -/

/-- The line of a registered block. -/
def Handle.lineOf : Handle → Int
  | .line l => l
  | .loose _ => 0

/-- The change that a call makes, as long as its handles are those of registered blocks. -/
def Call.change : Call → Change
  | .register l kind owner => .register l kind owner
  | .link source target => .link source.lineOf target.lineOf

theorem registeredBy_change (calls : List Call) :
    registeredBy (calls.map Call.change) = linesOf calls := by
  rw [registeredBy, linesOf, List.filterMap_map]
  refine congrArg (List.filterMap · calls) (funext fun c => ?_)
  cases c <;> rfl

namespace Session

/-- Every handle given out is that of its line, which is registered. -/
def Holds (s : Session) : Prop := ∀ p ∈ s.given, p.2 = .line p.1 ∧ s.graph.contains p.1

/-- A handle that was given out is that of a registered line. -/
theorem Holds.mem_given {s : Session} (hs : s.Holds) {h : Handle}
    (hh : h ∈ s.given.map Prod.snd) : ∃ l, h = .line l ∧ s.graph.contains l := by
  obtain ⟨p, hp, rfl⟩ := List.mem_map.1 hh
  exact ⟨p.1, hs p hp⟩

/-- A call that is allowed makes an admitted change and gives out the handle of its line. -/
theorem call_spec {s : Session} (hs : s.Holds) {c : Call} (hc : s.Allows c) :
    (s.call c).graph = s.graph.apply c.change ∧ s.graph.Admits c.change ∧
      (s.call c).given = s.given ++ (linesOf [c]).map (fun l => (l, .line l)) ∧
      (s.call c).Holds := by
  cases c with
  | register l kind owner =>
    rw [call_register]
    refine ⟨rfl, hc, rfl, fun p hp => ?_⟩
    rw [Graph.contains_register]
    rcases List.mem_append.1 hp with hp | hp
    · exact ⟨(hs p hp).1, .inr (hs p hp).2⟩
    · rw [List.mem_singleton.1 hp]
      exact ⟨rfl, .inl rfl⟩
  | link source target =>
    obtain ⟨a, rfl, ha⟩ := hs.mem_given hc.1
    obtain ⟨b, rfl, hb⟩ := hs.mem_given hc.2
    refine ⟨rfl, ⟨ha, hb⟩, (List.append_nil _).symm, fun p hp => ?_⟩
    rw [call, Graph.contains_link]
    exact hs p hp

/-- **A session is a replay**: allowed calls make the admitted changes that they stand for, and give
out one handle for each line. -/
theorem callAll_spec {calls : List Call} :
    ∀ {s : Session}, s.Holds → s.AllowsAll calls →
      (s.callAll calls).graph = s.graph.replay (calls.map Call.change) ∧
      s.graph.AdmitsAll (calls.map Call.change) ∧
      (s.callAll calls).given = s.given ++ (linesOf calls).map (fun l => (l, .line l)) ∧
      (s.callAll calls).Holds := by
  induction calls with
  | nil => exact fun hs _ => ⟨rfl, trivial, (List.append_nil _).symm, hs⟩
  | cons c calls ih =>
    intro s hs hcalls
    obtain ⟨hgraph, hadmits, hgiven, hholds⟩ := call_spec hs hcalls.1
    obtain ⟨hgraph', hadmits', hgiven', hholds'⟩ := ih hholds hcalls.2
    rw [hgraph] at hgraph' hadmits'
    refine ⟨hgraph', ⟨hadmits, hadmits'⟩, hgiven'.trans ?_, hholds'⟩
    rw [hgiven, List.append_assoc, ← List.map_append, ← linesOf_append, List.singleton_append]

/-- Clients hold no handles but those of lines. -/
theorem AllowsAll.exists_lines {calls : List Call} :
    ∀ {s : Session}, s.Holds → s.AllowsAll calls → ∀ {source target : Handle},
      .link source target ∈ calls → ∃ a b, source = .line a ∧ target = .line b := by
  induction calls with
  | nil =>
    intro s _ _ source target hmem
    cases hmem
  | cons c calls ih =>
    intro s hs hcalls source target hmem
    rcases List.mem_cons.1 hmem with rfl | hmem
    · obtain ⟨a, ha, -⟩ := hs.mem_given hcalls.1.1
      obtain ⟨b, hb, -⟩ := hs.mem_given hcalls.1.2
      exact ⟨a, b, ha, hb⟩
    · exact ih (call_spec hs hcalls.1).2.2.2 hcalls.2 hmem

end Session

/-! ## What the calls leave -/

/-- Where the changes lead to from a line, from first to last. -/
def linkedFrom (l : Int) (cs : List Change) : List Int :=
  cs.filterMap fun
    | .register _ _ _ => none
    | .link s t => if s = l then some t else none

theorem mem_linkedFrom {l t : Int} {cs : List Change} :
    t ∈ linkedFrom l cs ↔ .link l t ∈ cs := by
  rw [linkedFrom, List.mem_filterMap]
  constructor
  · rintro ⟨c, hc, ht⟩
    cases c with
    | register m kind owner => cases ht
    | link s u =>
      obtain ⟨rfl, rfl⟩ : s = l ∧ u = t := by simpa using ht
      exact hc
  · intro hc
    exact ⟨_, hc, if_pos rfl⟩

/-- While a line is not registered, the newest edge of its block is the one added last. -/
theorem newest_blockAfter {l : Int} {cs : List Change} (h : l ∉ registeredBy cs) :
    ∀ {b b' : Block}, blockAfter l (some b) cs = some b' →
      b'.newest = ((linkedFrom l cs).getLast?.map Handle.line).or b.newest := by
  induction cs with
  | nil =>
    rintro b b' ⟨⟩
    rfl
  | cons c cs ih =>
    intro b b' hb
    cases c with
    | register m kind owner =>
      rw [registeredBy_register, List.mem_cons, not_or] at h
      change blockAfter l (Change.onLine l (some b) _) cs = _ at hb
      rw [Change.onLine, if_neg h.1] at hb
      exact ih h.2 hb
    | link s t =>
      change blockAfter l (Change.onLine l (some b) _) cs = _ at hb
      rw [Change.onLine] at hb
      by_cases hs : s = l
      · have hcons : linkedFrom l (.link s t :: cs) = t :: linkedFrom l cs :=
          List.filterMap_cons_some (if_pos hs)
        rw [if_pos hs.symm] at hb
        rw [ih h hb, hcons, List.getLast?_cons]
        cases (linkedFrom l cs).getLast? <;> rfl
      · have hcons : linkedFrom l (.link s t :: cs) = linkedFrom l cs :=
          List.filterMap_cons_none (if_neg hs)
        rw [if_neg (Ne.symm hs)] at hb
        rw [ih h hb, hcons]

/-- Behind the last registration of a line, the newest edge of its block is the one added last. -/
theorem newest_blockAfter_last {l : Int} {pre post : List Change} {kind : BlockKind}
    {owner : String} (h : l ∉ registeredBy post) {b : Option Block} {b' : Block}
    (hb : blockAfter l b (pre ++ .register l kind owner :: post) = some b') :
    b'.newest = (linkedFrom l post).getLast?.map Handle.line := by
  rw [blockAfter_append] at hb
  change blockAfter l (Change.onLine l (blockAfter l b pre) _) post = _ at hb
  rw [Change.onLine, if_pos rfl] at hb
  have hfresh : (takenOver l kind owner (blockAfter l b pre)).newest = none := by
    cases blockAfter l b pre <;> rfl
  rw [newest_blockAfter h hb, hfresh, Option.or_none]

namespace Session

variable {calls pre post : List Call} {l : Int} {kind : BlockKind} {owner : String}

theorem holds_empty : ({} : Session).Holds := fun _ hp => by cases hp

/-- Where calls lead to from a line, read off their changes. -/
theorem targetsFrom_eq {s : Session} (hs : s.Holds) (hcalls : s.AllowsAll calls) :
    targetsFrom (.line l) calls = (linkedFrom l (calls.map Call.change)).map .line := by
  rw [targetsFrom, linkedFrom, List.filterMap_map, List.map_filterMap]
  refine List.filterMap_congr fun c hc => ?_
  cases c with
  | register m kind owner => rfl
  | link source target =>
    obtain ⟨a, b, rfl, rfl⟩ := hcalls.exists_lines hs hc
    by_cases ha : a = l
    · simp [Call.targetFrom?, Call.change, Handle.lineOf, ha]
    · simp [Call.targetFrom?, Call.change, Handle.lineOf, ha]

/-- The graph of a session, as the replay of admitted changes. -/
theorem replay_of_allowsAll (hcalls : ({} : Session).AllowsAll calls) :
    (({} : Session).callAll calls).graph = ({} : Graph).replay (calls.map Call.change) ∧
      ({} : Graph).AdmitsAll (calls.map Call.change) :=
  ⟨(callAll_spec holds_empty hcalls).1, (callAll_spec holds_empty hcalls).2.1⟩

/-- **The block of a line** comes from the last registration of the line and from the links made
from it since. -/
theorem exists_block_last
    (hcalls : ({} : Session).AllowsAll (pre ++ .register l kind owner :: post))
    (hlast : l ∉ linesOf post) :
    ∃ b, (({} : Session).callAll (pre ++ .register l kind owner :: post)).graph.get? (.line l)
        = some b ∧
      b.kind = kind ∧ b.owner = owner ∧
      (∀ t, t ∈ b.edges.map Edge.target ↔ .link (.line l) t ∈ post) ∧
      b.newest = (targetsFrom (.line l) post).getLast? := by
  obtain ⟨hgraph, hadmits⟩ := replay_of_allowsAll hcalls
  obtain ⟨hpre, hregister, hpost⟩ := (allowsAll_append _ _ _).1 hcalls
  obtain ⟨-, -, -, hbefore⟩ := callAll_spec holds_empty hpre
  obtain ⟨-, -, -, hholds⟩ := call_spec hbefore hregister
  have htargets := @targetsFrom_eq post l _ hholds hpost
  rw [← registeredBy_change] at hlast
  rw [List.map_append, List.map_cons] at hgraph hadmits
  rw [hgraph]
  have hget := @Graph.get?_replay _ l _ Graph.sound_empty hadmits
  obtain ⟨b, hb, hkind, howner, hleads⟩ :=
    @blockAfter_last l (pre.map Call.change) _ kind owner hlast (({} : Graph).get? (.line l))
  have hsound := (Graph.sound_empty.replay hadmits).block (hget.trans hb)
  refine ⟨b, hget.trans hb, hkind, howner, fun t => ?_, ?_⟩
  · rw [hsound.mem_targets_iff, ← mem_targetsFrom, htargets, List.mem_map]
    simp only [hleads, mem_linkedFrom]
    exact exists_congr fun m => and_comm.trans (and_congr_right fun _ => eq_comm)
  · rw [newest_blockAfter_last hlast hb, htargets, List.getLast?_map]

/-- Among the calls that register a line there is a last one. -/
theorem exists_last_call (hl : l ∈ linesOf calls) :
    ∃ pre kind owner post, calls = pre ++ .register l kind owner :: post ∧ l ∉ linesOf post := by
  rw [← registeredBy_change] at hl
  obtain ⟨pre', kind, owner, post', heq, hpost⟩ := exists_last_register hl
  obtain ⟨pre, rest, rfl, rfl, hrest⟩ := List.map_eq_append_iff.1 heq
  obtain ⟨c, post, rfl, hc, rfl⟩ := List.map_eq_cons_iff.1 hrest
  rw [registeredBy_change] at hpost
  cases c with
  | register m k o =>
    cases hc
    exact ⟨pre, kind, owner, post, rfl, hpost⟩
  | link s t => cases hc

/-- The lines of the graph are those that calls have registered. -/
theorem contains_callAll_iff (hcalls : ({} : Session).AllowsAll calls) :
    (({} : Session).callAll calls).graph.contains l ↔ l ∈ linesOf calls := by
  rw [(replay_of_allowsAll hcalls).1, Graph.contains_replay_empty, registeredBy_change]

/-- Where a registered block leads to: the targets linked to it since its line was registered
last. -/
theorem mem_successors_iff
    (hcalls : ({} : Session).AllowsAll (pre ++ .register l kind owner :: post))
    (hlast : l ∉ linesOf post) {t : Handle} :
    t ∈ (({} : Session).callAll
        (pre ++ .register l kind owner :: post)).graph.successors (.line l) ↔
      .link (.line l) t ∈ post := by
  obtain ⟨b, hb, -, -, hedges, -⟩ := exists_block_last hcalls hlast
  rw [Graph.successors, hb]
  exact hedges t

/-- **Overwriting a line keeps the edges that lead to it**, for as long as the line that they come
from is not registered anew itself. -/
theorem mem_successors_of_overwrite {m : Int}
    (hcalls : ({} : Session).AllowsAll (pre ++ .register l kind owner :: post)) (hm : m ≠ l)
    (hlast : m ∉ linesOf post)
    (hedge : .line l ∈ (({} : Session).callAll pre).graph.successors (.line m)) :
    .line l ∈ (({} : Session).callAll
      (pre ++ .register l kind owner :: post)).graph.successors (.line m) := by
  have hpre := ((allowsAll_append _ _ _).1 hcalls).1
  have hmem : m ∈ linesOf pre := by
    rw [← contains_callAll_iff hpre, Graph.contains_iff]
    rw [Graph.successors] at hedge
    cases hb : (({} : Session).callAll pre).graph.get? (.line m) with
    | none =>
      rw [hb] at hedge
      cases hedge
    | some b => exact ⟨b, rfl⟩
  -- the last registration of the source comes before the overwrite, and so does its link
  obtain ⟨early, mkind, mowner, late, rfl, hlate⟩ := exists_last_call hmem
  have hlink := (mem_successors_iff hpre hlate).1 hedge
  have hlast' : m ∉ linesOf (late ++ .register l kind owner :: post) := by
    simp [hlate, hm, hlast]
  rw [List.append_assoc, List.cons_append] at hcalls ⊢
  exact (mem_successors_iff hcalls hlast').2 (List.mem_append_left _ hlink)

/-- What a session holds after a list of calls. -/
structure LastWrite (calls : List Call) (s : Session) : Prop where
  /-- Every registration gave out a handle. -/
  given_lines : s.given.map Prod.fst = linesOf calls
  /-- The handles given out for one line are all the same, -/
  same : ∀ p ∈ s.given, ∀ q ∈ s.given, p.2 = q.2 ↔ p.1 = q.1
  /-- and stand for the block that is registered there. -/
  denotes : ∀ p ∈ s.given, s.graph.get? p.2 = s.graph.get? (.line p.1) ∧
    ∃ b, s.graph.get? p.2 = some b ∧ b.endLine = p.1
  /-- A line is there once it has been registered, for good. -/
  lines : ∀ l, s.graph.contains l ↔ l ∈ linesOf calls
  /-- Kind and owner of a block are those of the last registration of its line. Its edges are those
  added since, and the newest of them is the latest. -/
  block : ∀ {pre l kind owner post}, calls = pre ++ .register l kind owner :: post →
    l ∉ linesOf post → ∃ b, s.graph.get? (.line l) = some b ∧ b.kind = kind ∧ b.owner = owner ∧
      (∀ t, t ∈ b.edges.map Edge.target ↔ .link (.line l) t ∈ post) ∧
      b.newest = (targetsFrom (.line l) post).getLast?
  /-- An edge to a line outlives every overwrite of that line. -/
  survives : ∀ {pre l kind owner post m}, calls = pre ++ .register l kind owner :: post → m ≠ l →
    m ∉ linesOf post → .line l ∈ (({} : Session).callAll pre).graph.successors (.line m) →
      .line l ∈ s.graph.successors (.line m)
  newest : s.graph.newest = (linesOf calls).getLast?

end Session

/-- **The last write wins**: after any calls of a client that registers no markers and links blocks
by handles it was given, however old, each line has one block. Its kind, owner and edges are those
that the calls since its last registration gave it, while the edges that lead to it stay. -/
theorem lastWrite_of_allowsAll {calls : List Call} (hcalls : ({} : Session).AllowsAll calls) :
    (({} : Session).callAll calls).LastWrite calls := by
  obtain ⟨hgraph, hadmits, hgiven, hholds⟩ := Session.callAll_spec Session.holds_empty hcalls
  have hsound : (({} : Session).callAll calls).graph.Sound := by
    rw [hgraph]
    exact Graph.sound_empty.replay hadmits
  constructor
  · rw [hgiven]
    simp [Function.comp_def]
  · intro p hp q hq
    rw [(hholds p hp).1, (hholds q hq).1, Handle.line.injEq]
  · intro p hp
    obtain ⟨hline, hcontains⟩ := hholds p hp
    obtain ⟨b, hb⟩ := Graph.contains_iff.1 hcontains
    rw [hline]
    exact ⟨rfl, b, hb, (hsound.block hb).endLine⟩
  · exact fun l => Session.contains_callAll_iff hcalls
  · rintro pre l kind owner post rfl hlast
    exact Session.exists_block_last hcalls hlast
  · rintro pre l kind owner post m rfl hm hlast hedge
    exact Session.mem_successors_of_overwrite hcalls hm hlast hedge
  · rw [hgraph, Graph.newest_replay, registeredBy_change]
    exact Option.or_none

/-- A go statement that gives way to a select on its line, with a return that leads to it from
before and an edge that is added by the old handle. -/
def waitCalls : List Call :=
  [.register 4 .goStatement "wait", .register 5 .returnStatement "wait",
   .link (.line 4) (.line 5), .link (.line 5) (.line 4), .register 4 .selectStatement "wait",
   .link (.line 4) (.line 4)]

/-- The select has none of the edges of the go statement, but is where the return leads to. -/
theorem lastWrite_of_allowsAll_wait :
    ({} : Session).AllowsAll waitCalls ∧ (({} : Session).callAll waitCalls).LastWrite waitCalls ∧
      (({} : Session).callAll waitCalls).graph.successors (.line 4) = [.line 4] ∧
      (({} : Session).callAll waitCalls).graph.successors (.line 5) = [.line 4] := by
  have hcalls : ({} : Session).AllowsAll waitCalls := by
    refine ⟨rfl, rfl, ⟨?_, ?_⟩, ⟨?_, ?_⟩, rfl, ⟨?_, ?_⟩, trivial⟩ <;> decide
  exact ⟨hcalls, lastWrite_of_allowsAll hcalls, by decide, by decide⟩

end GoFlow
