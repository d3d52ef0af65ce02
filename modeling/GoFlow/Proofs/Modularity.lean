import GoFlow.Proofs.Confinement
import GoFlow.Proofs.Integrity
import GoFlow.Proofs.Mirror
import Mathlib.Data.List.Pairwise

/-!
# Declarations are independent

All declarations of a file share one graph and one walk. Where they lie on lines of their own, a
function still gets the blocks and edges it would get alone: what comes before it may reach its
first line, which it registers anew, and what comes after it stays below its last. The walk draws
no edge from one function to another. Only the default edges, which know nothing of functions, may
lead from the last block of one into the next.

- `Node.Layered`: the rows of the tree are nested, and the children of the root follow each other.
- `Stretch`: the changes of a walk over a file, cut into those before a declaration, its own, and
  those after it.
- `Stretch.get?_eq`: the blocks of a declaration are those of a walk over it alone.
- `Build.Hosts`: how the graph of a declaration sits in the graph of the file.
-/

namespace GoFlow

/-- Nodes span rows within those of their parents, and those children of the root in which there is
anything to react to lie on disjoint lines, in ascending order. Comments, for one, may lie
anywhere. -/
structure Node.Layered (root : Node) : Prop where
  nested : root.nested
  apart : (root.named.filter Node.holdsConstruct).Pairwise fun a b => a.endLine < b.startLine

section

variable {ε : Type} {decode : List UInt8 → Except ε String}

namespace Visits

variable {w w' : Walk} {cs : List Change}

theorem nodes_append {ns ms : List Node} (h : Visits decode (.nodes (ns ++ ms)) w cs w') :
    ∃ ds w₁ es, Visits decode (.nodes ns) w ds w₁ ∧ Visits decode (.nodes ms) w₁ es w' ∧
      cs = ds ++ es := by
  induction ns generalizing w cs with
  | nil => exact ⟨[], w, cs, .nil, h, rfl⟩
  | cons n ns ih =>
    cases h with
    | cons first rest =>
      obtain ⟨ds, w₁, es, hns, hms, rfl⟩ := ih rest
      exact ⟨_, w₁, es, .cons first hns, hms, (List.append_assoc _ _ _).symm⟩

/-- **A declaration starts afresh**: a visit to it on top of a sound graph is a visit from
scratch. -/
theorem function_fresh {n : Node} (h : Visits decode (.node n) w cs w') (hn : n.label.isFunction)
    (hw : w.graph.Sound) : ∃ u, Visits decode (.node n) {} cs u := by
  rcases h.function_cases hn with
    ⟨name, hbody, named, rfl⟩ | ⟨body, name, ds, u, hbody, named, inside, rfl⟩
  · exact ⟨_, .prototype hn hbody named⟩
  · -- what came before is no history of this walk, but the graph that it goes on top of
    have hmirror := @Walk.Mirrors.enterFunction w.graph [] w {} rfl rfl trivial name n.startLine
      n.endLine (Outline.returnLines body)
    obtain ⟨u', hu', -⟩ := inside.mirrored hw hmirror
    exact ⟨_, .function hn hbody named hu'⟩

end Visits

/-! ## A file, cut at a declaration -/

/-- The changes of a walk over a file, as a declaration sees them. -/
structure Stretch (decode : List UInt8 → Except ε String) (n : Node)
    (cs before own after : List Change) : Prop where
  eq : cs = before ++ (own ++ after)
  alone : ∃ u, Visits decode (.node n) {} own u
  before_le : ∀ c ∈ before, c.line ≤ n.startLine
  confined : Confined n.startLine n.endLine own
  after_gt : ∀ c ∈ after, n.endLine < c.line

/-- Every walk over a file with nested and disjoint declarations can be cut at each of them. -/
theorem exists_stretch {root n : Node} {cs : List Change} {w : Walk} (hroot : root.Layered)
    (h : Visits decode (.nodes root.named) {} cs w) (hn : n ∈ root.named)
    (hfunction : n.label.isFunction) :
    ∃ before own after, Stretch decode n cs before own after := by
  obtain ⟨pre, post, hnamed⟩ := List.append_of_mem hn
  have hnested : ∀ m ∈ root.named, m.nested := fun m hm =>
    ((Node.between_self hroot.nested).child (List.mem_filter.1 hm).1).nested
  have hapart := hroot.apart
  rw [hnamed] at h hnested hapart
  rw [List.filter_append, List.filter_cons_of_pos (Node.holdsConstruct_of_isFunction hfunction),
    List.pairwise_append, List.pairwise_cons] at hapart
  obtain ⟨-, ⟨hpost, -⟩, hpre⟩ := hapart
  obtain ⟨before, w₁, cs', hbefore, hrest, rfl⟩ := h.nodes_append
  have hstart : ({} : Walk).scope.Outside := ⟨rfl, rfl, rfl⟩
  cases hrest with
  | @cons _ _ _ own w₂ after _ first rest =>
    have hsound : w₁.graph.Sound := by
      rw [hbefore.graph_eq]
      exact Graph.sound_empty.replay (hbefore.admitted (Walk.anchored_start {})).1
    refine ⟨before, own, after, rfl, first.function_fresh hfunction hsound, fun c hc => ?_,
      first.confined_function hfunction (hnested n (by simp)), fun c hc => ?_⟩
    · -- a node above may reach one line below its own, and no further than to the first line of `n`
      obtain ⟨m, hm, hholds, -, hline⟩ :=
        hbefore.confined_row (fun m hm => hnested m (by simp [hm])) hstart c hc
      have hlt := hpre m (List.mem_filter.2 ⟨hm, hholds⟩) n List.mem_cons_self
      omega
    · obtain ⟨m, hm, hholds, hline, -⟩ := rest.confined_row (fun m hm => hnested m (by simp [hm]))
        (first.outside (hbefore.outside hstart)) c hc
      have hlt := hpost m (List.mem_filter.2 ⟨hm, hholds⟩)
      omega

namespace Stretch

variable {n : Node} {cs before own after : List Change} {l : Int}

theorem startLine_mem (h : Stretch decode n cs before own after) (hn : n.label.isFunction) :
    n.startLine ∈ registeredBy own := by
  obtain ⟨u, hu⟩ := h.alone
  exact hu.startLine_mem (Label.isConstruct_of_isFunction hn)

theorem admitted (h : Stretch decode n cs before own after) : ({} : Graph).AdmitsAll own := by
  obtain ⟨u, hu⟩ := h.alone
  exact (hu.admitted (Walk.anchored_start {})).1

/-- The lines of the declaration that the walk registers are those that the declaration does. What
comes before may register the first line, but then so does the declaration. -/
theorem mem_own_iff (h : Stretch decode n cs before own after) (hn : n.label.isFunction) :
    l ∈ registeredBy own ↔ l ∈ registeredBy cs ∧ n.startLine ≤ l ∧ l ≤ n.endLine := by
  constructor
  · intro hl
    refine ⟨?_, h.confined.registered hl⟩
    rw [h.eq]
    simp [hl]
  · rintro ⟨hl, hstart, hend⟩
    obtain ⟨kind, owner, hreg⟩ := mem_registeredBy.1 hl
    rw [h.eq, List.mem_append, List.mem_append] at hreg
    rcases hreg with hreg | hreg | hreg
    · have hle : l ≤ n.startLine := h.before_le _ hreg
      obtain rfl : l = n.startLine := by omega
      exact h.startLine_mem hn
    · exact mem_registeredBy.2 ⟨kind, owner, hreg⟩
    · have hgt : n.endLine < l := h.after_gt _ hreg
      omega

/-- **The blocks of a declaration** in the graph of the file are those of its own graph. -/
theorem get?_eq (h : Stretch decode n cs before own after) (hcs : ({} : Graph).AdmitsAll cs)
    (hl : l ∈ registeredBy own) :
    (({} : Graph).replay cs).get? (.line l) = (({} : Graph).replay own).get? (.line l) := by
  obtain ⟨-, hend⟩ := h.confined.registered hl
  have hafter : ∀ c ∈ after, c.line ≠ l := fun c hc => by
    have hgt := h.after_gt c hc
    omega
  rw [Graph.get?_replay Graph.sound_empty hcs, Graph.get?_replay Graph.sound_empty h.admitted,
    Graph.get?_empty]
  -- no number was given out yet, so that the part before leaves no trace at all
  rw [← blockAfter_unnumbered hl (b := blockAfter l none before)
    (endLine_blockAfter fun x hx => by cases hx), ← blockAfter_append,
    blockAfter_map_unnumbered l (before ++ own) none, h.eq, ← List.append_assoc, blockAfter_append,
    blockAfter_of_forall_ne hafter]
  rfl

/-- The edges of a declaration, before the passes, stay between its lines. -/
theorem edge_between (h : Stretch decode n cs before own after) {x : Block}
    (hx : (({} : Graph).replay own).get? (.line l) = some x) {e : Edge} (he : e ∈ x.edges) :
    n.startLine ≤ e.key ∧ e.key ≤ n.endLine := by
  obtain ⟨-, hcontains⟩ := ((Graph.sound_empty.replay h.admitted).block hx).edges e he
  exact h.confined.registered (Graph.contains_replay_empty.1 hcontains)

/-- The lines of the file are those before the declaration, its own, and those after it. -/
theorem lines_eq (h : Stretch decode n cs before own after) (hn : n.label.isFunction)
    {b solo : Build} {ls ms : List Int} (hb : b.Finishes (({} : Graph).replay cs) ls)
    (hsolo : solo.Finishes (({} : Graph).replay own) ms) :
    ls = ls.filter (· < n.startLine) ++ ms ++ ls.filter (n.endLine < ·) := by
  have hms : ∀ l, l ∈ ms ↔ l ∈ ls ∧ n.startLine ≤ l ∧ l ≤ n.endLine := by
    intro l
    rw [hsolo.mem_lines, hb.mem_lines, Graph.contains_replay_empty, Graph.contains_replay_empty,
      h.mem_own_iff hn]
  -- both sides ascend and have the same members
  refine hb.ascending.eq_of_mem_iff ?_ fun l => ?_
  · refine List.pairwise_append.2 ⟨List.pairwise_append.2 ⟨hb.ascending.filter _, hsolo.ascending,
      fun k hk l hl => ?_⟩, hb.ascending.filter _, fun k hk l hl => ?_⟩
    · have hk' := List.mem_filter.1 hk
      have hl' := (hms l).1 hl
      simp only [decide_eq_true_eq] at hk'
      omega
    · have hl' := List.mem_filter.1 hl
      simp only [decide_eq_true_eq] at hl'
      rcases List.mem_append.1 hk with hk | hk
      · have hk' := List.mem_filter.1 hk
        simp only [decide_eq_true_eq] at hk'
        have hspan := (hms n.startLine).1 ((hsolo.mem_lines _).2
          (Graph.contains_replay_empty.2 (h.startLine_mem hn)))
        omega
      · have hk' := (hms k).1 hk
        omega
  · rw [List.mem_append, List.mem_append, List.mem_filter, List.mem_filter, hms]
    simp only [decide_eq_true_eq]
    constructor
    · intro hl
      by_cases hstart : l < n.startLine
      · exact .inl (.inl ⟨hl, hstart⟩)
      · by_cases hend : n.endLine < l
        · exact .inr ⟨hl, hend⟩
        · exact .inl (.inr ⟨hl, by omega, by omega⟩)
    · rintro ((⟨hl, -⟩ | ⟨hl, -⟩) | ⟨hl, -⟩) <;> exact hl

end Stretch

end

/-! ## The graph of a declaration in the graph of its file -/

/-- How the graph of a declaration sits in the graph of a file. Its blocks come in one piece, with
the kinds, owners and edges that they have alone, and are numbered on from the blocks before it.
Only the last of them may go on, to the first block after the declaration. -/
structure Build.Hosts (b solo : Build) (n : Node) (before own after : List Int) : Prop where
  listing_eq : b.listing = (before ++ own ++ after).map .line
  own_eq : solo.listing = own.map .line
  before_lt : ∀ l ∈ before, l < n.startLine
  own_between : ∀ l ∈ own, n.startLine ≤ l ∧ l ≤ n.endLine
  after_gt : ∀ l ∈ after, n.endLine < l
  block : ∀ l ∈ own, ∃ x y, solo.graph.get? (.line l) = some x ∧ b.graph.get? (.line l) = some y ∧
    y.kind = x.kind ∧ y.owner = x.owner ∧ y.endLine = x.endLine ∧
    y.number = before.length + x.number ∧
    y.edges = x.edges ++ (if own.getLast? = some l ∧ x.kind.fallsThrough then
      after.head?.toList.map fun m => ⟨m, .line m⟩ else [])

section

variable {ε : Type} {decode : List UInt8 → Except ε String} {n : Node}
variable {cs before own after : List Change} {b solo : Build} {ls ms : List Int}

/-- The block of a line of the declaration, before the passes, in the file, and alone. -/
theorem Stretch.exists_block (h : Stretch decode n cs before own after)
    (hcs : ({} : Graph).AdmitsAll cs) (hb : b.Finishes (({} : Graph).replay cs) ls)
    (hsolo : solo.Finishes (({} : Graph).replay own) ms) {l : Int} (hl : l ∈ ms) :
    ∃ z, (({} : Graph).replay own).get? (.line l) = some z ∧
      solo.graph.get? (.line l)
        = some (({ z with number := (ms.idxOf l : Nat) } : Block).fallInto (following ms l)) ∧
      b.graph.get? (.line l)
        = some (({ z with number := (ls.idxOf l : Nat) } : Block).fallInto (following ls l)) := by
  have hown : l ∈ registeredBy own := Graph.contains_replay_empty.1 ((hsolo.mem_lines l).1 hl)
  obtain ⟨z, hz⟩ := Graph.contains_iff.1 ((hsolo.mem_lines l).1 hl)
  refine ⟨z, hz, ?_, ?_⟩
  · rw [hsolo.get?_eq, hz]
    rfl
  · rw [hb.get?_eq, h.get?_eq hcs hown, hz]
    rfl

/-- **Function modularity**: in a file whose declarations lie on lines of their own, the graph of
each function or method is the graph of a file that holds nothing else, but for the numbers, which
go on from the blocks before it, and for the default edge of its last block. -/
theorem exists_hosts {root : Node} {b : Build} (hroot : root.Layered)
    (hb : build decode root {} = .ok b) (hn : n ∈ root.named) (hfunction : n.label.isFunction)
    (head : Head) :
    ∃ solo before own after, build decode (.mk head [n]) {} = .ok solo ∧
      b.Hosts solo n before own after := by
  obtain ⟨cs, w, ls, hvisit, hcs, hfinish⟩ := finishes_of_build Graph.sound_empty hb
  obtain ⟨before, own, after, hstretch⟩ := exists_stretch hroot hvisit hn hfunction
  obtain ⟨u, hu⟩ := hstretch.alone
  have hnamed : (Node.mk head [n]).named = [n] :=
    List.filter_cons_of_pos (List.mem_filter.1 hn).2
  have halone : Visits decode (.nodes (Node.mk head [n]).named) {} own u := by
    rw [hnamed, ← List.append_nil own]
    exact .cons hu .nil
  obtain ⟨-, ms, hsolo⟩ := halone.finishes Graph.sound_empty
  have hlines := hstretch.lines_eq hfunction hfinish hsolo
  have hnodup := hfinish.ascending.nodup
  have hlisting := hfinish.listing_eq
  have hblock : ∀ l ∈ ms, _ := fun l hl => hstretch.exists_block hcs hfinish hsolo hl
  have hbetween : ∀ l ∈ ms, n.startLine ≤ l ∧ l ≤ n.endLine := fun l hl =>
    hstretch.confined.registered (Graph.contains_replay_empty.1 ((hsolo.mem_lines l).1 hl))
  have hlt : ∀ l ∈ ls.filter (· < n.startLine), l < n.startLine := by simp
  have hgt : ∀ l ∈ ls.filter (n.endLine < ·), n.endLine < l := by simp
  -- all that matters of the lines above and below is on which side they are
  generalize ls.filter (· < n.startLine) = pre at hlines hlt
  generalize ls.filter (n.endLine < ·) = post at hlines hgt
  subst hlines
  refine ⟨u.finish, pre, ms, post, build_eq_ok_iff.2 ⟨own, u, halone, rfl⟩, hlisting,
    hsolo.listing_eq, hlt, hbetween, hgt, fun l hl => ?_⟩
  obtain ⟨z, hz, hx, hy⟩ := hblock l hl
  refine ⟨_, _, hx, hy, by simp, by simp, ?_, ?_, ?_⟩
  · rw [(hfinish.sound.block hy).endLine, (hsolo.sound.block hx).endLine]
  · have hpre : l ∉ pre := fun hmem => by
      have := hlt l hmem
      have := hbetween l hl
      omega
    rw [Block.number_fallInto, Block.number_fallInto, idxOf_middle hpre hl]
    exact Int.natCast_add _ _
  · have hedges : ∀ m ∈ post, ∀ e ∈ z.edges, e.key < m := fun m hm e he => by
      have := hgt m hm
      have := hstretch.edge_between hz he
      omega
    rw [Block.edges_fallInto_number z _ (following (pre ++ ms ++ post) l),
      Block.edges_fallInto_number z _ (following ms l), Block.kind_fallInto]
    exact Block.edges_fallInto_middle hnodup hl hedges

/-- A function on lines 3 to 6 with a loop, and no return. -/
def loopingFunction : Node :=
  .mk { label := .functionDeclaration, span := { startRow := 2, endRow := 5 } } [
    .mk { label := .block, span := { startRow := 2, endRow := 5 }, field := some .body } [
      .mk { label := .forStatement, span := { startRow := 3, endRow := 4 } } [
        .mk { label := .block, span := { startRow := 3, endRow := 4 }, field := some .body } []]]]

/-- A function without a body on line 7. -/
def bareFunction : Node :=
  .mk { label := .functionDeclaration, span := { startRow := 6, endRow := 6 } } []

/-- The two functions, below a variable whose if reaches down to the first line of the first, and
with a comment inside that first function. -/
def spacedFile : Node :=
  .mk { label := .other "source_file", span := { startRow := 0, endRow := 7 } } [
    .mk { label := .other "var_declaration", span := { startRow := 0, endRow := 1 } } [
      .mk { label := .ifStatement, span := { startRow := 0, endRow := 1 } } [
        .mk { label := .block, span := { startRow := 0, endRow := 1 }, field := some .consequence }
          []]],
    loopingFunction,
    .mk { label := .other "comment", span := { startRow := 4, endRow := 4 } } [],
    bareFunction]

/-- The looping function has its own graph in that of the file. -/
theorem exists_hosts_spacedFile :
    spacedFile.Layered ∧ loopingFunction ∈ spacedFile.named ∧
      ∃ b solo before own after,
        build (fun _ => (.ok "" : Except Empty String)) spacedFile {} = .ok b ∧
        build (fun _ => (.ok "" : Except Empty String))
          (.mk { label := .other "source_file" } [loopingFunction]) {} = .ok solo ∧
        b.Hosts solo loopingFunction before own after := by
  have hlayered : spacedFile.Layered := ⟨by decide, by decide⟩
  have hmem : loopingFunction ∈ spacedFile.named := .tail _ (.head _)
  have hbuild : ∃ b, build (fun _ => (.ok "" : Except Empty String)) spacedFile {} = .ok b :=
    ⟨_, rfl⟩
  obtain ⟨b, hb⟩ := hbuild
  obtain ⟨solo, before, own, after, hsolo, hhosts⟩ :=
    exists_hosts hlayered hb hmem rfl { label := .other "source_file" }
  exact ⟨hlayered, hmem, b, solo, before, own, after, hb, hsolo, hhosts⟩

/-! ## Edges between functions -/

/-- Two declarations of a file lie on different lines. -/
theorem Node.Layered.disjoint {root m n : Node} (hroot : root.Layered) (hm : m ∈ root.named)
    (hn : n ∈ root.named) (hmf : m.label.isFunction) (hnf : n.label.isFunction) (hne : m ≠ n) :
    m.endLine < n.startLine ∨ n.endLine < m.startLine := by
  have hsymm : Std.Symm fun a b : Node => a.endLine < b.startLine ∨ b.endLine < a.startLine :=
    ⟨fun _ _ h => h.symm⟩
  have hapart : (root.named.filter Node.holdsConstruct).Pairwise fun a b =>
      a.endLine < b.startLine ∨ b.endLine < a.startLine := hroot.apart.imp .inl
  exact hapart.forall (List.mem_filter.2 ⟨hm, Node.holdsConstruct_of_isFunction hmf⟩)
    (List.mem_filter.2 ⟨hn, Node.holdsConstruct_of_isFunction hnf⟩) hne

/-- A function without a return among its statements registers its last line in the end. -/
theorem Stretch.exists_close (h : Stretch decode n cs before own after) (hn : n.label.isFunction)
    {body : Node} (hbody : n.child? .body = some body) (hreturns : Outline.returnLines body = []) :
    ∃ pre name, own = pre ++ [.register n.endLine .returnStatement name] ∧
      Named decode (Outline.nameText n) name := by
  obtain ⟨u, hu⟩ := h.alone
  rcases hu.function_cases hn with
    ⟨name, hnone, -⟩ | ⟨body', name, ds, u', hbody', named, -, hown⟩
  · rw [hbody] at hnone
    cases hnone
  · obtain rfl : body' = body := Option.some.inj (hbody'.symm.trans hbody)
    rw [Walk.closeChanges, hreturns, List.isEmpty_nil, if_pos rfl, ← List.append_assoc,
      ← List.cons_append] at hown
    exact ⟨_, name, hown, named⟩

/-- So it is left on that line, which is a return. -/
theorem Stretch.kind_endLine (h : Stretch decode n cs before own after)
    (hn : n.label.isFunction) {body : Node} (hbody : n.child? .body = some body)
    (hreturns : Outline.returnLines body = []) :
    n.endLine ∈ registeredBy own ∧ ∀ z,
      (({} : Graph).replay own).get? (.line n.endLine) = some z → z.kind = .returnStatement := by
  obtain ⟨pre, name, hown, -⟩ := h.exists_close hn hbody hreturns
  refine ⟨by simp [hown], fun z hz => ?_⟩
  rw [Graph.get?_replay Graph.sound_empty h.admitted, Graph.get?_empty, hown] at hz
  obtain ⟨y, hy, hkind, -, -⟩ :=
    @blockAfter_last n.endLine _ [] .returnStatement name (by simp) none
  rw [← hkind, Option.some.inj (hy.symm.trans hz)]

/-- **Edges between functions**: an edge from the lines of one function to those of another is a
default edge, from a block that falls through to its neighbour in the listing. There is none from a
function with a body and no return among the statements of the body. -/
theorem crosses_iff_fallsThrough {root m n : Node} {b : Build} (hroot : root.Layered)
    (hb : build decode root {} = .ok b) (hm : m ∈ root.named) (hn : n ∈ root.named)
    (hmf : m.label.isFunction) (hnf : n.label.isFunction) (hne : m ≠ n) {k l : Int}
    (hk : m.startLine ≤ k ∧ k ≤ m.endLine) (hl : n.startLine ≤ l ∧ l ≤ n.endLine) :
    (.line l ∈ b.graph.successors (.line k) ↔
      (b.graph.kind? (.line k)).any BlockKind.fallsThrough ∧ [.line k, .line l] <:+: b.listing) ∧
    ∀ body, m.child? .body = some body → Outline.returnLines body = [] →
      .line l ∉ b.graph.successors (.line k) := by
  have hapart := hroot.disjoint hm hn hmf hnf hne
  obtain ⟨cs, w, ls, hvisit, hcs, hfinish⟩ := finishes_of_build Graph.sound_empty hb
  obtain ⟨before, own, after, hstretch⟩ := exists_stretch hroot hvisit hm hmf
  have hwalked : ¬ ∃ x, (({} : Graph).replay cs).get? (.line k) = some x ∧ x.LeadsTo l := by
    rintro ⟨x, hx, hlead⟩
    have hown : k ∈ registeredBy own := (hstretch.mem_own_iff hmf).2
      ⟨Graph.contains_replay_empty.1 (Graph.contains_iff.2 ⟨x, hx⟩), hk⟩
    rw [hstretch.get?_eq hcs hown] at hx
    have hbetween := hstretch.edge_between hx hlead
    simp only at hbetween
    omega
  -- what the walk drew is ruled out, which leaves the default edge
  have hcross := hfinish.mem_successors_iff.trans (or_iff_right hwalked)
  refine ⟨hcross, fun body hbody hreturns hmem => ?_⟩
  obtain ⟨hfalls, hneighbours⟩ := hcross.1 hmem
  have hnext := hfinish.infix_listing_iff.1 hneighbours
  have hlt := following_lt hfinish.ascending hnext
  obtain ⟨hend, hkind⟩ := hstretch.kind_endLine hmf hbody hreturns
  have hlast : m.endLine ∈ ls := (hfinish.mem_lines _).2
    (Graph.contains_replay_empty.2 ((hstretch.mem_own_iff hmf).1 hend).1)
  -- the last line of the function would otherwise be listed between the two neighbours
  obtain rfl : k = m.endLine := by
    by_contra hne
    have hle := following_le hfinish.ascending hnext hlast (by omega)
    omega
  obtain ⟨x, hx, hy⟩ := hfinish.exists_block hlast
  rw [hstretch.get?_eq hcs hend] at hx
  rw [Graph.kind?, hy] at hfalls
  simp [hkind x hx, BlockKind.fallsThrough] at hfalls

/-- The looping function is left on its last line, and not for the function below. -/
theorem crosses_iff_fallsThrough_spacedFile :
    spacedFile.Layered ∧ loopingFunction ∈ spacedFile.named ∧ bareFunction ∈ spacedFile.named ∧
      ∃ b, build (fun _ => (.ok "" : Except Empty String)) spacedFile {} = .ok b ∧
        [.line 6, .line 7] <:+: b.listing ∧ .line 7 ∉ b.graph.successors (.line 6) := by
  have hlayered : spacedFile.Layered := ⟨by decide, by decide⟩
  have hm : loopingFunction ∈ spacedFile.named := .tail _ (.head _)
  have hn : bareFunction ∈ spacedFile.named := .tail _ (.tail _ (.tail _ (.head _)))
  have hne : loopingFunction ≠ bareFunction := fun h =>
    absurd (congrArg Node.startLine h) (by decide)
  have hbuild : ∃ b, build (fun _ => (.ok "" : Except Empty String)) spacedFile {} = .ok b ∧
      [.line 6, .line 7] <:+: b.listing := ⟨_, rfl, by decide⟩
  obtain ⟨b, hb, hneighbours⟩ := hbuild
  have hcross := crosses_iff_fallsThrough hlayered hb hm hn rfl rfl hne (k := 6) (l := 7)
    (by decide) (by decide)
  exact ⟨hlayered, hm, hn, b, hb, hneighbours, hcross.2 _ rfl rfl⟩

/-- A function without a body on line 3, and one with an empty body on lines 5 and 6. -/
def bareAbove : Node :=
  .mk { label := .other "source_file", span := { startRow := 0, endRow := 6 } } [
    .mk { label := .other "package_clause", span := { startRow := 0, endRow := 0 } } [],
    .mk { label := .functionDeclaration, span := { startRow := 2, endRow := 2 } } [],
    .mk { label := .functionDeclaration, span := { startRow := 4, endRow := 5 } } [
      .mk { label := .block, span := { startRow := 4, endRow := 5 }, field := some .body } []]]

/-- The entry of a function without a body falls through to the next function. -/
theorem crosses_bareAbove :
    bareAbove.Layered ∧ bareAbove.hasFault = false ∧
      ∃ m ∈ bareAbove.named, ∃ n ∈ bareAbove.named, m.label.isFunction ∧ n.label.isFunction ∧
        m ≠ n ∧ (m.startLine ≤ 3 ∧ 3 ≤ m.endLine) ∧ (n.startLine ≤ 5 ∧ 5 ≤ n.endLine) ∧
        ∃ b, build (fun _ => (.ok "" : Except Empty String)) bareAbove {} = .ok b ∧
          .line 5 ∈ b.graph.successors (.line 3) := by
  refine ⟨⟨by decide, by decide⟩, by decide, _, .tail _ (.head _), _, .tail _ (.tail _ (.head _)),
    rfl, rfl, fun h => ?_, by decide, by decide, _, rfl, by decide⟩
  exact absurd (congrArg Node.startLine h) (by decide)

end

end GoFlow
