import GoFlow.Proofs.TurningBack
import Mathlib.Data.Int.LeastGreatest

/-!
# Loops are cycles

A loop lies on a cycle if control gets from its header to a block that is linked back to it. Where
statements have lines of their own, the outline of the loop tells which blocks these are, and the
first of them is reached by falling through as long as no return stands open above it.

- `Node.LinksBack`: the lines of a loop that are linked back to its header.
- `LoopCut`: the changes of a walk, cut at a loop. `exists_cutsAt`: every walk can be cut at every
  loop that it comes to.
- `Node.ComesRound`: the loops that control comes round in.
-/

namespace GoFlow

open Outline (Mark lastMark?)

/-! ## The blocks of a loop -/

namespace Node

/-- The blocks in the header of a loop. -/
def headMarks (n : Node) : List Mark := Outline.marks false false (Outline.ofNodes n.headerParts)

/-- The blocks in the body of a loop, with their edges to the loop. -/
def bodyMarks (n : Node) : List Mark :=
  Outline.marks true true (Outline.ofNodes (n.statementsUnder .body))

/-- The block on the line is linked back to the loop. -/
inductive LinksBack (n : Node) : Int → Prop where
  /-- It was linked when the walk came to it or left it. -/
  | inside {t : Int} {m : Mark} (last : lastMark? t n.bodyMarks = some m) (back : m.back) :
      n.LinksBack t
  /-- It was registered last, and is no return. -/
  | newest {m : Mark} (last : n.bodyMarks.getLast? = some m) (kind : m.kind ≠ .returnStatement) :
      n.LinksBack m.line
  /-- It stands for a body without blocks. -/
  | empty (body : n.bodyMarks = []) : n.LinksBack n.endLine

/-- Control comes round in the loop `n`, which stands in the body of a function. -/
inductive ComesRound (n : Node) (b : Build) (body : Node) : Prop where
  /-- No return stands open in the body, and the header holds no construct. -/
  | unbroken (header : ∀ c ∈ n.headerParts, c.constructs = [])
      (bare : ∀ x ∈ n.statementsUnder .body, ∀ r ∈ x.openNodes, r.label ≠ .returnStatement)
  /-- A block is linked back, and all blocks between the header and that block fall through. -/
  | falling {t : Int} (back : n.LinksBack t)
      (falls : ∀ m ∈ n.headMarks ++ n.bodyMarks, m.line < t →
        lastMark? m.line (n.headMarks ++ n.bodyMarks) = some m → m.kind.fallsThrough)
  /-- There is a switch or select that the loop is linked with both ways. -/
  | choice {l : Int} {m : Mark} (last : lastMark? l n.bodyMarks = some m) (back : m.back)
      (ahead : m.ahead)
  /-- A block is linked back to the loop, or to another one that leads to it in turn, and control
  gets to the block. -/
  | reached {f : Node} {t : Int} (hf : f ∈ body.reached) (label : f.label = .forStatement)
      (back : f.LinksBack t) (out : Relation.ReflTransGen b.Leads n.startLine t)
      (into : Relation.ReflTransGen b.Leads f.startLine n.startLine)

end Node

/-! ## Cuts -/

/-- The changes of a walk, cut at a loop on the lines `s` to `e`: what comes before it, its header,
its first line, its body, its end, and what comes behind. What comes behind keeps off the lines of
the loop, and so does what comes before, the first and the last of them apart. -/
structure LoopCut (b : Build) (cs : List Change) (ls : List Int) (s e : Int)
    (hs ds es post : List Change) : Prop where
  finishes : b.Finishes (({} : Graph).replay cs) ls
  admits : ({} : Graph).AdmitsAll cs
  split : ∃ pre scope, cs = pre ++ (hs ++ (Walk.loopChanges scope s ++ (ds ++ (es ++ post)))) ∧
    ∀ l ∈ registeredBy pre, l ≤ s ∨ e ≤ l
  first_lt_last : s < e
  header : ∀ l ∈ registeredBy hs, s < l
  body : ∀ l ∈ registeredBy ds, s < l ∧ l ≤ e
  last : ∀ l ∈ registeredBy es, l = e
  post_off : ∀ l ∈ registeredBy post, l < s ∨ e < l

namespace LoopCut

variable {b : Build} {ls : List Int} {s e l t : Int} {cs hs ds es post : List Change}

/-- What the loop registers is listed. -/
theorem mem_listed (h : LoopCut b cs ls s e hs ds es post)
    (hl : l = s ∨ l ∈ registeredBy ds ∨ l ∈ registeredBy es) : l ∈ ls := by
  obtain ⟨pre, scope, hcs, -⟩ := h.split
  refine (h.finishes.mem_lines l).2 (Graph.contains_replay_empty.2 ?_)
  simp only [hcs, registeredBy_append, List.mem_append, Walk.loopChanges, registeredBy_register,
    List.mem_cons]
  tauto

/-- Between the first and the last line there are the header and the body only. -/
theorem registered_inside (h : LoopCut b cs ls s e hs ds es post) (hl : l ∈ ls) (hsl : s < l)
    (hle : l < e) : l ∈ registeredBy (hs ++ ds) := by
  obtain ⟨pre, scope, hcs, hpre⟩ := h.split
  have hl := Graph.contains_replay_empty.1 ((h.finishes.mem_lines l).1 hl)
  simp only [hcs, registeredBy_append, List.mem_append, Walk.loopChanges, registeredBy_register,
    registeredBy_linksTo, List.mem_cons, List.not_mem_nil, or_false] at hl ⊢
  rcases hl with hl | hl | rfl | hl | hl | hl
  · have := hpre l hl
    omega
  · exact .inl hl
  · omega
  · exact .inr hl
  · have := h.last l hl
    omega
  · have := h.post_off l hl
    omega

/-- Behind a loop, none of its lines is registered again. -/
theorem not_mem_post (h : LoopCut b cs ls s e hs ds es post) (hsl : s ≤ l) (hle : l ≤ e) :
    l ∉ registeredBy post := by
  intro hl
  have := h.post_off l hl
  omega

/-- Neither the body nor the end of the loop comes back to the header. -/
theorem not_mem_first (h : LoopCut b cs ls s e hs ds es post) :
    s ∉ registeredBy (ds ++ (es ++ post)) := by
  have hline := h.first_lt_last
  rw [registeredBy_append, registeredBy_append, List.mem_append, List.mem_append]
  rintro (hs | hs | hs)
  · have := h.body s hs
    omega
  · have := h.last s hs
    omega
  · exact h.not_mem_post (Int.le_refl s) (Int.le_of_lt hline) hs

/-- Edges that are drawn behind the header and not taken back. -/
theorem leads_of_draws (h : LoopCut b cs ls s e hs ds es post)
    (hdraws : Draws (ds ++ (es ++ post)) l t) : b.Leads l t := by
  obtain ⟨pre, scope, hcs, -⟩ := h.split
  refine h.finishes.leads_of_draws h.admits ?_
  rw [hcs]
  exact ((hdraws.behind _).behind hs).behind pre

/-- The kind of a block comes from the last registration of its line. -/
theorem kind_of_last (h : LoopCut b cs ls s e hs ds es post) {first rest : List Change}
    {kind : BlockKind} {owner : String} (hcs : cs = first ++ .register l kind owner :: rest)
    (hrest : l ∉ registeredBy rest) {x : Block}
    (hx : (({} : Graph).replay cs).get? (.line l) = some x) : x.kind = kind := by
  have hadmit := h.admits
  rw [hcs] at hadmit hx
  exact (Graph.last_replay Graph.sound_empty hadmit hrest hx).1

/-- The header keeps its kind. -/
theorem kind_header (h : LoopCut b cs ls s e hs ds es post) {x : Block}
    (hx : (({} : Graph).replay cs).get? (.line s) = some x) : x.kind = .forStatement := by
  obtain ⟨pre, scope, hcs, -⟩ := h.split
  have hrest : s ∉ registeredBy (linksTo s scope.returnTarget ++ (ds ++ (es ++ post))) := by
    rw [registeredBy_append, registeredBy_linksTo]
    exact h.not_mem_first
  have hsplit : cs = (pre ++ hs) ++ .register s .forStatement scope.function
      :: (linksTo s scope.returnTarget ++ (ds ++ (es ++ post))) := by
    rw [hcs, ← List.append_assoc]
    rfl
  exact h.kind_of_last hsplit hrest hx

/-- **Coming round by falling through**: some block leads back, and there is nothing but blocks that
fall through between the header and that block. -/
theorem onCycle_of_falls (h : LoopCut b cs ls s e hs ds es post) (ht : t ∈ ls) (hst : s < t)
    (hback : b.Leads t s)
    (hfalls : ∀ l ∈ ls, s < l → l < t → ∀ x, (({} : Graph).replay cs).get? (.line l) = some x →
      x.kind.fallsThrough) : b.OnCycle s := by
  refine Relation.TransGen.tail (h.finishes.transGen_of_fallsThrough (h.mem_listed (.inl rfl)) ht
    hst fun l hl hsl hlt x hx => ?_) hback
  rcases Int.lt_or_eq_of_le hsl with hsl | rfl
  · exact hfalls l hl hsl hlt x hx
  · rw [h.kind_header hx]
    rfl

/-- A body in which some block does not fall through, or a loop, switch or select stands: the first
such block leads back, since there is no line above it that it could leave the edge to. -/
theorem onCycle_of_turn (h : LoopCut b cs ls s e hs ds es post) (hhs : registeredBy hs = [])
    (hes : registeredBy es = []) {d : Node}
    (hkept : (backTo s (d.TurnsOn (registeredBy ds))).Kept ds)
    (hturn : ∃ l, l ∈ registeredBy ds ∧ (d.TurnsOn (registeredBy ds) l ∨
      ∃ x, (({} : Graph).replay cs).get? (.line l) = some x ∧ x.kind.fallsThrough = false)) :
    b.OnCycle s := by
  -- the first block that turns, or does not fall through
  obtain ⟨l, ⟨hl, hturns⟩, hleast⟩ := Int.exists_least_of_bdd
    ⟨s, fun l hl => Int.le_of_lt (h.body l hl.1).1⟩ hturn
  obtain ⟨hsl, hle⟩ := h.body l hl
  have hlisted := h.mem_listed (.inr (.inl hl))
  obtain ⟨x, hx⟩ := Graph.contains_iff.1 ((h.finishes.mem_lines l).1 hlisted)
  have howes : (backTo s (d.TurnsOn (registeredBy ds))).owes x.kind l x.LeadsTo := by
    obtain ⟨pre, scope, hcs, -⟩ := h.split
    have hmiddle : cs = (pre ++ (hs ++ Walk.loopChanges scope s)) ++ (ds ++ (es ++ post)) := by
      rw [hcs]
      simp
    have hafter : l ∉ registeredBy (es ++ post) := by
      rw [registeredBy_append, hes, List.nil_append]
      exact h.not_mem_post (Int.le_of_lt hsl) hle
    exact hkept.owed_middle Graph.sound_empty (hmiddle ▸ h.admits) hl hafter (hmiddle ▸ hx)
  have hback : x.LeadsTo s := by
    refine (howes (hturns.imp_right ?_)).resolve_right ?_
    · rintro ⟨y, hy, hkind⟩
      rwa [Option.some.inj (hx.symm.trans hy)]
    · -- a line above that turns would come first
      rintro ⟨m, hml, hm⟩
      have := hleast m ⟨hm.1, .inl hm⟩
      omega
  refine h.onCycle_of_falls hlisted hsl (h.finishes.leads_of_leadsTo hx hback)
    fun m hm hsm hml y hy => ?_
  by_contra hfalls
  have hmem := h.registered_inside hm hsm (by omega)
  rw [registeredBy_append, hhs, List.nil_append] at hmem
  have := hleast m ⟨hmem, .inr ⟨y, hy, by simpa using hfalls⟩⟩
  omega

end LoopCut

/-! ## Cuts with marks -/

/-- A walk cut at the loop `n`, with the marks of the header and of the body. -/
structure MarkedCut (b : Build) (cs : List Change) (ls : List Int) (n : Node)
    (hs ds es post : List Change) : Prop
    extends LoopCut b cs ls n.startLine n.endLine hs ds es post where
  walked : ∃ (w : Walk) (g : Graph) (scope : Scope),
    es = w.loopEndChanges n.startLine n.endLine ∧
      w.graph = g.replay (Walk.loopChanges scope n.startLine ++ ds)
  headMarks : Marked n.startLine hs n.headMarks
  bodyMarks : Marked n.startLine ds n.bodyMarks

namespace MarkedCut

variable {b : Build} {ls : List Int} {n : Node} {l t : Int} {m : Mark}
variable {cs hs ds es post : List Change}

/-- As soon as the body registers a line, the end of the loop leaves its lines alone. -/
theorem registeredBy_end (h : MarkedCut b cs ls n hs ds es post) (hl : l ∈ registeredBy ds) :
    registeredBy es = [] := by
  obtain ⟨w, g, scope, rfl, hw⟩ := h.walked
  exact Walk.registeredBy_loopEnd hw (fun l hl => (h.body l hl).1) (List.ne_nil_of_mem hl) _

/-- What the body registered is not registered again when the loop is left, or later. -/
theorem not_mem_after (h : MarkedCut b cs ls n hs ds es post) (hl : l ∈ registeredBy ds) :
    l ∉ registeredBy (es ++ post) := by
  rw [registeredBy_append, h.registeredBy_end hl, List.nil_append]
  exact h.not_mem_post (Int.le_of_lt (h.body l hl).1) (h.body l hl).2

/-- The last registration of a line with a mark of the body. -/
theorem exists_last (h : MarkedCut b cs ls n hs ds es post)
    (hm : lastMark? l n.bodyMarks = some m) :
    l ∈ registeredBy ds ∧ ∃ first owner rest,
      ds = first ++ .register l m.kind owner :: rest ∧ l ∉ registeredBy rest ∧
        (m.back → .link l n.startLine ∈ rest) ∧ (m.ahead → .link n.startLine l ∈ rest) := by
  obtain ⟨first, owner, rest, heq, hrest⟩ := h.bodyMarks.exists_last hm
  exact ⟨by simp [heq], first, owner, rest, heq, hrest⟩

/-- A block that was linked when the walk came to it or left it. -/
theorem leads_of_back (h : MarkedCut b cs ls n hs ds es post)
    (hm : lastMark? t n.bodyMarks = some m) (hback : m.back) : b.Leads t n.startLine := by
  obtain ⟨ht, first, owner, rest, heq, hrest, hlink, -⟩ := h.exists_last hm
  have hdraws : Draws ds t n.startLine := by
    rw [heq]
    exact ((Draws.of_mem (hlink hback) hrest).behind [_]).behind first
  exact h.leads_of_draws (hdraws.ahead (h.not_mem_after ht))

/-- The block that was registered last, unless it is a return. -/
theorem leads_of_newest (h : MarkedCut b cs ls n hs ds es post)
    (hm : n.bodyMarks.getLast? = some m) (hkind : m.kind ≠ .returnStatement) :
    b.Leads m.line n.startLine := by
  obtain ⟨ht, first, owner, rest, heq, hrest, -⟩ :=
    h.exists_last (Outline.lastMark?_of_getLast? hm)
  obtain ⟨w, g, scope, hes, hw⟩ := h.walked
  have hlast : (registeredBy ds).getLast? = some m.line := by
    rw [h.bodyMarks.registeredBy_eq, List.getLast?_map, hm]
    rfl
  have hkind' : ((g.replay (Walk.loopChanges scope n.startLine)).replay ds).kind? (.line m.line)
      = some m.kind := by
    rw [heq, Graph.replay_append, Graph.replay_cons, Graph.kind?_replay_of_not_mem hrest,
      Graph.apply, Graph.kind?_register, if_pos rfl]
  have hne : m.line ≠ n.startLine := by
    have := h.body _ ht
    omega
  rw [Graph.replay_append] at hw
  have hlink : es = [.link m.line n.startLine] := by
    rw [hes, Walk.loopEnd_of_newest hw hlast hne, hkind', if_neg (by simpa using hkind)]
  exact h.leads_of_draws ((Draws.of_mem (by simp [hlink]) (h.not_mem_after ht)).behind ds)

/-- The block of a body without blocks. -/
theorem leads_of_empty (h : MarkedCut b cs ls n hs ds es post) (hempty : n.bodyMarks = []) :
    n.endLine ∈ registeredBy es ∧ b.Leads n.endLine n.startLine := by
  obtain ⟨w, g, scope, hes, hw⟩ := h.walked
  have hds : registeredBy ds = [] := by rw [h.bodyMarks.registeredBy_eq, hempty, List.map_nil]
  rw [Walk.loopEnd_of_empty hw hds] at hes
  have hpost := h.not_mem_post (Int.le_of_lt h.first_lt_last) (Int.le_refl _)
  have hdraws : Draws (es ++ post) n.endLine n.startLine := by
    rw [hes]
    exact ⟨[_], post, rfl, hpost⟩
  exact ⟨by simp [hes], h.leads_of_draws (hdraws.behind ds)⟩

/-- **What is linked back leads back.** -/
theorem leads_of_linksBack (h : MarkedCut b cs ls n hs ds es post) (ht : n.LinksBack t) :
    t ∈ ls ∧ n.startLine < t ∧ t ≤ n.endLine ∧ b.Leads t n.startLine := by
  cases ht with
  | inside last back =>
    obtain ⟨ht, -⟩ := h.exists_last last
    exact ⟨h.mem_listed (.inr (.inl ht)), (h.body t ht).1, (h.body t ht).2,
      h.leads_of_back last back⟩
  | newest last kind =>
    obtain ⟨ht, -⟩ := h.exists_last (Outline.lastMark?_of_getLast? last)
    exact ⟨h.mem_listed (.inr (.inl ht)), (h.body _ ht).1, (h.body _ ht).2,
      h.leads_of_newest last kind⟩
  | empty body =>
    obtain ⟨ht, hback⟩ := h.leads_of_empty body
    exact ⟨h.mem_listed (.inr (.inr ht)), h.first_lt_last, Int.le_refl _, hback⟩

/-- A block of the body has the kind of the mark that is left on its line. -/
theorem kind_of_mark (h : MarkedCut b cs ls n hs ds es post)
    (hm : lastMark? l n.bodyMarks = some m) {x : Block}
    (hx : (({} : Graph).replay cs).get? (.line l) = some x) : x.kind = m.kind := by
  obtain ⟨hl, first, owner, rest, heq, hrest, -⟩ := h.exists_last hm
  obtain ⟨pre, scope, hcs, -⟩ := h.split
  have hsplit : cs = (pre ++ (hs ++ (Walk.loopChanges scope n.startLine ++ first)))
      ++ .register l m.kind owner :: (rest ++ (es ++ post)) := by
    rw [hcs, heq]
    simp
  refine h.kind_of_last hsplit ?_ hx
  rw [registeredBy_append, List.mem_append, not_or]
  exact ⟨hrest, h.not_mem_after hl⟩

/-- Inside the loop, a block has the kind of the mark that is left on its line. -/
theorem exists_mark (h : MarkedCut b cs ls n hs ds es post) (hl : l ∈ ls) (hsl : n.startLine < l)
    (hle : l < n.endLine) {x : Block} (hx : (({} : Graph).replay cs).get? (.line l) = some x) :
    ∃ m, lastMark? l (n.headMarks ++ n.bodyMarks) = some m ∧ x.kind = m.kind := by
  have hmem := h.registered_inside hl hsl hle
  cases hbody : lastMark? l n.bodyMarks with
  | some m => exact ⟨m, by rw [Outline.lastMark?_append, hbody]; rfl, h.kind_of_mark hbody hx⟩
  | none =>
    -- neither the body nor what comes behind takes the line of the header over
    have hds : l ∉ registeredBy ds := by
      rw [h.bodyMarks.registeredBy_eq]
      exact Outline.lastMark?_eq_none.1 hbody
    cases hhead : lastMark? l n.headMarks with
    | none =>
      rw [registeredBy_append, h.headMarks.registeredBy_eq, List.mem_append] at hmem
      exact absurd (hmem.resolve_right hds) (Outline.lastMark?_eq_none.1 hhead)
    | some m =>
      obtain ⟨first, owner, rest, heq, hrest, -⟩ := h.headMarks.exists_last hhead
      obtain ⟨pre, scope, hcs, -⟩ := h.split
      have hsplit : cs = (pre ++ first) ++ .register l m.kind owner
          :: (rest ++ (Walk.loopChanges scope n.startLine ++ (ds ++ (es ++ post)))) := by
        rw [hcs, heq]
        simp
      have hes : l ∉ registeredBy es := by
        intro hmem
        have := h.last l hmem
        omega
      have hpost := h.not_mem_post (Int.le_of_lt hsl) (Int.le_of_lt hle)
      have hne : l ≠ n.startLine := by omega
      exact ⟨m, by rw [Outline.lastMark?_append, hbody, hhead]; rfl,
        h.kind_of_last hsplit (by simp [Walk.loopChanges, hrest, hds, hes, hpost, hne]) hx⟩

/-! ### Coming round -/

/-- A block is linked back, and all blocks above it fall through. -/
theorem onCycle_of_falling (h : MarkedCut b cs ls n hs ds es post) (ht : n.LinksBack t)
    (hfalls : ∀ m ∈ n.headMarks ++ n.bodyMarks, m.line < t →
      lastMark? m.line (n.headMarks ++ n.bodyMarks) = some m → m.kind.fallsThrough) :
    b.OnCycle n.startLine := by
  obtain ⟨hlisted, hst, hte, hback⟩ := h.leads_of_linksBack ht
  refine h.onCycle_of_falls hlisted hst hback fun l hl hsl hlt x hx => ?_
  obtain ⟨m, hm, hkind⟩ := h.exists_mark hl hsl (by omega) hx
  obtain ⟨hmem, rfl⟩ := Outline.mem_of_lastMark? hm
  rw [hkind]
  exact hfalls m hmem hlt hm

/-- A switch or select is linked with the loop both ways. -/
theorem onCycle_of_choice (h : MarkedCut b cs ls n hs ds es post)
    (hm : lastMark? l n.bodyMarks = some m) (hback : m.back) (hahead : m.ahead) :
    b.OnCycle n.startLine := by
  obtain ⟨-, first, owner, rest, heq, -, -, hlink⟩ := h.exists_last hm
  have hmem : .link n.startLine l ∈ ds ++ (es ++ post) := by
    simp [heq, hlink hahead]
  exact .tail (.single (h.leads_of_draws (Draws.of_mem hmem h.not_mem_first)))
    (h.leads_of_back hm hback)

/-- Nothing returns in the body, and nothing is registered in the header: the first block that does
not fall through leads back, or else the block that was registered last. -/
theorem onCycle_of_unbroken (h : MarkedCut b cs ls n hs ds es post) (hhs : registeredBy hs = [])
    {d : Node} (hkept : (backTo n.startLine (d.TurnsOn (registeredBy ds))).Kept ds) :
    b.OnCycle n.startLine := by
  have hinside : ∀ l ∈ ls, n.startLine < l → l < n.endLine → l ∈ registeredBy ds := by
    intro l hl hsl hle
    have hmem := h.registered_inside hl hsl hle
    rwa [registeredBy_append, hhs, List.nil_append] at hmem
  cases hlast : n.bodyMarks.getLast? with
  | none =>
    have hempty := List.getLast?_eq_none_iff.1 hlast
    obtain ⟨ht, hst, -, hback⟩ := h.leads_of_linksBack (.empty hempty)
    refine h.onCycle_of_falls ht hst hback fun l hl hsl hle => ?_
    have hmem := hinside l hl hsl hle
    rw [h.bodyMarks.registeredBy_eq, hempty] at hmem
    cases hmem
  | some m =>
    have hmark := Outline.lastMark?_of_getLast? hlast
    have hm := (h.exists_last hmark).1
    by_cases hturn : ∃ l, l ∈ registeredBy ds ∧ (d.TurnsOn (registeredBy ds) l ∨
        ∃ x, (({} : Graph).replay cs).get? (.line l) = some x ∧ x.kind.fallsThrough = false)
    · exact h.onCycle_of_turn hhs (h.registeredBy_end hm) hkept hturn
    · have hfalls : ∀ l ∈ registeredBy ds, ∀ x,
          (({} : Graph).replay cs).get? (.line l) = some x → x.kind.fallsThrough := by
        intro l hl x hx
        by_contra hkind
        exact hturn ⟨l, hl, .inr ⟨x, hx, by simpa using hkind⟩⟩
      -- the block that was registered last falls through too, so it is no return
      have hkind : m.kind ≠ .returnStatement := by
        intro hret
        obtain ⟨x, hx⟩ := Graph.contains_iff.1
          ((h.finishes.mem_lines _).1 (h.mem_listed (.inr (.inl hm))))
        have hfall := hfalls _ hm x hx
        rw [h.kind_of_mark hmark hx, hret] at hfall
        cases hfall
      obtain ⟨ht, hst, hte, hback⟩ := h.leads_of_linksBack (.newest hlast hkind)
      exact h.onCycle_of_falls ht hst hback fun l hl hsl hlt =>
        hfalls l (hinside l hl hsl (by omega))

end MarkedCut

/-! ## Builds -/

section

variable {ε : Type} {decode : List UInt8 → Except ε String} {root d body n : Node} {b : Build}

/-- A visit to a loop of a function, cut out of the walk over the file. -/
structure CutsAt (decode : List UInt8 → Except ε String) (d n : Node) (b : Build) (u : Walk)
    (hs ds : List Change) : Prop where
  files : u.scope.FilesUnder decode (some d)
  visits : ∃ w₁ w₂, Visits decode (.nodes n.headerParts) u hs w₁ ∧
    Visits decode (.nodes (n.statementsUnder .body))
      ((w₁.aimAt u.scope.returnTarget).enterLoop n.startLine) ds w₂
  marked : ∃ cs ls es post, MarkedCut b cs ls n hs ds es post

/-- **Every walk can be cut** at every loop that it comes to. -/
theorem exists_cutsAt (hroot : root.Spread) (hb : build decode root {} = .ok b)
    (hd : d ∈ root.nodes) (hfunction : d.label.isFunction) (hbody : d.child? .body = some body)
    (hn : n ∈ body.reached) (hlabel : n.label = .forStatement) :
    ∃ u hs ds, CutsAt decode d n b u hs ds := by
  obtain ⟨cs, w, ls, hvisit, hadmit, hfinish⟩ := finishes_of_build Graph.sound_empty hb
  have hchild := hroot.mem_children hd hfunction
  have hn' : n ∈ Node.nodesIn d.children := Node.mem_nodesIn.2
    ⟨body, Node.child?_mem hbody, Node.reached_subset body hn⟩
  have hdown := Node.hereditary_nodesIn d.children
  obtain ⟨before, own, after, rfl, ⟨u, u', hloop, hu⟩, hbefore, hafter⟩ :=
    hvisit.passes_file hroot ⟨rfl, rfl, rfl⟩ hd hfunction hbody hn (by rw [hlabel]; rfl)
  obtain ⟨hs, w₁, ds, w₂, header, inside, rfl⟩ := hloop.loop_cases hlabel
  have hscope : ((w₁.aimAt u.scope.returnTarget).enterLoop n.startLine).scope.Inside n.startLine
      true true := by
    rw [Walk.scope_enterLoop]
    exact ⟨fun _ => rfl, fun _ => rfl⟩
  have hu₁ := (header.filesUnder hu).enterLoop u.scope.returnTarget n.startLine
  have hcut : MarkedCut b _ ls n hs ds (w₂.loopEndChanges n.startLine n.endLine) after :=
    { finishes := hfinish
      admits := hadmit
      split := ⟨before, u.scope, by simp, hbefore⟩
      first_lt_last := (hroot.loopBody n (Node.mem_nodes_of_inside hchild hn') hlabel).1
      header := header.registered_header hroot hchild hu hn' (by rw [hlabel]; rfl)
      body := inside.registered_loopBody hroot hchild hn' hlabel hu₁
      last := fun _ hl => eq_of_registered_loopEnd hl
      post_off := hafter
      walked := ⟨w₂, w₁.graph, u.scope, rfl, by
        rw [inside.graph_eq, header.graph_enterLoop, Graph.replay_append]⟩
      headMarks := header.marked hroot hchild hfunction false false (hdown.headerParts hn') hu
        (Scope.inside_false _ _)
      bodyMarks := inside.marked hroot hchild hfunction true true (hdown.statementsUnder hn' _) hu₁
        hscope }
  exact ⟨u, hs, ds, hu, ⟨w₁, w₂, header, inside⟩, _, _, _, _, hcut⟩

/-- A loop without open returns and without constructs in its header. -/
theorem CutsAt.onCycle_of_unbroken {u : Walk} {hs ds : List Change}
    (h : CutsAt decode d n b u hs ds) (hroot : root.Spread) (hd : d ∈ root.children)
    (hn : n ∈ Node.nodesIn d.children) (hheader : ∀ c ∈ n.headerParts, c.constructs = [])
    (hbare : ∀ x ∈ n.statementsUnder .body, ∀ r ∈ x.openNodes, r.label ≠ .returnStatement) :
    b.OnCycle n.startLine := by
  have hdown := Node.hereditary_nodesIn d.children
  obtain ⟨w₁, w₂, header, inside⟩ := h.visits
  obtain ⟨cs, ls, es, post, hmarked⟩ := h.marked
  have hquiet : registeredBy hs = [] := by
    refine List.eq_nil_iff_forall_not_mem.2 fun l hl => ?_
    obtain ⟨c, hc, m, hm, -⟩ := header.exists_construct hroot hd (hdown.headerParts hn) h.files hl
    rw [hheader c hc] at hm
    cases hm
  have hopen := inside.openReturns_eq_nil hroot.toGoShaped (fun x hx =>
    Node.mem_nodes_of_inside hd (hdown.statementsUnder hn _ x hx)) hbare
  have hscope : ((w₁.aimAt u.scope.returnTarget).enterLoop n.startLine).scope.Inside n.startLine
      true true := by
    rw [Walk.scope_enterLoop]
    exact ⟨fun _ => rfl, fun _ => rfl⟩
  exact hmarked.onCycle_of_unbroken hquiet (inside.turnsBack hroot hd
    (hdown.statementsUnder hn _) hopen ((header.filesUnder h.files).enterLoop _ _) hscope
    (List.Subset.refl _))

end

/-- A loop that returns from an if and goes on below it. -/
def spawnLoop : Node :=
  .mk { label := .forStatement, span := { startRow := 1, endRow := 6 } } [
    .mk { label := .block, span := { startRow := 1, endRow := 6 }, field := some .body } [
      .mk { label := .statementList, span := { startRow := 2, endRow := 5 } } [
        .mk { label := .ifStatement, span := { startRow := 2, endRow := 4 } } [
          .mk { label := .block, span := { startRow := 2, endRow := 4 },
                field := some .consequence } [
            .mk { label := .returnStatement, span := { startRow := 3, endRow := 3 } } []]],
        .mk { label := .goStatement, span := { startRow := 5, endRow := 5 } } []]]]

/-- A loop that comes to another if before the one that returns. -/
def guardLoop : Node :=
  .mk { label := .forStatement, span := { startRow := 7, endRow := 13 } } [
    .mk { label := .block, span := { startRow := 7, endRow := 13 }, field := some .body } [
      .mk { label := .statementList, span := { startRow := 8, endRow := 12 } } [
        .mk { label := .ifStatement, span := { startRow := 8, endRow := 9 } } [
          .mk { label := .block, span := { startRow := 8, endRow := 9 },
                field := some .consequence } []],
        .mk { label := .ifStatement, span := { startRow := 10, endRow := 12 } } [
          .mk { label := .block, span := { startRow := 10, endRow := 12 },
                field := some .consequence } [
            .mk { label := .returnStatement, span := { startRow := 11, endRow := 11 } } []]]]]]

/-- A loop that returns from a select. -/
def pollLoop : Node :=
  .mk { label := .forStatement, span := { startRow := 14, endRow := 19 } } [
    .mk { label := .block, span := { startRow := 14, endRow := 19 }, field := some .body } [
      .mk { label := .statementList, span := { startRow := 15, endRow := 18 } } [
        .mk { label := .selectStatement, span := { startRow := 15, endRow := 18 } } [
          .mk { label := .communicationCase, span := { startRow := 16, endRow := 17 } } [
            .mk { label := .colon, span := { startRow := 16, endRow := 16 }, named := false } [],
            .mk { label := .statementList, span := { startRow := 17, endRow := 17 } } [
              .mk { label := .returnStatement, span := { startRow := 17, endRow := 17 } } []]]]]]]

/-- A loop that returns from an if and does nothing else. -/
def innerLoop : Node :=
  .mk { label := .forStatement, span := { startRow := 21, endRow := 25 } } [
    .mk { label := .block, span := { startRow := 21, endRow := 25 }, field := some .body } [
      .mk { label := .statementList, span := { startRow := 22, endRow := 24 } } [
        .mk { label := .ifStatement, span := { startRow := 22, endRow := 24 } } [
          .mk { label := .block, span := { startRow := 22, endRow := 24 },
                field := some .consequence } [
            .mk { label := .returnStatement, span := { startRow := 23, endRow := 23 } } []]]]]]

/-- A loop around it. -/
def outerLoop : Node :=
  .mk { label := .forStatement, span := { startRow := 20, endRow := 26 } } [
    .mk { label := .block, span := { startRow := 20, endRow := 26 }, field := some .body } [
      innerLoop]]

def roundBody : Node :=
  .mk { label := .block, span := { startRow := 0, endRow := 27 }, field := some .body } [
    .mk { label := .statementList, span := { startRow := 1, endRow := 26 } } [
      spawnLoop, guardLoop, pollLoop, outerLoop]]

def roundTree : Node :=
  .mk { label := .other "source_file", span := { startRow := 0, endRow := 27 } } [
    .mk { label := .functionDeclaration, span := { startRow := 0, endRow := 27 } } [roundBody]]

/-- The file below is spread over its lines as the theorem asks. -/
theorem spread_roundTree : roundTree.Spread :=
  { root_plain := rfl, top := by decide, leaf := by decide, fields := by decide,
    body := by decide, cond := by decide, loop := by decide, choice := by decide,
    nested := rfl, ordered := by decide, apart := by decide, braces := by decide,
    alternative := by decide, clause := by decide, loopBody := by decide }

/-- The edges that the first loop and the inner one come round by, besides those that lead back. -/
theorem exists_build_roundTree :
    ∃ b, build (fun _ => (.ok "" : Except Empty String)) roundTree {} = .ok b ∧
      b.Leads 2 3 ∧ b.Leads 3 6 ∧ b.Leads 21 22 := by
  have hedges : ((build (fun _ => (.ok "" : Except Empty String)) roundTree {}).toOption.map
      fun b => [2, 3, 21].map fun l => b.graph.successors (.line l))
        = some [[.line 3, .line 28], [.line 4, .line 6], [.line 22, .line 28]] := by
    decide +kernel
  cases hb : build (fun _ => (.ok "" : Except Empty String)) roundTree {} with
  | error e =>
    rw [hb] at hedges
    cases hedges
  | ok b =>
    rw [hb] at hedges
    simp only [Except.toOption, Option.map_some, List.map_cons, List.map_nil, Option.some.injEq,
      List.cons.injEq, and_true] at hedges
    obtain ⟨h₁, h₂, h₃⟩ := hedges
    exact ⟨b, rfl, by simp [Build.Leads, h₁], by simp [Build.Leads, h₂], by simp [Build.Leads, h₃]⟩

/-- A function with a loop around an if that returns. -/
def searchBody : Node :=
  .mk { label := .block, span := { startRow := 2, endRow := 8 }, field := some .body } [
    .mk { label := .statementList, span := { startRow := 3, endRow := 7 } } [
      .mk { label := .forStatement, span := { startRow := 3, endRow := 7 } } [
        .mk { label := .block, span := { startRow := 3, endRow := 7 }, field := some .body } [
          .mk { label := .statementList, span := { startRow := 4, endRow := 6 } } [
            .mk { label := .ifStatement, span := { startRow := 4, endRow := 6 } } [
              .mk { label := .other "identifier", span := { startRow := 4, endRow := 4 },
                    field := some .condition } [],
              .mk { label := .block, span := { startRow := 4, endRow := 6 },
                    field := some .consequence } [
                .mk { label := .statementList, span := { startRow := 5, endRow := 5 } } [
                  .mk { label := .returnStatement,
                        span := { startRow := 5, endRow := 5 } } []]]]]]]]]

def searchTree : Node :=
  .mk { label := .other "source_file", span := { startRow := 0, endRow := 9 } } [
    .mk { label := .functionDeclaration, span := { startRow := 2, endRow := 8 } } [searchBody]]

end GoFlow
