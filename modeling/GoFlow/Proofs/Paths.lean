import GoFlow.Proofs.Integrity
import GoFlow.Proofs.Settled
import Mathlib.Logic.Relation

/-!
# Paths through finished graphs

Control takes an edge that the walk has drawn, unless the line it starts from was registered again,
or runs on from a block that falls through into the one below.

- `Build.Leads`, `Build.OnCycle`: edges and cycles of a finished graph.
- `Build.Finishes.transGen_of_fallsThrough`: blocks that fall through lead down.
- `Draws`: the changes of a walk draw an edge and leave its source alone afterwards.
- `Promise.Kept.owed_middle`: what a line owes after changes in the middle of others.
-/

namespace GoFlow

/-- An edge of a finished graph, from line to line. -/
def Build.Leads (b : Build) (s t : Int) : Prop := .line t ∈ b.graph.successors (.line s)

/-- The block on the line lies on a directed cycle. -/
def Build.OnCycle (b : Build) (l : Int) : Prop := Relation.TransGen b.Leads l l

/-! ## Falling through -/

namespace Build.Finishes

variable {b : Build} {g : Graph} {ls : List Int} {s t : Int}

/-- Edges of the walk are edges of the build. -/
theorem leads_of_leadsTo (h : b.Finishes g ls) {x : Block} (hx : g.get? (.line s) = some x)
    (ht : x.LeadsTo t) : b.Leads s t :=
  h.mem_successors_iff.2 (.inl ⟨x, hx, ht⟩)

/-- A block that falls through leads to the next of the listing. -/
theorem leads_following (h : b.Finishes g ls) {x : Block} (hx : g.get? (.line s) = some x)
    (hfalls : x.kind.fallsThrough) (hnext : following ls s = some t) : b.Leads s t := by
  refine h.mem_successors_iff.2 (.inr ⟨?_, h.infix_listing_iff.2 hnext⟩)
  rw [Graph.kind?, h.get?_eq, hx]
  simpa using hfalls

/-- Above a listed line, some line follows. -/
theorem exists_following (h : b.Finishes g ls) (hs : s ∈ ls) (ht : t ∈ ls) (hst : s < t) :
    ∃ m, following ls s = some m := by
  cases hnext : following ls s with
  | some m => exact ⟨m, rfl⟩
  | none =>
    obtain ⟨pre, rfl⟩ := List.getLast?_eq_some_iff.1
      (getLast?_of_following h.ascending.nodup hs hnext)
    rcases List.mem_append.1 ht with ht | ht
    · have := (List.pairwise_append.1 h.ascending).2.2 t ht s List.mem_cons_self
      omega
    · have := List.mem_singleton.1 ht
      omega

/-- **Falling through**: blocks that all fall through lead down to the line below them. -/
theorem transGen_of_fallsThrough (h : b.Finishes g ls) (hs : s ∈ ls) (ht : t ∈ ls) (hst : s < t)
    (hfalls : ∀ l ∈ ls, s ≤ l → l < t → ∀ x, g.get? (.line l) = some x → x.kind.fallsThrough) :
    Relation.TransGen b.Leads s t := by
  induction hsize : (t - s).toNat using Nat.strongRecOn generalizing s with
  | ind _ ih =>
    subst hsize
    obtain ⟨m, hnext⟩ := h.exists_following hs ht hst
    obtain ⟨x, hx⟩ := Graph.contains_iff.1 ((h.mem_lines s).1 hs)
    have hlead := h.leads_following hx (hfalls s hs (Int.le_refl s) hst x hx) hnext
    have hsm := following_lt h.ascending hnext
    have hmt := following_le h.ascending hnext ht hst
    rcases Int.lt_or_eq_of_le hmt with hmt | rfl
    · have hm : m ∈ ls := (following_eq_some hnext).subset (by simp)
      exact .head hlead (ih _ (by omega) hm hmt
        (fun l hl hml => hfalls l hl (by omega)) rfl)
    · exact .single hlead

end Build.Finishes

/-! ## Changes in the middle of a walk -/

section

variable {g : Graph} {pre ds post : List Change} {l : Int}

/-- What a line owes after changes in the middle of others, if the others do not come back to it. -/
theorem Promise.Kept.owed_middle {p : Promise} (hg : g.Sound)
    (hcs : g.AdmitsAll (pre ++ (ds ++ post))) (h : p.Kept ds) (hl : l ∈ registeredBy ds)
    (hpost : l ∉ registeredBy post) {x : Block}
    (hx : (g.replay (pre ++ (ds ++ post))).get? (.line l) = some x) :
    p.owes x.kind l x.LeadsTo := by
  obtain ⟨first, kind, owner, last, rfl, hlast⟩ := exists_last_register hl
  have heq : pre ++ (first ++ .register l kind owner :: last ++ post)
      = (pre ++ first) ++ .register l kind owner :: (last ++ post) := by simp
  rw [heq] at hcs hx
  obtain ⟨hkind, -, hleads⟩ := Graph.last_replay hg hcs (by simp [hlast, hpost]) hx
  rw [hkind]
  exact p.mono (h.last hlast) fun t ht => (hleads t).2 (List.mem_append_left _ ht)

/-- A registered line keeps the edges that are drawn from it, unless it is registered again. -/
theorem leadsTo_of_link (hg : g.Sound) (hcs : g.AdmitsAll (pre ++ post)) (hl : l ∈ registeredBy pre)
    {t : Int} (hlink : .link l t ∈ post) (hpost : l ∉ registeredBy post) {x : Block}
    (hx : (g.replay (pre ++ post)).get? (.line l) = some x) : x.LeadsTo t := by
  obtain ⟨first, kind, owner, last, rfl, hlast⟩ := exists_last_register hl
  rw [List.append_assoc, List.cons_append] at hcs hx
  obtain ⟨-, -, hleads⟩ := Graph.last_replay hg hcs (by simp [hlast, hpost]) hx
  exact (hleads t).2 (List.mem_append_right _ hlink)

end

/-! ## Edges that are drawn -/

/-- The changes draw an edge from `s` to `t`, and do not register `s` again. -/
def Draws (cs : List Change) (s t : Int) : Prop :=
  ∃ pre post, cs = pre ++ .link s t :: post ∧ s ∉ registeredBy post

namespace Draws

variable {cs ds : List Change} {s t : Int}

/-- A link is drawn if its source is not registered again. -/
theorem of_mem (h : .link s t ∈ cs) (hs : s ∉ registeredBy cs) : Draws cs s t := by
  obtain ⟨pre, post, rfl⟩ := List.mem_iff_append.1 h
  refine ⟨pre, post, rfl, fun hmem => hs ?_⟩
  simp [hmem]

/-- Changes in front do not matter. -/
theorem behind (h : Draws ds s t) (cs : List Change) : Draws (cs ++ ds) s t := by
  obtain ⟨pre, post, rfl, hpost⟩ := h
  exact ⟨cs ++ pre, post, by simp, hpost⟩

/-- Nor do changes behind that keep off the source. -/
theorem ahead (h : Draws cs s t) (hs : s ∉ registeredBy ds) : Draws (cs ++ ds) s t := by
  obtain ⟨pre, post, rfl, hpost⟩ := h
  exact ⟨pre, post ++ ds, by simp, by simp [hpost, hs]⟩

end Draws

/-- Edges that are drawn last as long as their source is not registered again, whatever becomes of
their target. -/
theorem Build.Finishes.leads_of_draws {b : Build} {cs : List Change} {ls : List Int}
    (h : b.Finishes (({} : Graph).replay cs) ls) (hcs : ({} : Graph).AdmitsAll cs) {s t : Int}
    (hdraws : Draws cs s t) : b.Leads s t := by
  obtain ⟨pre, post, rfl, hpost⟩ := hdraws
  obtain ⟨-, ⟨hsource, -⟩, -⟩ := (Graph.admitsAll_append _ _ _).1 hcs
  have hpre : s ∈ registeredBy pre := Graph.contains_replay_empty.1 hsource
  have hcontains : (({} : Graph).replay (pre ++ .link s t :: post)).contains s :=
    Graph.contains_replay_empty.2 (by simp [hpre])
  obtain ⟨x, hx⟩ := Graph.contains_iff.1 hcontains
  exact h.leads_of_leadsTo hx
    (leadsTo_of_link Graph.sound_empty hcs hpre List.mem_cons_self (by simpa using hpost) hx)

/-! ## Lines off all cycles -/

/-- A set of lines that no edge leaves, and that the edges of a line lead into, keeps the line off
all cycles. -/
theorem not_onCycle {b : Build} {l : Int} {ts : List Int} (hl : l ∉ ts)
    (hts : ∀ s ∈ l :: ts, b.graph.successors (.line s) ⊆ ts.map .line) : ¬ b.OnCycle l := by
  have hstep : ∀ s ∈ l :: ts, ∀ t, b.Leads s t → t ∈ ts := by
    intro s hs t ht
    obtain ⟨u, hu, heq⟩ := List.mem_map.1 (hts s hs ht)
    exact Handle.line.inj heq ▸ hu
  have hall : ∀ t, Relation.TransGen b.Leads l t → t ∈ ts := by
    intro t ht
    induction ht with
    | single h => exact hstep l List.mem_cons_self _ h
    | tail _ h ih => exact hstep _ (List.mem_cons_of_mem l ih) _ h
  exact fun h => hl (hall l h)

end GoFlow
