import GoFlow.Proofs.Parts
import GoFlow.Proofs.Sound

/-!
# Promises kept by lists of changes

A line may be taken over any number of times, and every time its edges are gone. What a block of
some kind promises about its edges therefore has to be made good behind the last registration of
its line.

- `Promise`: what blocks owe, by kind and line.
- `Promise.Kept`: a list of changes makes good what each of its registrations promises, unless the
  line is registered again.
- `Promise.Kept.owed`: the blocks that the changes leave have what they owe.
-/

namespace GoFlow

/-- What a block owes, given by its kind, its line and the lines `has` that it leads to. -/
structure Promise where
  owes : BlockKind → Int → (Int → Prop) → Prop
  /-- No edge breaks a promise. -/
  mono : ∀ {kind l has has'}, owes kind l has → (∀ t, has t → has' t) → owes kind l has'

namespace Promise

/-- Behind every registration in the list, unless the line is registered again, come the edges that
the kind owes. -/
def Kept (p : Promise) : List Change → Prop
  | [] => True
  | .register l kind _ :: cs =>
    (l ∉ registeredBy cs → p.owes kind l fun t => .link l t ∈ cs) ∧ p.Kept cs
  | .link _ _ :: cs => p.Kept cs

variable {p : Promise} {cs ds : List Change}

theorem Kept.append (hcs : p.Kept cs) (hds : p.Kept ds) : p.Kept (cs ++ ds) := by
  induction cs with
  | nil => exact hds
  | cons c cs ih =>
    cases c with
    | register l kind owner =>
      show p.Kept (.register l kind owner :: (cs ++ ds))
      refine ⟨fun hl => ?_, ih hcs.2⟩
      rw [registeredBy_append, List.mem_append, not_or] at hl
      exact p.mono (hcs.1 hl.1) fun t => List.mem_append_left ds
    | link s t => exact ih hcs

theorem kept_of_links (h : registeredBy cs = []) : p.Kept cs := by
  induction cs with
  | nil => trivial
  | cons c cs ih =>
    cases c with
    | register l kind owner => cases h
    | link s t => exact ih h

/-- The last registration of a line is followed by what it owes. -/
theorem Kept.last {pre post : List Change} {l : Int} {kind : BlockKind} {owner : String}
    (h : p.Kept (pre ++ .register l kind owner :: post)) (hpost : l ∉ registeredBy post) :
    p.owes kind l fun t => .link l t ∈ post := by
  induction pre with
  | nil => exact h.1 hpost
  | cons c pre ih =>
    cases c with
    | register m k o => exact ih h.2
    | link s t => exact ih h

/-- **Promises are kept in the graph**: the replay of changes that keep a promise leaves each line
that they register with what it owes. -/
theorem Kept.owed {g : Graph} (hg : g.Sound) (hcs : g.AdmitsAll cs) (h : p.Kept cs)
    {l : Int} (hl : l ∈ registeredBy cs) {x : Block} (hx : (g.replay cs).get? (.line l) = some x) :
    p.owes x.kind l x.LeadsTo := by
  obtain ⟨pre, kind, owner, post, rfl, hpost⟩ := exists_last_register hl
  obtain ⟨hkind, -, hleads⟩ := Graph.last_replay hg hcs hpost hx
  rw [hkind]
  exact p.mono (h.last hpost) fun t => (hleads t).2

/-! ## The parts of the constructs -/

/-- A return that owes nothing may be registered any number of times. -/
theorem kept_returns (hret : ∀ l has, p.owes .returnStatement l has) (function : String)
    (ls : List Int) : p.Kept (ls.map (.register · .returnStatement function)) := by
  induction ls with
  | nil => trivial
  | cons l ls ih => exact ⟨fun _ => hret _ _, ih⟩

theorem kept_foresee (hret : ∀ l has, p.owes .returnStatement l has) (function : String)
    (returns : List Int) (last : Int) : p.Kept (Walk.foreseeChanges function returns last) := by
  unfold Walk.foreseeChanges
  split
  · exact ⟨fun _ => hret _ _, trivial⟩
  · exact kept_returns hret function returns

theorem kept_close (hret : ∀ l has, p.owes .returnStatement l has) (function : String)
    (returns : List Int) (last : Int) : p.Kept (Walk.closeChanges function returns last) := by
  unfold Walk.closeChanges
  split
  · exact ⟨fun _ => hret _ _, trivial⟩
  · trivial

/-- A block for the body of a loop leads back to the header. -/
theorem kept_loopEnd (w : Walk) {first last : Int} (hbody : p.owes .forBody last (· = first)) :
    p.Kept (w.loopEndChanges first last) := by
  unfold Walk.loopEndChanges Walk.loopBodyChanges
  split
  · have hback : Walk.backEdgeChanges
        (w.graph.replay [.register last .forBody w.scope.function]) first
          = [.link last first] := by
      simp [Walk.backEdgeChanges, Graph.apply, Graph.kind?_register]
    rw [hback]
    exact ⟨fun _ => p.mono hbody fun t ht => by simp [ht], trivial⟩
  · refine kept_of_links ?_
    unfold Walk.backEdgeChanges
    split <;> rfl

end Promise

theorem registeredBy_clauseEnd (w : Walk) (line : Int) (outer : Scope) :
    registeredBy (w.clauseEndChanges line outer) = [] := by
  unfold Walk.clauseEndChanges
  split
  · rfl
  · split
    · rfl
    · exact registeredBy_linksTo _ _

end GoFlow
