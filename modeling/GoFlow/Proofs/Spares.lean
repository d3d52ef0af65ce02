import GoFlow.Proofs.Settled

/-!
# Changes that spare returns

A return starts without edges. It gets one only if its line is linked from after the return was
registered there, since a link asks for a line and not for what is registered on it.

- `Spares`: changes that link from returns on allowed lines only, or on lines registered anew later.
- `Spares.allowed_of_link`: a return that is left with an edge is on an allowed line.
- `spares_loopEnd` and its like: the parts of the constructs that look at the kind of a line before
  they link from it, or have registered it themselves, spare all returns.
-/

namespace GoFlow

/-- Whenever the changes link from a line that is a return by then, the line is one of those allowed
or is registered anew later. -/
def Spares (allowed : Int → Prop) : Graph → List Change → Prop
  | _, [] => True
  | g, c :: cs =>
    (∀ s t, c = .link s t → g.kind? (.line s) = some .returnStatement →
      s ∈ registeredBy cs ∨ allowed s) ∧ Spares allowed (g.apply c) cs

section

variable {allowed : Int → Prop} {cs ds : List Change}

theorem Spares.mono {allowed' : Int → Prop} (hallowed : ∀ s, allowed s → allowed' s) :
    ∀ {g : Graph}, Spares allowed g cs → Spares allowed' g cs := by
  induction cs with
  | nil => exact fun _ => trivial
  | cons c cs ih =>
    exact fun h => ⟨fun s t hc hs => (h.1 s t hc hs).imp_right (hallowed s), ih h.2⟩

/-- A line that later changes register may be linked from. -/
theorem Spares.append_of {g : Graph}
    (hcs : Spares (fun s => s ∈ registeredBy ds ∨ allowed s) g cs)
    (hds : Spares allowed (g.replay cs) ds) : Spares allowed g (cs ++ ds) := by
  induction cs generalizing g with
  | nil => exact hds
  | cons c cs ih =>
    refine ⟨fun s t hc hs => ?_, ih hcs.2 hds⟩
    show s ∈ registeredBy (cs ++ ds) ∨ allowed s
    rw [registeredBy_append, List.mem_append, or_assoc]
    exact hcs.1 s t hc hs

/-- Changes spare the returns one after the other, in the graph that each part finds. -/
theorem Spares.append {g : Graph} (hcs : Spares allowed g cs)
    (hds : Spares allowed (g.replay cs) ds) : Spares allowed g (cs ++ ds) :=
  Spares.append_of (hcs.mono fun _ => .inr) hds

theorem Spares.register {g : Graph} {l : Int} {kind : BlockKind} {owner : String}
    (h : Spares allowed (g.register l kind owner) cs) :
    Spares allowed g (.register l kind owner :: cs) :=
  ⟨fun _ _ hc => (nomatch hc), h⟩

/-- Links spare the returns that they do not start from. -/
theorem spares_links (hcs : registeredBy cs = []) :
    ∀ {g : Graph}, (∀ s t, .link s t ∈ cs → g.kind? (.line s) = some .returnStatement →
      allowed s) → Spares allowed g cs := by
  induction cs with
  | nil => exact fun _ => trivial
  | cons c cs ih =>
    intro g h
    cases c with
    | register l kind owner => cases hcs
    | link s t =>
      refine ⟨fun s' t' hc hs => .inr (h s' t' (hc ▸ List.mem_cons_self) hs),
        ih hcs fun s' t' hmem hs => ?_⟩
      rw [Graph.apply, Graph.kind?_link] at hs
      exact h s' t' (List.mem_cons_of_mem _ hmem) hs

/-- Registrations spare all of them. -/
theorem spares_registers (hcs : ∀ s t, .link s t ∉ cs) : ∀ {g : Graph}, Spares allowed g cs := by
  induction cs with
  | nil => exact trivial
  | cons c cs ih =>
    refine fun {g} => ⟨fun s t hc => ?_, ih fun s t hmem => hcs s t (List.mem_cons_of_mem c hmem)⟩
    exact absurd (hc ▸ List.mem_cons_self) (hcs s t)

/-- Only allowed lines are linked from after a return has taken them over for good. -/
theorem Spares.allowed_of_link {g : Graph} {l t : Int} {pre post : List Change} {owner : String}
    (h : Spares allowed g (pre ++ .register l .returnStatement owner :: post))
    (hpost : l ∉ registeredBy post) (ht : .link l t ∈ post) : allowed l := by
  induction pre generalizing g with
  | cons c pre ih => exact ih h.2
  | nil =>
    have hkind : (g.apply (.register l .returnStatement owner)).kind? (.line l)
        = some .returnStatement := by
      rw [Graph.apply, Graph.kind?_register, if_pos rfl]
    have hrest := h.2
    generalize g.apply (.register l .returnStatement owner) = g' at hkind hrest
    -- the line stays a return, as nothing behind registers it
    clear h g
    induction post generalizing g' with
    | nil => cases ht
    | cons c post ih =>
      rcases List.mem_cons.1 ht with rfl | hmem
      · exact (hrest.1 l t rfl hkind).resolve_left hpost
      · cases c with
        | link s t' =>
          exact ih hpost hmem _ (by rw [Graph.apply, Graph.kind?_link]; exact hkind) hrest.2
        | register m kind o =>
          rw [registeredBy_register, List.mem_cons, not_or] at hpost
          refine ih hpost.2 hmem _ ?_ hrest.2
          rw [Graph.apply, Graph.kind?_register, if_neg hpost.1]
          exact hkind

/-! ## The parts of the constructs -/

theorem spares_foresee (function : String) (returns : List Int) (last : Int) {g : Graph} :
    Spares allowed g (Walk.foreseeChanges function returns last) := by
  refine spares_registers fun s t hmem => ?_
  unfold Walk.foreseeChanges at hmem
  split at hmem <;> simp at hmem

theorem spares_close (function : String) (returns : List Int) (last : Int) {g : Graph} :
    Spares allowed g (Walk.closeChanges function returns last) := by
  refine spares_registers fun s t hmem => ?_
  unfold Walk.closeChanges at hmem
  split at hmem <;> simp at hmem

/-- The kinds that an if gives to its lines, whichever of them coincide. -/
theorem kind?_cond (g : Graph) (s : Scope) (line elseLine elseEnd l : Int)
    (hl : l = line ∨ l = elseLine ∨ l = elseEnd) :
    (g.replay (Walk.condChanges s line elseLine elseEnd)).kind? (.line l)
      ≠ some .returnStatement := by
  simp only [Walk.condChanges, Graph.replay_cons, Graph.replay_nil, Graph.apply, Graph.kind?_link,
    Graph.kind?_register]
  split
  · simp
  · split
    · simp
    · simp_all

/-- An if has just overwritten the block that it links. -/
theorem spares_cond (g : Graph) (s : Scope) (line elseLine elseEnd : Int) :
    Spares allowed g (Walk.condChanges s line elseLine elseEnd) := by
  refine .register (.register (.register ⟨fun m t hc hkind => ?_, trivial⟩))
  obtain ⟨rfl, rfl⟩ := Change.link.inj hc
  refine absurd ?_ (kind?_cond g s line elseLine elseEnd line (.inl rfl))
  simpa [Walk.condChanges, Graph.apply] using hkind

theorem kind?_register_links (g : Graph) (l : Int) (kind : BlockKind) (owner : String)
    {cs : List Change} (hcs : registeredBy cs = []) :
    (g.replay (.register l kind owner :: cs)).kind? (.line l) = some kind := by
  rw [Graph.replay_cons, Graph.kind?_replay_of_not_mem (by simp [hcs]), Graph.apply,
    Graph.kind?_register, if_pos rfl]

/-- So has a loop. -/
theorem spares_loop (g : Graph) (s : Scope) (line : Int) :
    Spares allowed g (Walk.loopChanges s line) := by
  refine .register (spares_links (registeredBy_linksTo _ _) fun m t hmem hm => ?_)
  obtain ⟨_, -, heq⟩ := mem_linksTo.1 hmem
  obtain ⟨rfl, -⟩ := Change.link.inj heq
  rw [Graph.kind?_register, if_pos rfl] at hm
  cases hm

/-- The edge back from the end of a loop is guarded. -/
theorem spares_loopEnd (w : Walk) (first last : Int) :
    Spares allowed w.graph (w.loopEndChanges first last) := by
  refine Spares.append (spares_registers fun s t hmem => ?_) ?_
  · unfold Walk.loopBodyChanges at hmem
    split at hmem <;> simp at hmem
  · unfold Walk.backEdgeChanges
    split
    · trivial
    · rename_i hkind
      refine ⟨fun s t hc hs => ?_, trivial⟩
      obtain ⟨rfl, rfl⟩ := Change.link.inj hc
      exact absurd hs hkind

/-- So is the edge that leaves a clause. -/
theorem spares_clauseEnd (w : Walk) (line : Int) (outer : Scope) :
    Spares allowed w.graph (w.clauseEndChanges line outer) := by
  refine spares_links (registeredBy_clauseEnd w line outer) fun s t hmem hs => ?_
  unfold Walk.clauseEndChanges at hmem
  split at hmem
  · cases hmem
  · rename_i hkind
    split at hmem
    · cases hmem
    · obtain ⟨m, -, heq⟩ := mem_linksTo.1 hmem
      obtain ⟨rfl, rfl⟩ := Change.link.inj heq
      exact absurd (.inl hs) hkind

end

end GoFlow
