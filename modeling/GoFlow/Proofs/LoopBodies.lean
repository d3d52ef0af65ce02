import GoFlow.Proofs.Returns

/-!
# The bodies of loops

At the end of a loop, the block registered last tells whether the body registered anything: if it is
still the header, the body gets a block of its own. The check goes by the line and the kind of that
block, and bodies may register the line of the header too.

- `lastKind?`: the kind of the last registration on lines of some sort.
- `Visits.lastKind?_ne`: the last registration of a visit is never the header of a loop.
- `Visits.registeredBy_eq_nil_of_forBody`: so only bodies that register nothing get the block.
-/

namespace GoFlow

/-! ## The last registration -/

/-- The kind of the last registration on a line with the property. -/
def lastKind? (p : Int → Bool) : List Change → Option BlockKind
  | [] => none
  | .register l kind _ :: cs => (lastKind? p cs).or (if p l then some kind else none)
  | .link _ _ :: cs => lastKind? p cs

section

variable {p : Int → Bool} {cs ds : List Change} {l : Int}

theorem lastKind?_append : lastKind? p (cs ++ ds) = (lastKind? p ds).or (lastKind? p cs) := by
  induction cs with
  | nil => rw [List.nil_append, lastKind?, Option.or_none]
  | cons c cs ih =>
    cases c with
    | register l kind owner => rw [List.cons_append, lastKind?, lastKind?, ih, Option.or_assoc]
    | link s t => rw [List.cons_append, lastKind?, lastKind?, ih]

/-- There is one as soon as such a line is registered. -/
theorem lastKind?_eq_none : lastKind? p cs = none ↔ ∀ l ∈ registeredBy cs, p l = false := by
  induction cs with
  | nil => simp [lastKind?]
  | cons c cs ih =>
    cases c with
    | register l kind owner => simp [lastKind?, ih, and_comm]
    | link s t => rw [lastKind?, registeredBy_link, ih]

theorem lastKind?_of_links (h : registeredBy cs = []) : lastKind? p cs = none :=
  lastKind?_eq_none.2 (by simp [h])

theorem exists_register_of_lastKind? {kind : BlockKind} (h : lastKind? p cs = some kind) :
    ∃ l owner, .register l kind owner ∈ cs := by
  induction cs with
  | nil => cases h
  | cons c cs ih =>
    have hrest : lastKind? p cs = some kind → ∃ l owner, .register l kind owner ∈ c :: cs := by
      intro h
      obtain ⟨l, owner, hmem⟩ := ih h
      exact ⟨l, owner, List.mem_cons_of_mem c hmem⟩
    cases c with
    | link s t => exact hrest h
    | register l kind' owner =>
      rw [lastKind?, Option.or_eq_some_iff] at h
      rcases h with h | ⟨-, h⟩
      · exact hrest h
      · cases (Option.ite_none_right_eq_some.1 h).2
        exact ⟨l, owner, List.mem_cons_self⟩

/-- The last registration of all is the last one of its line. -/
theorem lastKind?_of_getLast? (h : (registeredBy cs).getLast? = some l) :
    lastKind? (· == l) cs = lastKind? (fun _ => true) cs := by
  induction cs with
  | nil => cases h
  | cons c cs ih =>
    cases c with
    | link s t => exact ih h
    | register m kind owner =>
      rw [registeredBy_register, List.getLast?_cons] at h
      rw [lastKind?, lastKind?]
      cases hlast : (registeredBy cs).getLast? with
      | none =>
        rw [hlast] at h
        have hnone : registeredBy cs = [] := List.getLast?_eq_none_iff.1 hlast
        rw [lastKind?_of_links hnone, lastKind?_of_links hnone]
        simp_all
      | some t =>
        rw [hlast] at h
        obtain rfl : t = l := Option.some.inj h
        rw [ih hlast]
        cases hkind : lastKind? (fun _ => true) cs with
        | none =>
          have := lastKind?_eq_none.1 hkind t (List.mem_of_getLast? hlast)
          cases this
        | some kind' => rfl

/-- The kind of a line is that of its last registration. -/
theorem Graph.kind?_replay_eq (cs : List Change) (l : Int) : ∀ g : Graph,
    (g.replay cs).kind? (.line l) = (lastKind? (· == l) cs).or (g.kind? (.line l)) := by
  induction cs with
  | nil => intro g; rfl
  | cons c cs ih =>
    intro g
    rw [replay_cons, ih]
    cases c with
    | link s t => rw [apply, kind?_link, lastKind?]
    | register m kind owner =>
      rw [apply, kind?_register, lastKind?, Option.or_assoc]
      by_cases hl : l = m
      · simp [hl]
      · simp [hl, Ne.symm hl]

end

/-! ## The end of a loop -/

/-- A body that registers nothing gets a block of its own, which leads back. -/
theorem Walk.loopEnd_of_empty {w : Walk} {g : Graph} {scope : Scope} {first last : Int}
    {ds : List Change} (hw : w.graph = g.replay (Walk.loopChanges scope first ++ ds))
    (hds : registeredBy ds = []) :
    w.loopEndChanges first last = [.register last .forBody w.scope.function, .link last first] := by
  have hnewest : w.graph.newest = some first := by
    rw [hw, Graph.newest_replay, registeredBy_append, hds]
    simp [loopChanges]
  have hkind : w.kindAt first = some .forStatement := by
    rw [kindAt, hw, Graph.replay_append, Graph.kind?_replay_of_not_mem (by simp [hds]), loopChanges,
      Graph.replay_cons, Graph.kind?_replay_of_not_mem (by simp), Graph.apply, Graph.kind?_register,
      if_pos rfl]
  rw [loopEndChanges, loopBodyChanges, if_pos ⟨hnewest, hkind⟩]
  simp [backEdgeChanges, Graph.apply, Graph.kind?_register]

/-- Else the block registered last leads back, unless it is a return. -/
theorem Walk.loopEnd_of_newest {w : Walk} {g : Graph} {first last t : Int} {ds : List Change}
    (hw : w.graph = g.replay ds) (ht : (registeredBy ds).getLast? = some t) (hne : t ≠ first) :
    w.loopEndChanges first last
      = if (g.replay ds).kind? (.line t) = some .returnStatement then [] else [.link t first] := by
  have hnewest : (g.replay ds).newest = some t := by
    rw [Graph.newest_replay, ht]
    rfl
  have hbody : w.loopBodyChanges first last = [] := by
    rw [loopBodyChanges, if_neg]
    rintro ⟨hfirst, -⟩
    rw [hw, hnewest] at hfirst
    exact hne (Option.some.inj hfirst)
  rw [loopEndChanges, hbody, hw, Graph.replay_nil, backEdgeChanges, hnewest, Option.getD_some,
    List.nil_append]

theorem eq_of_register_mem_loopEnd {w : Walk} {first last l : Int} {kind : BlockKind}
    {owner : String} (h : .register l kind owner ∈ w.loopEndChanges first last) :
    l = last ∧ kind = .forBody ∧ owner = w.scope.function := by
  rcases List.mem_append.1 h with h | h
  · unfold Walk.loopBodyChanges at h
    split at h
    · exact Change.register.inj (List.mem_singleton.1 h)
    · cases h
  · unfold Walk.backEdgeChanges at h
    split at h
    · cases h
    · cases List.mem_singleton.1 h

theorem eq_of_registered_loopEnd {w : Walk} {first last l : Int}
    (h : l ∈ registeredBy (w.loopEndChanges first last)) : l = last := by
  obtain ⟨kind, owner, h⟩ := mem_registeredBy.1 h
  exact (eq_of_register_mem_loopEnd h).1

/-! ## Loops are never left at their header -/

/-- The last registration among the changes, if there is any, is not the header of a loop. -/
def MovesOn (cs : List Change) : Prop := lastKind? (fun _ => true) cs ≠ some .forStatement

section

variable {cs ds : List Change}

theorem MovesOn.append (hcs : MovesOn cs) (hds : MovesOn ds) : MovesOn (cs ++ ds) := by
  unfold MovesOn at *
  rw [lastKind?_append]
  cases h : lastKind? (fun _ => true) ds with
  | none => rwa [Option.none_or]
  | some kind => rwa [h] at hds

theorem movesOn_of_not_mem (h : ∀ l owner, .register l .forStatement owner ∉ cs) :
    MovesOn cs := by
  intro hlast
  obtain ⟨l, owner, hmem⟩ := exists_register_of_lastKind? hlast
  exact h l owner hmem

/-- What is registered in front does not count if something is registered behind. -/
theorem MovesOn.append_left (hds : MovesOn ds) (hne : registeredBy ds ≠ []) :
    MovesOn (cs ++ ds) := by
  unfold MovesOn at *
  rw [lastKind?_append]
  cases h : lastKind? (fun _ => true) ds with
  | none =>
    obtain ⟨l, hl⟩ := List.exists_mem_of_ne_nil _ hne
    cases lastKind?_eq_none.1 h l hl
  | some kind => rwa [h] at hds

end

/-- A clause is entered with the kind of a return or switch, or with that of its form. -/
theorem Outline.clauseEntry_kind (form : Choice) (k : Node) :
    (clauseEntry form k).2 ≠ .forStatement ∧ (clauseEntry form k).2 ≠ .forBody := by
  unfold clauseEntry
  split
  · rename_i entry hfind
    obtain ⟨s, -, hentry⟩ := List.exists_of_findSome?_eq_some hfind
    obtain ⟨kind, hkind, rfl⟩ := Option.map_eq_some_iff.1 hentry
    unfold lentKind? at hkind
    split at hkind <;> cases hkind <;> exact ⟨by simp, by simp⟩
  · cases form <;> simp [Choice.clauseKind]

section

variable {ε : Type} {decode : List UInt8 → Except ε String}
variable {v : Visit} {w w' : Walk} {cs : List Change}

/-- **Loops are closed**: whatever a visit registers last, it is not the header of a loop. -/
theorem Visits.lastKind?_ne (h : Visits decode v w cs w') : MovesOn cs := by
  induction h with
  | other _ _ ih => exact ih
  | prototype => exact movesOn_of_not_mem (by simp)
  | function _ _ _ _ ih =>
    refine @MovesOn.append [_] _ (movesOn_of_not_mem (by simp)) ?_
    refine (movesOn_of_not_mem fun l owner hmem => ?_).append
      (ih.append (movesOn_of_not_mem fun l owner hmem => ?_))
    · unfold Walk.foreseeChanges at hmem
      split at hmem <;> simp at hmem
    · unfold Walk.closeChanges at hmem
      split at hmem <;> simp at hmem
  | ret _ _ ih =>
    exact (movesOn_of_not_mem (by simp [Walk.returnChanges, linksFrom])).append ih
  | spawn _ _ ih => exact @MovesOn.append [_] _ (movesOn_of_not_mem (by simp)) ih
  | cond _ _ _ _ ih₁ ih₂ ih₃ =>
    refine (movesOn_of_not_mem (by simp [Walk.condChanges])).append (ih₁.append ?_)
    exact (movesOn_of_not_mem (by simp [Walk.falsePathChanges, linksTo])).append (ih₂.append ih₃)
  | @loop n w cs w₁ ds w₂ _ _ body _ ih₂ =>
    -- the body moves on from the header, or else the block of the body does
    have hend : MovesOn (w₂.loopEndChanges n.startLine n.endLine) :=
      movesOn_of_not_mem fun l owner hmem => by cases (eq_of_register_mem_loopEnd hmem).2.1
    rw [← List.append_assoc]
    refine (ih₂.append hend).append_left ?_
    by_cases hds : registeredBy ds = []
    · have hw₂ := body.graph_eq
      rw [Walk.graph_enterLoop, ← Graph.replay_append] at hw₂
      rw [Walk.loopEnd_of_empty hw₂ hds]
      simp
    · simp [hds]
  | @choice n form w _ _ _ _ _ _ _ ih₁ ih₂ =>
    refine ih₁.append (MovesOn.append (movesOn_of_not_mem fun l owner hmem => ?_) ih₂)
    rcases List.mem_cons.1 hmem with heq | hmem
    · cases form <;> cases heq
    · exact register_not_mem_of_links (Walk.registeredBy_choiceLinks _ _ _) _ _ _ hmem
  | nil => exact movesOn_of_not_mem (by simp)
  | cons _ _ ih₁ ih₂ => exact ih₁.append ih₂
  | noClause => exact movesOn_of_not_mem (by simp)
  | @clause form k _ w _ w₁ _ _ _ _ ih₁ ih₂ =>
    refine MovesOn.append (movesOn_of_not_mem fun l owner hmem => ?_)
      (ih₁.append (MovesOn.append (movesOn_of_not_mem fun l owner hmem => ?_) ih₂))
    · rcases List.mem_cons.1 hmem with heq | hmem
      · exact (Outline.clauseEntry_kind form k).1 (Change.register.inj heq).2.1.symm
      · exact register_not_mem_of_links (by simp) _ _ _ hmem
    · exact register_not_mem_of_links (registeredBy_clauseEnd _ _ _) _ _ _ hmem

/-- **A loop gets a block for its body** only if nothing is registered there. -/
theorem Visits.registeredBy_eq_nil_of_forBody {ns : List Node} {first last l : Int} {owner : String}
    (h : Visits decode (.nodes ns) (w.enterLoop first) cs w')
    (hmem : .register l .forBody owner ∈ w'.loopEndChanges first last) : registeredBy cs = [] := by
  -- else the newest block is the last that the body registered, and that is no header
  cases hlast : (registeredBy cs).getLast? with
  | none => exact List.getLast?_eq_none_iff.1 hlast
  | some t =>
    have hbody : w'.loopBodyChanges first last = [] := by
      rw [Walk.loopBodyChanges, if_neg]
      rintro ⟨hnewest, hkind⟩
      rw [h.graph_eq, Graph.newest_replay, hlast] at hnewest
      obtain rfl : t = first := Option.some.inj hnewest
      rw [Walk.kindAt, h.graph_eq, Graph.kind?_replay_eq, lastKind?_of_getLast? hlast] at hkind
      rcases Option.or_eq_some_iff.1 hkind with hkind | ⟨hnone, -⟩
      · exact h.lastKind?_ne hkind
      · cases lastKind?_eq_none.1 hnone t (List.mem_of_getLast? hlast)
    rw [Walk.loopEndChanges, hbody, List.nil_append, Walk.backEdgeChanges] at hmem
    split at hmem <;> simp at hmem

end

end GoFlow
