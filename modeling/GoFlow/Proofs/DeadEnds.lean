import GoFlow.Proofs.Integrity
import GoFlow.Proofs.Settled

/-!
# No dead ends

Control leaves every block that is not a return. A block of a kind that falls through goes on to the
block below it, and the other kinds are linked by hand: to the return target of their scope, or back
to their loop. Inside functions there always is a return target.

- `Build.LeadsOn`: only returns, and the last block of the list, are without edges.
- `wayOn`: what the blocks that do not fall through owe.
- `Visits.goesOn`: with a return target in scope, a visit gives them their edges.
- `Node.Enclosed`: the trees in which every statement lies inside a declaration.
-/

namespace GoFlow

/-- Every block that is not a return leads on, but for the last one of the list, which has no block
below it to run on into. -/
def Build.LeadsOn (b : Build) : Prop :=
  ∀ x ∈ b.blocks, x.kind ≠ .returnStatement →
    x.edges ≠ [] ∨ (b.blocks.getLast? = some x ∧ x.kind.fallsThrough)

instance (b : Build) : Decidable b.LeadsOn := inferInstanceAs (Decidable (∀ x ∈ b.blocks, _))

/-! ## What has to be linked by hand -/

/-- A block that does not fall through has to lead somewhere, unless it is a return. -/
def wayOn : Promise where
  owes kind _ has := kind.fallsThrough = false → kind ≠ .returnStatement → ∃ t, has t
  mono h hhas hfalls hret := (h hfalls hret).imp hhas

/-- A block that falls through owes nothing. -/
theorem wayOn_of_fallsThrough {kind : BlockKind} (h : kind.fallsThrough) (l : Int)
    (has : Int → Prop) : wayOn.owes kind l has := by
  intro hfalls
  rw [h] at hfalls
  cases hfalls

/-- Neither does a return. -/
theorem wayOn_return (l : Int) (has : Int → Prop) : wayOn.owes .returnStatement l has :=
  fun _ hret => absurd rfl hret

/-- Any edge will do. -/
theorem wayOn_of_has {kind : BlockKind} {l t : Int} {has : Int → Prop} (h : has t) :
    wayOn.owes kind l has :=
  fun _ _ => ⟨t, h⟩

namespace Visits

variable {ε : Type} {decode : List UInt8 → Except ε String}
variable {v : Visit} {w w' : Walk} {cs : List Change}

/-- **Inside functions**: where there is a return target, a visit leaves one and gives every line
that it registers a way on. -/
theorem goesOn (h : Visits decode v w cs w') :
    w.scope.returnTarget.isSome → wayOn.Kept cs ∧ w'.scope.returnTarget.isSome := by
  induction h with
  | other _ _ ih => exact ih
  | prototype => exact fun hw => ⟨⟨fun _ => wayOn_of_fallsThrough rfl _ _, trivial⟩, hw⟩
  | function _ _ _ _ ih =>
    intro hw
    obtain ⟨hcs, -⟩ := ih (by rw [Walk.scope_foresee]; rfl)
    refine ⟨⟨fun _ => wayOn_of_fallsThrough rfl _ _, ?_⟩, hw⟩
    exact (Promise.kept_foresee wayOn_return _ _ _).append
      (hcs.append (Promise.kept_close wayOn_return _ _ _))
  | ret _ _ ih =>
    intro hw
    obtain ⟨hcs, hw'⟩ := ih (by rw [Walk.scope_enterReturn]; rfl)
    refine ⟨⟨fun _ => wayOn_return _ _, ?_⟩, hw'⟩
    exact Promise.Kept.append (Promise.kept_of_links (registeredBy_linksFrom _ _)) hcs
  | spawn _ _ ih =>
    intro hw
    obtain ⟨hcs, hw'⟩ := ih hw
    exact ⟨⟨fun _ => wayOn_of_fallsThrough rfl _ _, hcs⟩, hw'⟩
  | @cond n w cs w₁ ds w₂ es w₃ _ _ _ _ ih₁ ih₂ ih₃ =>
    intro hw
    obtain ⟨hcs, hw₁⟩ := ih₁ hw
    obtain ⟨hds, hw₂⟩ := ih₂ (by rw [Walk.scope_leaveCond]; exact hw₁)
    obtain ⟨hes, hw₃⟩ := ih₃ hw₂
    refine ⟨?_, hw₃⟩
    -- the blocks of the false path are linked behind the consequence
    obtain ⟨t, ht⟩ := Option.isSome_iff_exists.1 hw₁
    have hfalse : Walk.falsePathChanges w₁.scope (Outline.falsePath n).1 (w.scope.elseEnd n)
        = [.link (Outline.falsePath n).1 t, .link (w.scope.elseEnd n) t] := by
      rw [Walk.falsePathChanges, ht]
      rfl
    have hrest : wayOn.Kept
        (Walk.falsePathChanges w₁.scope (Outline.falsePath n).1 (w.scope.elseEnd n)) :=
      Promise.kept_of_links (by simp [Walk.falsePathChanges])
    refine ⟨fun _ => wayOn_of_fallsThrough rfl _ _, fun _ => wayOn_of_has (t := t) ?_,
      fun _ => wayOn_of_has (t := t) ?_, hcs.append (hrest.append (hds.append hes))⟩
    · simp [hfalse]
    · simp [hfalse]
  | @loop n w cs w₁ ds w₂ _ header body ih₁ ih₂ =>
    intro hw
    obtain ⟨hcs, -⟩ := ih₁ hw
    obtain ⟨hds, -⟩ := ih₂ (by rw [Walk.scope_enterLoop]; rfl)
    have hloop : wayOn.Kept (Walk.loopChanges w.scope n.startLine) :=
      ⟨fun _ => wayOn_of_fallsThrough rfl _ _, Promise.kept_of_links (registeredBy_linksTo _ _)⟩
    have hend : wayOn.Kept (w₂.loopEndChanges n.startLine n.endLine) :=
      Promise.kept_loopEnd _ (wayOn_of_has rfl)
    refine ⟨hcs.append (hloop.append (hds.append hend)), ?_⟩
    rw [header.scope_afterLoop body]
    exact hw
  | @choice n form w cs w₁ ds w₂ _ header _ ih₁ ih₂ =>
    intro hw
    obtain ⟨hcs, -⟩ := ih₁ hw
    obtain ⟨hds, hw₂⟩ := ih₂ (by rw [Walk.scope_enterChoice, header.scope_aimAt]; exact hw)
    exact ⟨hcs.append ⟨fun _ => wayOn_of_fallsThrough (by cases form <;> rfl) _ _,
      Promise.Kept.append (Promise.kept_of_links (Walk.registeredBy_choiceLinks _ _ _)) hds⟩, hw₂⟩
  | nil => exact fun hw => ⟨trivial, hw⟩
  | cons _ _ ih₁ ih₂ =>
    intro hw
    obtain ⟨hcs, hw₁⟩ := ih₁ hw
    obtain ⟨hds, hw₂⟩ := ih₂ hw₁
    exact ⟨hcs.append hds, hw₂⟩
  | noClause => exact fun hw => ⟨trivial, hw⟩
  | clause _ _ ih₁ ih₂ =>
    intro hw
    obtain ⟨hcs, -⟩ := ih₁ (by rw [Walk.scope_enterClause]; exact hw)
    obtain ⟨hds, hw₂⟩ := ih₂ (by rw [Walk.scope_leaveClause]; exact hw)
    refine ⟨⟨fun _ => ?_, Promise.Kept.append (Promise.kept_of_links (by simp)) (hcs.append
      (Promise.Kept.append (Promise.kept_of_links (registeredBy_clauseEnd _ _ _)) hds))⟩, hw₂⟩
    obtain ⟨t, ht⟩ := Option.isSome_iff_exists.1 hw
    exact wayOn_of_has (t := t) (by simp [mem_linksTo, ht])

end Visits

/-! ## Outside functions -/

/-- The trees in which every statement that the walk reacts to lies inside a declaration. -/
inductive Node.Enclosed : Node → Prop where
  /-- A declaration, whatever is inside it. -/
  | declaration {n : Node} (label : n.label.isFunction) : n.Enclosed
  /-- A node that the walk does not react to, around enclosed ones. -/
  | around {n : Node} (label : n.label.isConstruct = false)
      (inside : ∀ c ∈ n.children, c.Enclosed) : n.Enclosed

/-- Of the constructs, only declarations stand outside declarations. -/
theorem Node.Enclosed.isFunction {n : Node} (h : n.Enclosed) (hn : n.label.isConstruct) :
    n.label.isFunction := by
  cases h with
  | declaration label => exact label
  | around label => rw [hn] at label; cases label

/-- The named children of an enclosed node that is no declaration are enclosed. -/
theorem Node.Enclosed.named {n : Node} (h : n.Enclosed) (hn : n.label.isFunction = false) :
    ∀ c ∈ n.named, c.Enclosed := by
  cases h with
  | declaration label => rw [hn] at label; cases label
  | around _ inside => exact fun c hc => inside c (List.mem_filter.1 hc).1

/-- Whether a visit goes to enclosed nodes. Clauses stand in a switch, so that they are none. -/
def Visit.Enclosed : Visit → Prop
  | .node n => n.Enclosed
  | .nodes ns => ∀ n ∈ ns, n.Enclosed
  | .clauses _ _ => False

/-- **Outside functions**, a visit meets no constructs but declarations, whose bodies have a return
target. -/
theorem Visits.goesOn_outside {ε : Type} {decode : List UInt8 → Except ε String} {v : Visit}
    {w w' : Walk} {cs : List Change} (h : Visits decode v w cs w') :
    v.Enclosed → wayOn.Kept cs := by
  induction h with
  | other label _ ih =>
    intro hn
    refine ih (Node.Enclosed.named hn ?_)
    by_contra hfunction
    rw [Label.isConstruct_of_isFunction (by simpa using hfunction)] at label
    cases label
  | prototype => exact fun _ => ⟨fun _ => wayOn_of_fallsThrough rfl _ _, trivial⟩
  | function _ _ _ inside =>
    intro _
    obtain ⟨hcs, -⟩ := inside.goesOn (by rw [Walk.scope_foresee]; rfl)
    exact ⟨fun _ => wayOn_of_fallsThrough rfl _ _, (Promise.kept_foresee wayOn_return _ _ _).append
      (hcs.append (Promise.kept_close wayOn_return _ _ _))⟩
  | nil => exact fun _ => trivial
  | cons _ _ ih₁ ih₂ =>
    intro hns
    exact (ih₁ (hns _ List.mem_cons_self)).append
      (ih₂ fun n hn => hns n (List.mem_cons_of_mem _ hn))
  | noClause => exact fun hks => hks.elim
  | clause => exact fun hks => hks.elim
  | ret label | spawn label | cond label | loop label =>
    intro hn
    have hfunction := Node.Enclosed.isFunction hn (by rw [label]; rfl)
    rw [label] at hfunction
    cases hfunction
  | choice label =>
    intro hn
    have hfunction := Node.Enclosed.isFunction hn (Label.isConstruct_of_choice label)
    rw [Label.choice?_of_isFunction hfunction] at label
    cases label

/-- **No dead ends**: in a graph built from scratch, of a tree whose statements stand in functions,
every block that is not a return leads on. -/
theorem leadsOn_of_build {ε : Type} {decode : List UInt8 → Except ε String} {root : Node}
    {b : Build} (hroot : root.Enclosed) (hplain : root.label.isFunction = false)
    (hb : build decode root {} = .ok b) : b.LeadsOn := by
  obtain ⟨cs, w, ls, hvisit, hcs, hfinish⟩ := finishes_of_build Graph.sound_empty hb
  have hkept := hvisit.goesOn_outside (hroot.named hplain)
  intro x hx hret
  obtain ⟨hl, hget⟩ := hfinish.mem_blocks hx
  obtain ⟨y, hy, hkind, hleads⟩ := hfinish.exists_walked hget
  have hedges : ∀ t, x.LeadsTo t → x.edges ≠ [] := fun t ht => List.ne_nil_of_mem ht
  by_cases hfalls : x.kind.fallsThrough
  · cases hnext : following ls x.endLine with
    | some t => exact .inl (hedges t ((hleads t).2 (.inl ⟨hfalls, hnext⟩)))
    | none =>
      have hlast := getLast?_of_following hfinish.ascending.nodup hl hnext
      exact .inr ⟨hfinish.getLast?_blocks hx hlast, hfalls⟩
  · have hreg : x.endLine ∈ registeredBy cs :=
      Graph.contains_replay_empty.1 ((hfinish.mem_lines _).1 hl)
    obtain ⟨t, ht⟩ := hkept.owed Graph.sound_empty hcs hreg hy
      (by simpa [← hkind] using hfalls) (hkind ▸ hret)
    exact .inl (hedges t ((hleads t).2 (.inr ht)))

/-- A function with a conditional return, a return, and a go statement on its last line. -/
def trailingSpawn : Node :=
  .mk { label := .other "source_file" } [
    .mk { label := .functionDeclaration, span := { startRow := 0, endRow := 4 } } [
      .mk { label := .block, span := { startRow := 0, endRow := 4 }, field := some .body } [
        .mk { label := .ifStatement, span := { startRow := 1, endRow := 2 } } [
          .mk { label := .block, span := { startRow := 1, endRow := 2 },
                field := some .consequence } [
            .mk { label := .returnStatement, span := { startRow := 1, endRow := 1 } } []]],
        .mk { label := .returnStatement, span := { startRow := 3, endRow := 3 } } [],
        .mk { label := .goStatement, span := { startRow := 4, endRow := 4 } } []]]]

/-- Both blocks of the false path lead on, and only the go statement on the last line does not. -/
theorem leadsOn_of_build_trailingSpawn :
    trailingSpawn.Enclosed ∧ trailingSpawn.label.isFunction = false ∧
      ∃ b, build (fun _ => (.ok "" : Except Empty String)) trailingSpawn {} = .ok b ∧ b.LeadsOn ∧
        b.blocks.map (fun x => (x.endLine, x.kind, x.edges.length)) =
          [(1, .functionEntry, 1), (2, .returnStatement, 0), (3, .elseCondition, 1),
           (4, .returnStatement, 0), (5, .goStatement, 0)] := by
  have henclosed : trailingSpawn.Enclosed :=
    .around rfl fun c hc => by
      obtain rfl := List.mem_singleton.1 hc
      exact .declaration rfl
  have hbuild : ∃ b, build (fun _ => (.ok "" : Except Empty String)) trailingSpawn {} = .ok b ∧
      b.blocks.map (fun x => (x.endLine, x.kind, x.edges.length)) =
        [(1, .functionEntry, 1), (2, .returnStatement, 0), (3, .elseCondition, 1),
         (4, .returnStatement, 0), (5, .goStatement, 0)] := ⟨_, rfl, by decide⟩
  obtain ⟨b, hb, hblocks⟩ := hbuild
  exact ⟨henclosed, rfl, b, hb, leadsOn_of_build henclosed rfl hb, hblocks⟩

/-- A function without a file around it, with a conditional in its body. -/
def loneFunction : Node :=
  .mk { label := .functionDeclaration, span := { startRow := 0, endRow := 5 } } [
    .mk { label := .block, span := { startRow := 0, endRow := 5 }, field := some .body } [
      .mk { label := .ifStatement, span := { startRow := 1, endRow := 3 } } [
        .mk { label := .block, span := { startRow := 1, endRow := 3 },
              field := some .consequence } []]]]

/-- The walk starts below the root, so that the body of a function that is itself the root has no
return target: the false path of the conditional ends nowhere. -/
theorem not_leadsOn_loneFunction :
    loneFunction.Enclosed ∧
      ∃ b, build (fun _ => (.ok "" : Except Empty String)) loneFunction {} = .ok b ∧
        ¬ b.LeadsOn := by
  exact ⟨.declaration rfl, _, rfl, by decide⟩

end GoFlow
