import GoFlow.Proofs.Registry

/-!
# Changes and their replay

A walk acts on the graph through two changes only: it registers lines and it links registered
lines. What it leaves behind is the replay of the changes it made.

- `Change`, `Graph.replay`: the changes and their effect.
- `Graph.Admits`: what callers of a change promise. Markers are not registered, and edges join
  registered lines.
- `Graph.contains_replay`, `Graph.newest_replay`: the lines of a replay, and the last of them.
-/

namespace GoFlow

/-- A change that a walk makes to a graph. -/
inductive Change where
  | register (line : Int) (kind : BlockKind) (owner : String)
  | link (source target : Int)
deriving DecidableEq, Repr

namespace Change

/-- The line whose block the change alters. -/
def line : Change → Int
  | register l _ _ => l
  | link s _ => s

/-- The line that the change registers. -/
def registers? : Change → Option Int
  | register l _ _ => some l
  | link _ _ => none

end Change

/-- The lines that the changes register. -/
def registeredBy (cs : List Change) : List Int := cs.filterMap Change.registers?

@[simp] theorem registeredBy_nil : registeredBy [] = [] := rfl

@[simp] theorem registeredBy_register (l : Int) (kind : BlockKind) (owner : String)
    (cs : List Change) : registeredBy (.register l kind owner :: cs) = l :: registeredBy cs := rfl

@[simp] theorem registeredBy_link (s t : Int) (cs : List Change) :
    registeredBy (.link s t :: cs) = registeredBy cs := rfl

@[simp] theorem registeredBy_append (cs ds : List Change) :
    registeredBy (cs ++ ds) = registeredBy cs ++ registeredBy ds := List.filterMap_append

/-- A line is registered by changes if one of them registers it. -/
theorem mem_registeredBy {l : Int} {cs : List Change} :
    l ∈ registeredBy cs ↔ ∃ kind owner, .register l kind owner ∈ cs := by
  rw [registeredBy, List.mem_filterMap]
  constructor
  · rintro ⟨c, hc, hl⟩
    cases c with
    | register m kind owner =>
      obtain rfl : m = l := by simpa [Change.registers?] using hl
      exact ⟨kind, owner, hc⟩
    | link s t => simp [Change.registers?] at hl
  · rintro ⟨kind, owner, hc⟩
    exact ⟨_, hc, rfl⟩

/-- Among the registrations of a line there is a last one. -/
theorem exists_last_register {l : Int} :
    ∀ {cs : List Change}, l ∈ registeredBy cs →
      ∃ pre kind owner post,
        cs = pre ++ .register l kind owner :: post ∧ l ∉ registeredBy post
  | c :: cs, h => by
    -- the first change is the last registration only if none comes behind it
    by_cases hl : l ∈ registeredBy cs
    · obtain ⟨pre, kind, owner, post, rfl, hpost⟩ := exists_last_register hl
      exact ⟨c :: pre, kind, owner, post, rfl, hpost⟩
    · cases c with
      | register m kind owner =>
        rw [registeredBy_register, List.mem_cons] at h
        obtain rfl : l = m := h.resolve_right hl
        exact ⟨[], kind, owner, cs, rfl, hl⟩
      | link s t => exact absurd h hl

namespace Graph

/-- Makes one change. -/
def apply (g : Graph) : Change → Graph
  | .register l kind owner => g.register l kind owner
  | .link s t => g.link (.line s) (.line t)

/-- Makes the changes from left to right. -/
def replay (g : Graph) (cs : List Change) : Graph := cs.foldl apply g

@[simp] theorem replay_nil (g : Graph) : g.replay [] = g := rfl

@[simp] theorem replay_cons (g : Graph) (c : Change) (cs : List Change) :
    g.replay (c :: cs) = (g.apply c).replay cs := rfl

/-- Changes can be replayed in two parts. -/
theorem replay_append (g : Graph) (cs ds : List Change) :
    g.replay (cs ++ ds) = (g.replay cs).replay ds := List.foldl_append

/-- A change adds the line that it registers. -/
theorem contains_apply (g : Graph) (c : Change) (l : Int) :
    (g.apply c).contains l ↔ g.contains l ∨ c.registers? = some l := by
  cases c with
  | register m kind owner =>
    rw [apply, contains_register, Change.registers?, Option.some.injEq, or_comm]
    exact or_congr_right eq_comm
  | link s t => simp [apply, Change.registers?]

/-- A graph contains the lines it had and those that the changes register. -/
theorem contains_replay (cs : List Change) (l : Int) :
    ∀ g : Graph, (g.replay cs).contains l ↔ g.contains l ∨ l ∈ registeredBy cs := by
  induction cs with
  | nil => simp
  | cons c cs ih =>
    intro g
    rw [replay_cons, ih, contains_apply, or_assoc]
    cases c with
    | register m kind owner =>
      rw [registeredBy_register, List.mem_cons, Change.registers?, Option.some.injEq]
      exact or_congr_right (or_congr_left eq_comm)
    | link s t => simp [Change.registers?]

theorem contains_replay_empty {cs : List Change} {l : Int} :
    (({} : Graph).replay cs).contains l ↔ l ∈ registeredBy cs := by
  rw [contains_replay]
  simp

/-- The block registered last is the one of the last registration among the changes. -/
theorem newest_replay (cs : List Change) :
    ∀ g : Graph, (g.replay cs).newest = (registeredBy cs).getLast?.or g.newest := by
  induction cs with
  | nil => simp
  | cons c cs ih =>
    intro g
    rw [replay_cons, ih]
    cases c with
    | register l kind owner =>
      rw [registeredBy_register, List.getLast?_cons, apply, newest_register]
      cases (registeredBy cs).getLast? <;> rfl
    | link s t => rw [registeredBy_link, apply, newest_link]

/-- Behind changes that register something, the newest line is one of theirs. -/
theorem newest_replay_mem {g : Graph} {cs : List Change} {l : Int} (hl : l ∈ registeredBy cs) :
    ∃ m ∈ registeredBy cs, (g.replay cs).newest = some m := by
  rw [newest_replay]
  have hne : registeredBy cs ≠ [] := List.ne_nil_of_mem hl
  exact ⟨_, List.getLast_mem hne, by rw [List.getLast?_eq_some_getLast hne]; rfl⟩

/-- A kind that a line has after some changes it had before, or the changes gave it. -/
theorem kind?_of_replay {cs : List Change} {l : Int} {kind : BlockKind} :
    ∀ {g : Graph}, (g.replay cs).kind? (.line l) = some kind →
      g.kind? (.line l) = some kind ∨ ∃ owner, .register l kind owner ∈ cs := by
  induction cs with
  | nil => exact .inl
  | cons c cs ih =>
    intro g h
    rcases ih h with h | ⟨owner, h⟩
    · cases c with
      | link s t => exact .inl (by rwa [apply, kind?_link] at h)
      | register m k o =>
        rw [apply, kind?_register] at h
        split at h
        · rename_i hl
          cases h
          exact .inr ⟨o, by simp [hl]⟩
        · exact .inl h
    · exact .inr ⟨owner, List.mem_cons_of_mem c h⟩

/-- A line that is not registered keeps its kind. -/
theorem kind?_replay_of_not_mem {cs : List Change} {l : Int} (hl : l ∉ registeredBy cs) :
    ∀ {g : Graph}, (g.replay cs).kind? (.line l) = g.kind? (.line l) := by
  induction cs with
  | nil => exact rfl
  | cons c cs ih =>
    intro g
    cases c with
    | link s t => rw [replay_cons, ih hl, apply, kind?_link]
    | register m kind owner =>
      rw [registeredBy_register, List.mem_cons, not_or] at hl
      rw [replay_cons, ih hl.2, apply, kind?_register, if_neg hl.1]

/-! ## What changes rely on -/

/-- Whether the change may be made to the graph. -/
def Admits (g : Graph) : Change → Prop
  | .register _ kind _ => kind.isMarker = false
  | .link s t => g.contains s ∧ g.contains t

/-- Whether the changes may be made one after the other. -/
def AdmitsAll (g : Graph) : List Change → Prop
  | [] => True
  | c :: cs => g.Admits c ∧ (g.apply c).AdmitsAll cs

/-- Changes are admitted in two parts. -/
theorem admitsAll_append (cs ds : List Change) :
    ∀ g : Graph, g.AdmitsAll (cs ++ ds) ↔ g.AdmitsAll cs ∧ (g.replay cs).AdmitsAll ds := by
  induction cs with
  | nil => simp [AdmitsAll]
  | cons c cs ih =>
    intro g
    rw [List.cons_append, AdmitsAll, AdmitsAll, ih, replay_cons, and_assoc]

/-- Changes that may be made to a graph may be made to one with more lines. -/
theorem AdmitsAll.mono {cs : List Change} :
    ∀ {g h : Graph}, g.AdmitsAll cs → (∀ l, g.contains l → h.contains l) → h.AdmitsAll cs := by
  induction cs with
  | nil => intros; trivial
  | cons c cs ih =>
    intro g h ⟨hc, hcs⟩ hgh
    refine ⟨?_, ih hcs fun l hl => ?_⟩
    · cases c with
      | register l kind owner => exact hc
      | link s t => exact ⟨hgh s hc.1, hgh t hc.2⟩
    · rw [contains_apply] at hl ⊢
      exact hl.imp_left (hgh l)

end Graph

end GoFlow
