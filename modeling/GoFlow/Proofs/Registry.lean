import GoFlow.Graph

/-!
# The registered blocks as a map from lines

A graph keeps its registered blocks in a list of entries. Read through `Graph.get?`, the list is a
map from lines to blocks, and each change to the graph is an update of that map at one line.

- `Graph.registered`: the lines of the entries; `Graph.mem_registered` ties it to `contains`.
- `Graph.get?_modify`, `Graph.get?_register`, `Graph.get?_link`: what is read after a change.
- `Graph.registered_modify`, `Graph.registered_register`, `Graph.registered_link`: which lines are
  there after a change. A line is never given up.
-/

namespace GoFlow

namespace Graph

/-- The registered lines, in order of first registration. -/
def registered (g : Graph) : List Int := g.lines.map Prod.fst

/-- The registered lines are those that the graph contains. -/
theorem mem_registered {g : Graph} {l : Int} : l ∈ g.registered ↔ g.contains l := by
  unfold registered contains get?
  rw [List.lookup_isSome_iff, List.mem_map]
  constructor
  · rintro ⟨e, he, rfl⟩
    exact ⟨e, he, by simp⟩
  · rintro ⟨e, he, hl⟩
    exact ⟨e, he, (beq_iff_eq.1 hl).symm⟩

/-- A line is registered if there is a block for it. -/
theorem contains_iff {g : Graph} {l : Int} :
    g.contains l ↔ ∃ b, g.get? (.line l) = some b := by
  rw [contains, Option.isSome_iff_exists]

theorem not_contains_iff {g : Graph} {l : Int} :
    ¬ g.contains l ↔ g.get? (.line l) = none := by
  rw [contains, Bool.not_eq_true, Option.isSome_eq_false_iff, Option.isNone_iff_eq_none]

@[simp] theorem get?_empty (l : Int) : ({} : Graph).get? (.line l) = none := rfl

@[simp] theorem contains_empty (l : Int) : ({} : Graph).contains l = false := rfl

/-! ## Changing one block -/

theorem lookup_entry (k m : Int) (b : Block) (es : List (Int × Block)) :
    ((k, b) :: es).lookup m = if m = k then some b else es.lookup m := by
  by_cases hm : m = k
  · rw [hm, List.lookup_cons_self, if_pos rfl]
  · rw [List.lookup_cons, beq_false_of_ne hm, if_neg hm]

/-- An update of the entries under one key, read under any key. -/
theorem lookup_update (f : Block → Block) (l m : Int) (es : List (Int × Block)) :
    (es.map fun (k, b) => if k = l then (k, f b) else (k, b)).lookup m
      = if m = l then (es.lookup m).map f else es.lookup m := by
  induction es with
  | nil => simp
  | cons e rest ih =>
    obtain ⟨k, b⟩ := e
    rw [List.map_cons, lookup_entry]
    by_cases hk : k = l
    · rw [if_pos hk, lookup_entry, ih]
      by_cases hm : m = k
      · simp [hm, hk]
      · simp [hm]
    · rw [if_neg hk, lookup_entry, ih]
      by_cases hm : m = k
      · simp [hm, hk]
      · simp [hm]

/-- A modification changes one block. -/
theorem get?_modify (g : Graph) (f : Block → Block) (l m : Int) :
    (g.modify (.line l) f).get? (.line m)
      = if m = l then (g.get? (.line m)).map f else g.get? (.line m) :=
  lookup_update f l m g.lines

@[simp] theorem registered_modify (g : Graph) (f : Block → Block) (l : Int) :
    (g.modify (.line l) f).registered = g.registered := by
  show (g.lines.map _).map Prod.fst = g.lines.map Prod.fst
  rw [List.map_map]
  refine List.map_congr_left fun e _ => ?_
  obtain ⟨k, b⟩ := e
  by_cases hk : k = l <;> simp [hk]

/-! ## Registering -/

/-- **Registering a line** changes the kind and owner of its block, or makes one without edges. -/
theorem get?_register (g : Graph) (l m : Int) (kind : BlockKind) (owner : String) :
    (g.register l kind owner).get? (.line m)
      = if m = l then
          some ((g.get? (.line l)).elim { kind, endLine := l, owner } (·.overwrite kind owner))
        else g.get? (.line m) := by
  by_cases hc : g.contains l
  · rw [register, if_pos hc]
    show (g.modify (.line l) (·.overwrite kind owner)).get? (.line m) = _
    rw [get?_modify]
    obtain ⟨b, hb⟩ := contains_iff.1 hc
    by_cases hm : m = l
    · subst hm
      simp [hb]
    · simp [hm]
  · rw [register, if_neg hc]
    have hn := not_contains_iff.1 hc
    show (g.lines ++ [(l, ({ kind, endLine := l, owner } : Block))]).lookup m = _
    rw [List.lookup_append, lookup_entry]
    by_cases hm : m = l
    · rw [hm, show g.lines.lookup l = none from hn, hn]
      simp
    · simp [hm, get?]

/-- The last registration decides on the kind. -/
theorem kind?_register (g : Graph) (l m : Int) (kind : BlockKind) (owner : String) :
    (g.register l kind owner).kind? (.line m)
      = if m = l then some kind else g.kind? (.line m) := by
  rw [kind?, get?_register]
  split
  · cases g.get? (.line l) <;> rfl
  · rfl

/-- A line that is registered again keeps its place. -/
theorem registered_register (g : Graph) (l : Int) (kind : BlockKind) (owner : String) :
    (g.register l kind owner).registered
      = if g.contains l then g.registered else g.registered ++ [l] := by
  by_cases hc : g.contains l
  · rw [register, if_pos hc, if_pos hc]
    exact registered_modify g (·.overwrite kind owner) l
  · rw [register, if_neg hc, if_neg hc]
    simp [registered]

/-- A registration adds its own line. -/
theorem contains_register (g : Graph) (l m : Int) (kind : BlockKind) (owner : String) :
    (g.register l kind owner).contains m ↔ m = l ∨ g.contains m := by
  rw [contains_iff, get?_register]
  by_cases hm : m = l
  · simp [hm]
  · simp [hm, contains_iff]

@[simp] theorem newest_register (g : Graph) (l : Int) (kind : BlockKind) (owner : String) :
    (g.register l kind owner).newest = some l := by
  unfold register
  split <;> rfl

/-! ## Linking -/

/-- **A link** adds an edge to its source, under the key of the target. -/
theorem get?_link {g : Graph} {s t : Int} {b : Block} (ht : g.get? (.line t) = some b) (m : Int) :
    (g.link (.line s) (.line t)).get? (.line m)
      = if m = s then (g.get? (.line m)).map (·.addEdge b.key (.line t))
        else g.get? (.line m) := by
  unfold link
  rw [ht]
  exact get?_modify g _ s m

@[simp] theorem kind?_link (g : Graph) (s m : Int) (t : Handle) :
    (g.link (.line s) t).kind? (.line m) = g.kind? (.line m) := by
  unfold link
  split
  · rw [kind?, get?_modify, kind?]
    split
    · cases g.get? (.line m) <;> rfl
    · rfl
  · rfl

@[simp] theorem registered_link (g : Graph) (s : Int) (t : Handle) :
    (g.link (.line s) t).registered = g.registered := by
  unfold link
  split
  · exact registered_modify g _ s
  · rfl

@[simp] theorem contains_link (g : Graph) (s m : Int) (t : Handle) :
    (g.link (.line s) t).contains m = g.contains m := by
  rw [Bool.eq_iff_iff, ← mem_registered, ← mem_registered, registered_link]

@[simp] theorem newest_link (g : Graph) (s : Int) (t : Handle) :
    (g.link (.line s) t).newest = g.newest := by
  unfold link
  split <;> rfl

end Graph

end GoFlow
