import GoFlow.Proofs.Replay

/-!
# Sound graphs

- `Graph.Sound`: each line has one block, which knows its line, is no marker, and leads to
  registered lines only. Every change that a graph admits keeps this (`Graph.Sound.replay`).
- `Graph.get?_replay`: in a sound graph the block on a line after a replay is a fold over the
  changes (`blockAfter`) in which only the changes to that very line count.
- `blockAfter_last`: the last registration of a line decides kind and owner, and the edges are those
  added since.
- `blockAfter_unnumbered`: once a line is registered anew, all that is left of what it held before
  is the number.
-/

namespace GoFlow

/-- An edge from line to line goes in beside the edges that are there. -/
theorem mem_insertEdge_line {s t : Int} {es : List Edge} :
    ⟨s, .line s⟩ ∈ insertEdge ⟨t, .line t⟩ es ↔ s = t ∨ ⟨s, .line s⟩ ∈ es := by
  induction es with
  | nil => simp [insertEdge]
  | cons f rest ih =>
    unfold insertEdge
    split
    · simp
    · split
      · -- the edge that gives way has the key of the new one
        rename_i hkey
        constructor
        · grind
        · rintro (rfl | h)
          · exact List.mem_cons_self
          · rcases List.mem_cons.1 h with rfl | h
            · have : t = s := hkey
              simp [this]
            · exact List.mem_cons_of_mem _ h
      · rw [List.mem_cons, ih, List.mem_cons]
        grind

/-- An edge with a key above all others goes in at the end. -/
theorem insertEdge_of_forall_lt {e : Edge} {es : List Edge} (h : ∀ f ∈ es, f.key < e.key) :
    insertEdge e es = es ++ [e] := by
  induction es with
  | nil => rfl
  | cons f rest ih =>
    have hf := h f List.mem_cons_self
    rw [insertEdge, if_neg (by omega), if_neg (by omega),
      ih fun g hg => h g (List.mem_cons_of_mem f hg)]
    rfl

namespace Block

/-- The block with its number taken off. -/
def unnumbered (b : Block) : Block := { b with number := -1 }

/-- Whether the block has an edge to the block of the line. -/
def LeadsTo (b : Block) (t : Int) : Prop := ⟨t, .line t⟩ ∈ b.edges

/-- A new edge leads to its target. -/
theorem leadsTo_addEdge {b : Block} {s t : Int} :
    (b.addEdge t (.line t)).LeadsTo s ↔ s = t ∨ b.LeadsTo s := mem_insertEdge_line

/-- What holds of the block that a graph has registered on a line. -/
structure Sound (g : Graph) (l : Int) (b : Block) : Prop where
  endLine : b.endLine = l
  kind : b.kind.isMarker = false
  edges : ∀ e ∈ b.edges, e.target = .line e.key ∧ g.contains e.key
  newest_eq_none : b.newest = none ↔ b.edges = []
  newest_mem : ∀ t, b.newest = some t → ∃ e ∈ b.edges, e.target = t

namespace Sound

variable {g h : Graph} {l t : Int} {b : Block}

/-- The key of a sound block is its line. -/
theorem key (hb : b.Sound g l) : b.key = l := by
  rw [Block.key, hb.kind]
  exact hb.endLine

/-- A block is sound in a larger graph. -/
theorem mono (hb : b.Sound g l) (hgh : ∀ m, g.contains m → h.contains m) : b.Sound h l :=
  { hb with edges := fun e he => ⟨(hb.edges e he).1, hgh _ (hb.edges e he).2⟩ }

theorem addEdge (hb : b.Sound g l) (ht : g.contains t) :
    (b.addEdge t (.line t)).Sound g l where
  endLine := hb.endLine
  kind := hb.kind
  edges e he := by
    rcases mem_of_mem_insertEdge he with rfl | he
    · exact ⟨rfl, ht⟩
    · exact hb.edges e he
  newest_eq_none := by
    have hne : (⟨t, .line t⟩ : Edge) ∈ insertEdge ⟨t, .line t⟩ b.edges :=
      mem_insertEdge_line.2 (.inl rfl)
    constructor
    · intro hn
      cases hn
    · intro hn
      exact absurd hne (by rw [show insertEdge _ b.edges = [] from hn]; simp)
  newest_mem s hs := by
    obtain rfl : Handle.line t = s := Option.some.inj hs
    exact ⟨⟨t, .line t⟩, mem_insertEdge_line.2 (.inl rfl), rfl⟩

/-- Another kind keeps a block sound unless it is a marker. -/
theorem overwrite (hb : b.Sound g l) {kind : BlockKind} (hk : kind.isMarker = false)
    (owner : String) : (b.overwrite kind owner).Sound g l where
  endLine := hb.endLine
  kind := hk
  edges e he := by cases he
  newest_eq_none := by simp [Block.overwrite]
  newest_mem t ht := by cases ht

theorem fresh {kind : BlockKind} (hk : kind.isMarker = false) (owner : String) :
    ({ kind, endLine := l, owner } : Block).Sound g l where
  endLine := rfl
  kind := hk
  edges e he := by cases he
  newest_eq_none := by simp
  newest_mem t ht := by cases ht

/-- In a sound block, an edge to a line is an edge under the key of that line. -/
theorem leadsTo_iff (hb : b.Sound g l) : b.LeadsTo t ↔ .line t ∈ b.edges.map Edge.target := by
  rw [List.mem_map]
  constructor
  · intro ht
    exact ⟨_, ht, rfl⟩
  · rintro ⟨⟨k, target⟩, he, rfl⟩
    obtain rfl : t = k := by simpa using (hb.edges _ he).1
    exact he

/-- The edges of a sound block lead to lines. -/
theorem mem_targets_iff (hb : b.Sound g l) {h : Handle} :
    h ∈ b.edges.map Edge.target ↔ ∃ t, h = .line t ∧ b.LeadsTo t := by
  constructor
  · intro hh
    obtain ⟨e, he, rfl⟩ := List.mem_map.1 hh
    have htarget := (hb.edges e he).1
    exact ⟨e.key, htarget, hb.leadsTo_iff.2 (htarget ▸ hh)⟩
  · rintro ⟨t, rfl, ht⟩
    exact hb.leadsTo_iff.1 ht

/-- The edges of a sound block lead to lines. -/
theorem exists_leadsTo (hb : b.Sound g l) (hedges : b.edges ≠ []) : ∃ t, b.LeadsTo t := by
  obtain ⟨e, he⟩ := List.exists_mem_of_ne_nil _ hedges
  obtain ⟨t, -, ht⟩ := hb.mem_targets_iff.1 (List.mem_map_of_mem he)
  exact ⟨t, ht⟩

end Sound

end Block

namespace Graph

/-- The invariant of the registered blocks. -/
structure Sound (g : Graph) : Prop where
  nodup : g.registered.Nodup
  block : ∀ {l b}, g.get? (.line l) = some b → b.Sound g l

theorem sound_empty : ({} : Graph).Sound where
  nodup := List.nodup_nil
  block h := by cases h

/-- In a sound graph, lines are keys. -/
theorem Sound.keyOf {g : Graph} (hg : g.Sound) {l : Int} (hl : g.contains l) :
    g.keyOf (.line l) = l := by
  obtain ⟨b, hb⟩ := contains_iff.1 hl
  rw [Graph.keyOf, hb]
  exact (hg.block hb).key

end Graph

/-! ## One line at a time -/

/-- The block of a line that has just been registered, given what was there. -/
def takenOver (l : Int) (kind : BlockKind) (owner : String) (b : Option Block) : Block :=
  b.elim { kind, endLine := l, owner } (·.overwrite kind owner)

theorem takenOver_fields (l : Int) (kind : BlockKind) (owner : String) (b : Option Block) :
    (takenOver l kind owner b).kind = kind ∧ (takenOver l kind owner b).owner = owner ∧
      (takenOver l kind owner b).edges = [] := by
  cases b <;> exact ⟨rfl, rfl, rfl⟩

/-- What a change makes of the block on a line. -/
def Change.onLine (l : Int) (b : Option Block) : Change → Option Block
  | .register m kind owner => if l = m then some (takenOver m kind owner b) else b
  | .link s t => if l = s then b.map (·.addEdge t (.line t)) else b

/-- What changes make of the block on a line. -/
def blockAfter (l : Int) (b : Option Block) (cs : List Change) : Option Block :=
  cs.foldl (Change.onLine l) b

namespace Graph

/-- **In a sound graph, a change acts on each line on its own.** -/
theorem get?_apply {g : Graph} (hg : g.Sound) {c : Change} (hc : g.Admits c) (l : Int) :
    (g.apply c).get? (.line l) = c.onLine l (g.get? (.line l)) := by
  cases c with
  | register m kind owner =>
    rw [apply, get?_register, Change.onLine]
    by_cases hl : l = m
    · rw [if_pos hl, if_pos hl, hl]
      rfl
    · rw [if_neg hl, if_neg hl]
  | link s t =>
    obtain ⟨b, hb⟩ := contains_iff.1 hc.2
    rw [apply, get?_link hb, (hg.block hb).key]
    rfl

/-- **A change that is admitted keeps a graph sound.** -/
theorem Sound.apply {g : Graph} (hg : g.Sound) {c : Change} (hc : g.Admits c) :
    (g.apply c).Sound where
  nodup := by
    cases c with
    | register m kind owner =>
      rw [Graph.apply, registered_register]
      -- a line that is taken over keeps its entry
      by_cases hm : g.contains m
      · rw [if_pos hm]
        exact hg.nodup
      · rw [if_neg hm]
        refine List.nodup_append.2 ⟨hg.nodup, by simp, fun a ha b hb => ?_⟩
        rw [List.mem_singleton.1 hb]
        rintro rfl
        exact hm (mem_registered.1 ha)
    | link s t =>
      rw [Graph.apply, registered_link]
      exact hg.nodup
  block {l b} hb := by
    have hmono : ∀ m, g.contains m → (g.apply c).contains m :=
      fun m hm => (contains_apply g c m).2 (.inl hm)
    rw [get?_apply hg hc] at hb
    cases c with
    | register m kind owner =>
      rw [Change.onLine] at hb
      by_cases hl : l = m
      · rw [if_pos hl] at hb
        subst hl
        cases hold : g.get? (.line l) with
        | none =>
          rw [hold] at hb
          cases hb
          exact .fresh hc owner
        | some old =>
          rw [hold] at hb
          cases hb
          exact ((hg.block hold).overwrite hc owner).mono hmono
      · rw [if_neg hl] at hb
        exact (hg.block hb).mono hmono
    | link s t =>
      rw [Change.onLine] at hb
      by_cases hl : l = s
      · rw [if_pos hl] at hb
        obtain ⟨old, hold, rfl⟩ := Option.map_eq_some_iff.1 hb
        exact ((hg.block hold).addEdge hc.2).mono hmono
      · rw [if_neg hl] at hb
        exact (hg.block hb).mono hmono

/-- **Soundness of replays**: admitted changes keep a graph sound. -/
theorem Sound.replay {cs : List Change} :
    ∀ {g : Graph}, g.Sound → g.AdmitsAll cs → (g.replay cs).Sound := by
  induction cs with
  | nil => exact fun hg _ => hg
  | cons c cs ih => exact fun hg hcs => ih (hg.apply hcs.1) hcs.2

/-- **Lines are independent**: the block on a line after a replay depends on nothing but the block
that was there and the changes to that line. -/
theorem get?_replay {cs : List Change} {l : Int} :
    ∀ {g : Graph}, g.Sound → g.AdmitsAll cs →
      (g.replay cs).get? (.line l) = blockAfter l (g.get? (.line l)) cs := by
  induction cs with
  | nil => exact fun _ _ => rfl
  | cons c cs ih =>
    intro g hg hcs
    rw [replay_cons, ih (hg.apply hcs.1) hcs.2, get?_apply hg hcs.1]
    rfl

end Graph

/-! ## The block on one line -/

/-- What becomes of a line can be followed in two parts. -/
theorem blockAfter_append (l : Int) (b : Option Block) (cs ds : List Change) :
    blockAfter l b (cs ++ ds) = blockAfter l (blockAfter l b cs) ds := List.foldl_append

/-- Changes to other lines do not count. -/
theorem blockAfter_of_forall_ne {l : Int} {cs : List Change} (h : ∀ c ∈ cs, c.line ≠ l)
    (b : Option Block) : blockAfter l b cs = b := by
  induction cs with
  | nil => rfl
  | cons c cs ih =>
    have hc : c.onLine l b = b := by
      have hne := h c List.mem_cons_self
      cases c with
      | register m kind owner => exact if_neg (Ne.symm hne)
      | link s t => exact if_neg (Ne.symm hne)
    show blockAfter l (c.onLine l b) cs = b
    rw [hc]
    exact ih fun d hd => h d (List.mem_cons_of_mem c hd)

/-- While a line is not registered, its block only gains edges: those of the links that start
there. -/
theorem blockAfter_of_not_mem {l : Int} {cs : List Change} (h : l ∉ registeredBy cs) (b : Block) :
    ∃ b', blockAfter l (some b) cs = some b' ∧ b'.kind = b.kind ∧ b'.owner = b.owner ∧
      ∀ t, b'.LeadsTo t ↔ b.LeadsTo t ∨ .link l t ∈ cs := by
  induction cs generalizing b with
  | nil => exact ⟨b, rfl, rfl, rfl, by simp⟩
  | cons c cs ih =>
    cases c with
    | register m kind owner =>
      rw [registeredBy_register, List.mem_cons, not_or] at h
      obtain ⟨b', hb', hk, ho, hto⟩ := ih h.2 b
      refine ⟨b', ?_, hk, ho, fun t => by simp [hto]⟩
      rw [← hb']
      show blockAfter l (Change.onLine l (some b) _) cs = _
      rw [Change.onLine, if_neg h.1]
    | link s t =>
      by_cases hs : l = s
      · obtain ⟨b', hb', hk, ho, hto⟩ := ih h (b.addEdge t (.line t))
        refine ⟨b', ?_, hk, ho, fun u => ?_⟩
        · rw [← hb']
          show blockAfter l (Change.onLine l (some b) _) cs = _
          rw [Change.onLine, if_pos hs]
          rfl
        · rw [hto, Block.leadsTo_addEdge, List.mem_cons]
          simp only [hs, Change.link.injEq, true_and]
          rw [or_assoc, or_left_comm]
      · obtain ⟨b', hb', hk, ho, hto⟩ := ih h b
        refine ⟨b', ?_, hk, ho, fun u => ?_⟩
        · rw [← hb']
          show blockAfter l (Change.onLine l (some b) _) cs = _
          rw [Change.onLine, if_neg hs]
        · rw [hto, List.mem_cons]
          simp [hs]

/-- **The last registration decides**: kind and owner of a block come from the last registration
of its line, and its edges are the links made from the line since. -/
theorem blockAfter_last {l : Int} {pre post : List Change} {kind : BlockKind} {owner : String}
    (h : l ∉ registeredBy post) (b : Option Block) :
    ∃ b', blockAfter l b (pre ++ .register l kind owner :: post) = some b' ∧
      b'.kind = kind ∧ b'.owner = owner ∧ ∀ t, b'.LeadsTo t ↔ .link l t ∈ post := by
  obtain ⟨hkind, howner, hedges⟩ := takenOver_fields l kind owner (blockAfter l b pre)
  obtain ⟨b', hb', hk, ho, hto⟩ :=
    blockAfter_of_not_mem h (takenOver l kind owner (blockAfter l b pre))
  refine ⟨b', ?_, hk.trans hkind, ho.trans howner, fun t => ?_⟩
  · rw [blockAfter_append, ← hb']
    show blockAfter l (Change.onLine l (blockAfter l b pre) _) post = _
    rw [Change.onLine, if_pos rfl]
  · rw [hto]
    simp [Block.LeadsTo, hedges]

/-- So they do in the replay of admitted changes. -/
theorem Graph.last_replay {g : Graph} (hg : g.Sound) {l : Int} {pre post : List Change}
    {kind : BlockKind} {owner : String} (hcs : g.AdmitsAll (pre ++ .register l kind owner :: post))
    (h : l ∉ registeredBy post) {x : Block}
    (hx : (g.replay (pre ++ .register l kind owner :: post)).get? (.line l) = some x) :
    x.kind = kind ∧ x.owner = owner ∧ ∀ t, x.LeadsTo t ↔ .link l t ∈ post := by
  rw [get?_replay hg hcs] at hx
  obtain ⟨y, hy, hfields⟩ := @blockAfter_last l pre post kind owner h (g.get? (.line l))
  obtain rfl : y = x := Option.some.inj (hy.symm.trans hx)
  exact hfields

/-- Changes do not look at ranks. -/
theorem onLine_unnumbered (l : Int) (b : Option Block) (c : Change) :
    (c.onLine l b).map Block.unnumbered = c.onLine l (b.map Block.unnumbered) := by
  cases c with
  | register m kind owner =>
    rw [Change.onLine, Change.onLine]
    by_cases hl : l = m
    · rw [if_pos hl, if_pos hl]
      cases b <;> rfl
    · rw [if_neg hl, if_neg hl]
  | link s t =>
    rw [Change.onLine, Change.onLine]
    by_cases hl : l = s
    · rw [if_pos hl, if_pos hl]
      cases b <;> rfl
    · rw [if_neg hl, if_neg hl]

theorem blockAfter_map_unnumbered (l : Int) (cs : List Change) :
    ∀ b : Option Block,
      (blockAfter l b cs).map Block.unnumbered = blockAfter l (b.map Block.unnumbered) cs := by
  induction cs with
  | nil => exact fun _ => rfl
  | cons c cs ih =>
    intro b
    show (blockAfter l (c.onLine l b) cs).map _ = blockAfter l (c.onLine l (b.map _)) cs
    rw [ih, onLine_unnumbered]

theorem endLine_blockAfter {l : Int} {cs : List Change} :
    ∀ {b : Option Block}, (∀ x ∈ b, x.endLine = l) → ∀ x ∈ blockAfter l b cs, x.endLine = l := by
  induction cs with
  | nil => exact fun h => h
  | cons c cs ih =>
    intro b hb
    refine ih (b := c.onLine l b) ?_
    cases c with
    | register m kind owner =>
      rw [Change.onLine]
      by_cases hl : l = m
      · rw [if_pos hl]
        cases b with
        | none => rintro x ⟨⟩; exact hl.symm
        | some y => rintro x ⟨⟩; exact hb y rfl
      · rw [if_neg hl]
        exact hb
    | link s t =>
      rw [Change.onLine]
      by_cases hl : l = s
      · rw [if_pos hl]
        cases b with
        | none => rintro x ⟨⟩
        | some y => rintro x ⟨⟩; exact hb y rfl
      · rw [if_neg hl]
        exact hb

/-- **Registering forgets**: changes that register a line leave there what they would leave on a
fresh graph, the number apart. -/
theorem blockAfter_unnumbered {l : Int} {cs : List Change} (h : l ∈ registeredBy cs)
    {b : Option Block} (hb : ∀ x ∈ b, x.endLine = l) :
    (blockAfter l b cs).map Block.unnumbered = blockAfter l none cs := by
  obtain ⟨pre, kind, owner, post, rfl, -⟩ := exists_last_register h
  -- the registration puts the same block there, whatever the fold has come to
  have hreset : ∀ c : Option Block, (∀ x ∈ c, x.endLine = l) →
      (blockAfter l c (pre ++ .register l kind owner :: post)).map Block.unnumbered
        = blockAfter l (some { kind, endLine := l, owner }) post := by
    intro c hc
    have hpre : ∀ x ∈ blockAfter l c pre, x.endLine = l := endLine_blockAfter hc
    rw [blockAfter_append]
    show (blockAfter l (Change.onLine l (blockAfter l c pre) _) post).map _ = _
    rw [blockAfter_map_unnumbered, Change.onLine, if_pos rfl]
    cases hx : blockAfter l c pre with
    | none => rfl
    | some x =>
      have hend : x.endLine = l := hpre x hx
      simp [takenOver, Block.overwrite, Block.unnumbered, hend]
  have hnone : (blockAfter l none (pre ++ .register l kind owner :: post)).map Block.unnumbered
      = blockAfter l none (pre ++ .register l kind owner :: post) :=
    blockAfter_map_unnumbered l _ none
  rw [hreset b hb, ← hnone, hreset none (by simp)]

end GoFlow
