import GoFlow.Proofs.Sound
import Mathlib.Data.List.Sort

/-!
# The listing and the passes over it

A sound graph is listed by strictly ascending lines. Two passes then go over the listing: one hands
out the ranks, the other adds the default edge from each block to the one below it.

- `Graph.Sound.exists_listing`: the listing as a list of lines.
- `following`: the line listed below another.
- `Graph.get?_numbered`, `Graph.linkFallthrough_spec`: the two passes, read line by line.
- `Graph.Sound.finished`: both passes together, which keep the graph sound.
-/

namespace GoFlow

/-! ## Sorting -/

/-- Inserting by key loses nothing and adds nothing else. -/
theorem insertByKey_perm {α : Type} (x : Int × α) (xs : List (Int × α)) :
    (insertByKey x xs).Perm (x :: xs) := by
  induction xs with
  | nil => exact .refl _
  | cons y rest ih =>
    unfold insertByKey
    split
    · exact .refl _
    · exact (ih.cons y).trans (.swap x y rest)

/-- Sorting by key loses nothing and adds nothing. -/
theorem sortByKey_perm {α : Type} (xs : List (Int × α)) : (sortByKey xs).Perm xs := by
  induction xs with
  | nil => exact .refl _
  | cons x rest ih => exact (insertByKey_perm x (sortByKey rest)).trans (ih.cons x)

/-- Inserting by key keeps the order. -/
theorem insertByKey_sorted {α : Type} (x : Int × α) {xs : List (Int × α)}
    (h : xs.Pairwise (·.1 ≤ ·.1)) : (insertByKey x xs).Pairwise (·.1 ≤ ·.1) := by
  induction xs with
  | nil => exact List.pairwise_singleton _ _
  | cons y rest ih =>
    obtain ⟨hy, hrest⟩ := List.pairwise_cons.1 h
    unfold insertByKey
    split
    · rename_i hle
      refine List.pairwise_cons.2 ⟨fun z hz => ?_, h⟩
      rcases List.mem_cons.1 hz with rfl | hz
      · exact hle
      · exact Int.le_trans hle (hy z hz)
    · rename_i hlt
      refine List.pairwise_cons.2 ⟨fun z hz => ?_, ih hrest⟩
      rcases List.mem_cons.1 ((insertByKey_perm x rest).mem_iff.1 hz) with rfl | hz
      · omega
      · exact hy z hz

theorem sortByKey_sorted {α : Type} (xs : List (Int × α)) :
    (sortByKey xs).Pairwise (·.1 ≤ ·.1) := by
  induction xs with
  | nil => exact List.Pairwise.nil
  | cons x rest ih => exact insertByKey_sorted x ih

namespace Graph

/-- **The listing of a sound graph** goes through the registered lines, each once and in
ascending order. -/
theorem Sound.exists_listing {g : Graph} (hg : g.Sound) :
    ∃ ls : List Int, g.listing = ls.map .line ∧ ls.Pairwise (· < ·) ∧
      ∀ l, l ∈ ls ↔ g.contains l := by
  let keyed : List (Int × Handle) := g.registered.map fun l => (l, .line l)
  -- no block is a marker, so each is sorted in under its line
  have hlisting : g.listing = (sortByKey keyed).map Prod.snd := by
    show (sortByKey ((g.lines.map _).map _)).map Prod.snd = _
    refine congrArg (fun es => (sortByKey es).map Prod.snd) ?_
    show _ = (g.lines.map Prod.fst).map _
    rw [List.map_map, List.map_map]
    refine List.map_congr_left fun e he => ?_
    have hl : g.contains e.1 := mem_registered.1 (List.mem_map_of_mem he)
    simp [hg.keyOf hl]
  have hmem : ∀ p ∈ sortByKey keyed, p.2 = .line p.1 := by
    intro p hp
    obtain ⟨l, -, rfl⟩ := List.mem_map.1 ((sortByKey_perm keyed).mem_iff.1 hp)
    rfl
  have hperm : ((sortByKey keyed).map Prod.fst).Perm g.registered := by
    have h := (sortByKey_perm keyed).map Prod.fst
    rwa [show keyed.map Prod.fst = g.registered by simp [keyed, Function.comp_def]] at h
  refine ⟨(sortByKey keyed).map Prod.fst, ?_, ?_, fun l => ?_⟩
  · rw [hlisting, List.map_map]
    exact List.map_congr_left fun p hp => hmem p hp
  · -- ascending since sorted, strictly since no line occurs twice
    have hle : ((sortByKey keyed).map Prod.fst).Pairwise (· ≤ ·) :=
      List.pairwise_map.2 (sortByKey_sorted keyed)
    have hne : ((sortByKey keyed).map Prod.fst).Pairwise (· ≠ ·) := hperm.nodup_iff.2 hg.nodup
    exact hle.imp₂ (fun _ _ h₁ h₂ => Int.lt_iff_le_and_ne.2 ⟨h₁, h₂⟩) hne
  · rw [hperm.mem_iff, mem_registered]

/-! ## Numbering -/

@[simp] theorem registered_numberFrom (ls : List Int) :
    ∀ (g : Graph) (i : Nat), (g.numberFrom i (ls.map .line)).registered = g.registered := by
  induction ls with
  | nil => exact fun _ _ => rfl
  | cons l ls ih => exact fun g i => (ih _ _).trans (registered_modify g _ l)

/-- Each line of the list gets its place in it as its number. -/
theorem get?_numberFrom {ls : List Int} (hls : ls.Nodup) (l : Int) :
    ∀ (g : Graph) (i : Nat),
      (g.numberFrom i (ls.map .line)).get? (.line l)
        = (g.get? (.line l)).map fun b =>
            if l ∈ ls then { b with number := (i + ls.idxOf l : Nat) } else b := by
  induction ls with
  | nil => intro g i; simp [numberFrom]
  | cons m ls ih =>
    intro g i
    obtain ⟨hm, hls⟩ := List.nodup_cons.1 hls
    rw [List.map_cons, numberFrom, ih hls, get?_modify]
    -- the head is numbered here and, as it does not come again, never after
    by_cases hlm : l = m
    · subst hlm
      simp [hm, Option.map_map, Function.comp_def]
    · have hidx : (m :: ls).idxOf l = ls.idxOf l + 1 := by
        rw [List.idxOf_cons, beq_false_of_ne (Ne.symm hlm), cond_false]
      have hsum : i + 1 + ls.idxOf l = i + (ls.idxOf l + 1) := by omega
      rw [if_neg hlm, hidx, hsum]
      simp [hlm]

/-- The rank of a block is its place in the listing, and nothing else about it changes. -/
theorem get?_numbered {g : Graph} {ls : List Int} (hlisting : g.listing = ls.map .line)
    (hls : ls.Nodup) (hmem : ∀ l, l ∈ ls ↔ g.contains l) (l : Int) :
    g.numbered.get? (.line l)
      = (g.get? (.line l)).map fun b => { b with number := (ls.idxOf l : Nat) } := by
  rw [numbered, hlisting, get?_numberFrom hls]
  cases hb : g.get? (.line l) with
  | none => rfl
  | some b => simp [(hmem l).2 (contains_iff.2 ⟨b, hb⟩)]

end Graph

/-! ## The default edges -/

/-- The line listed right after a line. -/
def following : List Int → Int → Option Int
  | a :: b :: rest, l => if l = a then some b else following (b :: rest) l
  | _, _ => none

/-- Nothing follows what is not in the list. -/
theorem following_of_not_mem {l : Int} : ∀ {ls : List Int}, l ∉ ls → following ls l = none
  | [], _ => rfl
  | [_], _ => rfl
  | a :: b :: rest, h => by
    obtain ⟨ha, hrest⟩ := not_or.1 (mt List.mem_cons.2 h)
    rw [following, if_neg ha]
    exact following_of_not_mem hrest

/-- What follows an element is the head of the rest. -/
theorem following_append {l : Int} {post : List Int} :
    ∀ {pre : List Int}, l ∉ pre → following (pre ++ l :: post) l = post.head?
  | [], _ => by
    cases post with
    | nil => rfl
    | cons m post => exact if_pos rfl
  | [a], h => by
    have ha : l ≠ a := by simpa using h
    show (if l = a then some l else following (l :: post) l) = post.head?
    rw [if_neg ha]
    cases post with
    | nil => rfl
    | cons m post => exact if_pos rfl
  | a :: b :: pre, h => by
    obtain ⟨ha, hpre⟩ := not_or.1 (mt List.mem_cons.2 h)
    show (if l = a then some b else following (b :: pre ++ l :: post) l) = post.head?
    rw [if_neg ha]
    exact following_append hpre

/-- What follows a line comes right behind it in the list. -/
theorem following_eq_some {l m : Int} :
    ∀ {ls : List Int}, following ls l = some m → [l, m] <:+: ls
  | [], h => by cases h
  | [_], h => by cases h
  | a :: b :: rest, h => by
    rw [following] at h
    by_cases hla : l = a
    · rw [if_pos hla] at h
      cases h
      exact ⟨[], rest, by rw [hla]; rfl⟩
    · rw [if_neg hla] at h
      exact (following_eq_some h).trans (List.suffix_cons a _).isInfix

/-- In a list without repetitions, the pairs of neighbours are those that `following` gives. -/
theorem following_iff {l m : Int} {ls : List Int} (hls : ls.Nodup) :
    following ls l = some m ↔ [l, m] <:+: ls := by
  refine ⟨following_eq_some, ?_⟩
  rintro ⟨pre, post, rfl⟩
  have hl : l ∉ pre := by
    intro hl
    rw [List.append_assoc, List.nodup_append] at hls
    exact hls.2.2 l hl l (by simp) rfl
  rw [List.append_assoc]
  exact following_append hl

/-- The line that follows lies below. -/
theorem following_lt {l m : Int} {ls : List Int} (hls : ls.Pairwise (· < ·))
    (h : following ls l = some m) : l < m :=
  List.pairwise_pair.1 (hls.sublist (following_eq_some h).sublist)

/-- The line that follows comes next: no listed line lies between. -/
theorem following_le {l m k : Int} {ls : List Int} (hls : ls.Pairwise (· < ·))
    (h : following ls l = some m) (hk : k ∈ ls) (hlk : l < k) : m ≤ k := by
  obtain ⟨pre, post, rfl⟩ := following_eq_some h
  rw [List.append_assoc, List.pairwise_append] at hls
  obtain ⟨-, hrest, hpre⟩ := hls
  simp only [List.cons_append, List.nil_append, List.pairwise_cons] at hrest hpre
  simp only [List.append_assoc, List.cons_append, List.nil_append, List.mem_append,
    List.mem_cons] at hk
  rcases hk with hk | rfl | rfl | hk
  · have := hpre k hk l List.mem_cons_self
    omega
  · omega
  · omega
  · have := hrest.2.1 k hk
    omega

/-- Nothing follows the last line. -/
theorem following_of_getLast? {l : Int} {ls : List Int} (hls : ls.Nodup)
    (h : ls.getLast? = some l) : following ls l = none := by
  obtain ⟨pre, rfl⟩ := List.getLast?_eq_some_iff.1 h
  have hl : l ∉ pre := fun hl => (List.nodup_append.1 hls).2.2 l hl l (by simp) rfl
  exact following_append hl

/-- A listed line that nothing follows is the last one. -/
theorem getLast?_of_following {l : Int} {ls : List Int} (hls : ls.Nodup) (hl : l ∈ ls)
    (h : following ls l = none) : ls.getLast? = some l := by
  obtain ⟨pre, post, rfl⟩ := List.append_of_mem hl
  have hpre : l ∉ pre := fun hmem => (List.nodup_append.1 hls).2.2 l hmem l (by simp) rfl
  rw [following_append hpre, List.head?_eq_none_iff] at h
  rw [h, List.getLast?_concat]

/-- The rank of a line in the middle of a list. -/
theorem idxOf_middle {before own after : List Int} {l : Int} (hbefore : l ∉ before) (hl : l ∈ own) :
    (before ++ own ++ after).idxOf l = before.length + own.idxOf l := by
  rw [List.append_assoc, List.idxOf_append, if_neg hbefore, List.idxOf_append, if_pos hl,
    Nat.add_comm]

/-- In the middle of a list, what follows a line is what follows it in the middle, or what comes
behind the middle. -/
theorem following_middle {before own after : List Int} (hls : (before ++ own ++ after).Nodup)
    {l : Int} (hl : l ∈ own) :
    following (before ++ own ++ after) l
      = if own.getLast? = some l then after.head? else following own l := by
  obtain ⟨p, q, rfl⟩ := List.append_of_mem hl
  rw [List.append_assoc, List.nodup_append, List.append_assoc, List.nodup_append] at hls
  obtain ⟨-, ⟨-, hq, hpq⟩, hbefore⟩ := hls
  have hp : l ∉ p := fun h => hpq l h l (by simp) rfl
  have hb : l ∉ before := fun h => hbefore l h l (by simp) rfl
  have hwhole : following (before ++ (p ++ l :: q) ++ after) l = (q ++ after).head? := by
    have hmem : l ∉ before ++ p := by simp [hb, hp]
    have happend : following ((before ++ p) ++ l :: (q ++ after)) l = (q ++ after).head? :=
      following_append hmem
    simpa [List.append_assoc] using happend
  rw [hwhole, following_append hp, List.getLast?_append]
  cases q with
  | nil => simp
  | cons m q =>
    have hne : (m :: q).getLast? ≠ some l := by
      intro hlast
      have hmem := List.mem_of_getLast? hlast
      rw [List.cons_append, List.nodup_cons] at hq
      exact hq.1 (List.mem_append_left _ hmem)
    rw [List.getLast?_cons_cons]
    simp [hne]

namespace Block

/-- The block with the default edge to the block of the next line, if it falls through and there
is a next line. -/
def fallInto (b : Block) (next : Option Int) : Block :=
  if b.kind.fallsThrough then next.elim b fun m => b.addEdge m (.line m) else b

@[simp] theorem kind_fallInto (b : Block) (next : Option Int) :
    (b.fallInto next).kind = b.kind := by
  unfold fallInto
  split
  · cases next <;> rfl
  · rfl

@[simp] theorem owner_fallInto (b : Block) (next : Option Int) :
    (b.fallInto next).owner = b.owner := by
  unfold fallInto
  split
  · cases next <;> rfl
  · rfl

@[simp] theorem number_fallInto (b : Block) (next : Option Int) :
    (b.fallInto next).number = b.number := by
  unfold fallInto
  split
  · cases next <;> rfl
  · rfl

/-- Where the default edge leads does not depend on the number of the block. -/
theorem edges_fallInto_number (b : Block) (i : Int) (next : Option Int) :
    (({ b with number := i } : Block).fallInto next).edges = (b.fallInto next).edges := by
  unfold fallInto
  split
  · cases next <;> rfl
  · rfl

/-- The default edge to a line below all other targets comes last. -/
theorem edges_fallInto {b : Block} {next : Option Int}
    (h : ∀ m ∈ next, ∀ e ∈ b.edges, e.key < m) :
    (b.fallInto next).edges = b.edges ++ if b.kind.fallsThrough then
      next.toList.map fun m => ⟨m, .line m⟩ else [] := by
  unfold fallInto
  split
  · cases next with
    | none => simp
    | some m => exact insertEdge_of_forall_lt (e := ⟨m, .line m⟩) (h m rfl)
  · simp

/-- In the middle of a list, the default edge is the one that the block has in the middle, but for
the last block of the middle, which goes on to what comes behind. -/
theorem edges_fallInto_middle {b : Block} {before own after : List Int}
    (hls : (before ++ own ++ after).Nodup) {l : Int} (hl : l ∈ own)
    (hedges : ∀ m ∈ after, ∀ e ∈ b.edges, e.key < m) :
    (b.fallInto (following (before ++ own ++ after) l)).edges
      = (b.fallInto (following own l)).edges ++ (if own.getLast? = some l ∧ b.kind.fallsThrough then
          after.head?.toList.map fun m => ⟨m, .line m⟩ else []) := by
  have hown : own.Nodup := (List.nodup_append.1 (List.nodup_append.1 hls).1).2.1
  rw [following_middle hls hl]
  by_cases hlast : own.getLast? = some l
  · have hnext : ∀ m ∈ after.head?, ∀ e ∈ b.edges, e.key < m :=
      fun m hm => hedges m (List.mem_of_mem_head? hm)
    rw [if_pos hlast, following_of_getLast? hown hlast, edges_fallInto hnext]
    simp [fallInto, hlast]
  · rw [if_neg hlast, if_neg fun h => hlast h.1, List.append_nil]

/-- A block that falls into the next leads there, and where it led before. -/
theorem leadsTo_fallInto {b : Block} {next : Option Int} {t : Int} :
    (b.fallInto next).LeadsTo t ↔ (b.kind.fallsThrough ∧ next = some t) ∨ b.LeadsTo t := by
  unfold fallInto
  split
  · rename_i hf
    cases next with
    | none => simp
    | some m =>
      rw [Option.elim_some, leadsTo_addEdge]
      simp [hf, eq_comm]
  · rename_i hf
    simp [hf]

/-- A default edge to a registered line keeps a block sound. -/
theorem Sound.fallInto {g : Graph} {l : Int} {b : Block} (hb : b.Sound g l) {next : Option Int}
    (hnext : ∀ m ∈ next, g.contains m) : (b.fallInto next).Sound g l := by
  unfold Block.fallInto
  split
  · cases next with
    | none => exact hb
    | some m => exact hb.addEdge (hnext m rfl)
  · exact hb

end Block

namespace Graph

/-- A graph with the same lines as a sound one, whose blocks were changed one by one, is sound if
the changes keep blocks sound. -/
theorem Sound.of_map {g h : Graph} (hg : g.Sound) (hlines : h.registered = g.registered)
    {f : Int → Block → Block}
    (hget : ∀ l, h.get? (.line l) = (g.get? (.line l)).map (f l))
    (hf : ∀ {l b}, b.Sound g l → (f l b).Sound g l) : h.Sound where
  nodup := hlines ▸ hg.nodup
  block {l b} hb := by
    rw [hget] at hb
    obtain ⟨old, hold, rfl⟩ := Option.map_eq_some_iff.1 hb
    refine (hf (hg.block hold)).mono fun m hm => ?_
    rw [← mem_registered, hlines]
    exact mem_registered.2 hm

/-- Ranks keep a graph sound. -/
theorem Sound.numbered {g : Graph} (hg : g.Sound) : g.numbered.Sound := by
  obtain ⟨ls, hlisting, hls, hmem⟩ := hg.exists_listing
  refine hg.of_map ?_ (get?_numbered hlisting (hls.nodup) hmem) fun hb => ?_
  · rw [Graph.numbered, hlisting, registered_numberFrom]
  · exact { hb with }

@[simp] theorem registered_numbered {g : Graph} (hg : g.Sound) :
    g.numbered.registered = g.registered := by
  obtain ⟨ls, hlisting, -, -⟩ := hg.exists_listing
  rw [numbered, hlisting, registered_numberFrom]

/-- One step of the pass adds the default edge of one block and touches no other. -/
theorem fallthrough_step {g : Graph} (hg : g.Sound) {a b : Int} (hb : g.contains b) :
    let g' := if (g.kind? (.line a)).any BlockKind.fallsThrough then g.link (.line a) (.line b)
      else g
    g'.registered = g.registered ∧
      ∀ l, g'.get? (.line l)
        = (g.get? (.line l)).map (·.fallInto (if l = a then some b else none)) := by
  intro g'
  obtain ⟨y, hy⟩ := contains_iff.1 hb
  have hidle : ∀ x : Block, x.fallInto none = x := fun x => by simp [Block.fallInto]
  -- in both cases the question is only whether `l` is the block that falls through
  by_cases hany : (g.kind? (.line a)).any BlockKind.fallsThrough
  · have hg' : g' = g.link (.line a) (.line b) := if_pos hany
    rw [hg']
    refine ⟨registered_link g a _, fun l => ?_⟩
    rw [get?_link hy, (hg.block hy).key]
    by_cases hl : l = a
    · subst hl
      rw [if_pos rfl, if_pos rfl]
      cases hx : g.get? (.line l) with
      | none => rfl
      | some x =>
        have hfall : x.kind.fallsThrough := by simpa [kind?, hx] using hany
        simp [Block.fallInto, hfall]
    · simp [hl, hidle]
  · have hg' : g' = g := if_neg hany
    rw [hg']
    refine ⟨rfl, fun l => ?_⟩
    by_cases hl : l = a
    · subst hl
      cases hx : g.get? (.line l) with
      | none => rfl
      | some x =>
        have hfall : x.kind.fallsThrough = false := by simpa [kind?, hx] using hany
        simp [Block.fallInto, hfall]
    · simp [hl, hidle]

/-- **The default edges**: over a list of registered lines, each once, the pass gives every block
that falls through one edge, to the line listed below it. -/
theorem linkFallthrough_spec :
    ∀ {ls : List Int}, ls.Nodup → ∀ {g : Graph}, g.Sound → (∀ m ∈ ls, g.contains m) →
      (g.linkFallthrough (ls.map .line)).registered = g.registered ∧
        ∀ l, (g.linkFallthrough (ls.map .line)).get? (.line l)
          = (g.get? (.line l)).map (·.fallInto (following ls l))
  | [], _, g, _, _ => by simp [linkFallthrough, following, Block.fallInto]
  | [a], _, g, _, _ => by simp [linkFallthrough, following, Block.fallInto]
  | a :: b :: rest, hls, g, hg, hmem => by
    obtain ⟨ha, hls⟩ := List.nodup_cons.1 hls
    have hb : g.contains b := hmem b (by simp)
    obtain ⟨hlines, hget⟩ := fallthrough_step hg (a := a) hb
    rw [List.map_cons, List.map_cons, linkFallthrough]
    generalize (if (g.kind? (.line a)).any BlockKind.fallsThrough then g.link (.line a) (.line b)
      else g) = g' at hlines hget
    have hg' : g'.Sound := hg.of_map hlines hget fun {l x} hx => by
      refine hx.fallInto fun m hm => ?_
      by_cases hl : l = a
      · rw [if_pos hl, Option.mem_some] at hm
        exact hm ▸ hb
      · rw [if_neg hl] at hm
        cases hm
    have hmem' : ∀ m ∈ b :: rest, g'.contains m := fun m hm => by
      rw [← mem_registered, hlines, mem_registered]
      exact hmem m (List.mem_cons_of_mem a hm)
    obtain ⟨hlines', hget'⟩ := linkFallthrough_spec hls hg' hmem'
    refine ⟨hlines'.trans hlines, fun l => ?_⟩
    rw [← List.map_cons, hget', hget, Option.map_map]
    refine congrArg (Option.map · (g.get? (.line l))) (funext fun x => ?_)
    by_cases hl : l = a
    · -- the block of this step is not listed again
      subst hl
      simp [following, following_of_not_mem ha, Block.fallInto]
    · simp [following, hl, Block.fallInto]

/-- **The finished graph, line by line**: rank and default edge are all that the two passes add. -/
theorem Sound.finished {g : Graph} (hg : g.Sound) {ls : List Int}
    (hlisting : g.listing = ls.map .line) (hls : ls.Nodup) (hmem : ∀ l, l ∈ ls ↔ g.contains l) :
    (g.numbered.linkFallthrough g.listing).Sound ∧
      (g.numbered.linkFallthrough g.listing).registered = g.registered ∧
      ∀ l, (g.numbered.linkFallthrough g.listing).get? (.line l)
        = (g.get? (.line l)).map fun b =>
            ({ b with number := (ls.idxOf l : Nat) } : Block).fallInto (following ls l) := by
  have hlines := registered_numbered hg
  have hcontains : ∀ m ∈ ls, g.numbered.contains m := fun m hm => by
    rw [← mem_registered, hlines, mem_registered]
    exact (hmem m).1 hm
  obtain ⟨hlines', hget⟩ := linkFallthrough_spec hls hg.numbered hcontains
  rw [← hlisting] at hlines' hget
  refine ⟨hg.numbered.of_map hlines' hget fun hb => hb.fallInto fun m hm => ?_,
    hlines'.trans hlines, fun l => ?_⟩
  · exact hcontains m ((following_eq_some hm).subset (by simp))
  · rw [hget, get?_numbered hlisting hls hmem, Option.map_map]
    rfl

end Graph

end GoFlow
