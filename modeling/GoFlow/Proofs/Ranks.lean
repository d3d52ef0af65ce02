import GoFlow.Proofs.Listing

/-!
# Ranks

Listing a graph hands out numbers: each block gets its rank among the registered lines. Numbers are
left over when a line is taken over, and go stale when lines come in between, so they are handed out
anew each time.

- `Graph.mapBlocks`: a change to every block at once.
- `Graph.rank`: how many registered lines are smaller.
- `Graph.Sound.numbered_eq`: numbering gives every registered block its rank, and does nothing else.
- `Upkeep`: the calls that a client may make between two listings, and listings themselves.
- `Graph.ListsByRank`: what a listing returns and what it changes.
-/

namespace GoFlow

/-! ## Changing every block -/

namespace Graph

/-- Changes every block, each by the function for its handle. -/
def mapBlocks (g : Graph) (f : Handle → Block → Block) : Graph :=
  { g with
    lines := g.lines.map fun e => (e.1, f (.line e.1) e.2)
    loose := g.loose.mapIdx fun i b => f (.loose i) b }

theorem get?_mapBlocks (g : Graph) (f : Handle → Block → Block) (h : Handle) :
    (g.mapBlocks f).get? h = (g.get? h).map (f h) := by
  cases h with
  | line l =>
    show (g.lines.map fun e => (e.1, f (.line e.1) e.2)).lookup l = (g.lines.lookup l).map _
    induction g.lines with
    | nil => rfl
    | cons e rest ih =>
      rw [List.map_cons, lookup_entry, lookup_entry, ih]
      by_cases hl : l = e.1
      · simp [hl]
      · simp [hl]
  | loose n => exact List.getElem?_mapIdx

/-- Two changes of every block are one. -/
theorem mapBlocks_mapBlocks (g : Graph) (f f' : Handle → Block → Block) :
    (g.mapBlocks f).mapBlocks f' = g.mapBlocks fun h b => f' h (f h b) := by
  unfold mapBlocks
  simp only [List.map_map, List.mapIdx_mapIdx]
  rfl

theorem mapBlocks_id (g : Graph) : g.mapBlocks (fun _ b => b) = g := by
  unfold mapBlocks
  congr 1
  · exact List.map_id _
  · refine List.ext_getElem? fun i => ?_
    rw [List.getElem?_mapIdx, Option.map_id']

/-- A change of one block is a change of all that leaves the others alone. -/
theorem modify_eq_mapBlocks (g : Graph) (h : Handle) (f : Block → Block) :
    g.modify h f = g.mapBlocks fun k b => if k = h then f b else b := by
  cases h with
  | line l =>
    have hlines : ∀ e : Int × Block, (if e.1 = l then (e.1, f e.2) else (e.1, e.2))
        = (e.1, if Handle.line e.1 = .line l then f e.2 else e.2) := by
      intro e
      by_cases hl : e.1 = l
      · simp [hl]
      · simp [hl]
    have hloose : g.loose
        = g.loose.mapIdx fun i b => if Handle.loose i = .line l then f b else b := by
      refine List.ext_getElem? fun i => ?_
      simp
    show Graph.mk (g.lines.map _) g.loose g.newest = Graph.mk (g.lines.map _) _ g.newest
    rw [← hloose, List.map_congr_left fun e _ => hlines e]
  | loose n =>
    have hlines : g.lines = g.lines.map fun e =>
        (e.1, if Handle.line e.1 = .loose n then f e.2 else e.2) := by
      simp
    have hloose : g.loose.modify n f
        = g.loose.mapIdx fun i b => if Handle.loose i = .loose n then f b else b := by
      refine List.ext_getElem? fun i => ?_
      rw [List.getElem?_modify, List.getElem?_mapIdx]
      by_cases hi : n = i
      · simp [hi]
      · simp [hi, Ne.symm hi]
    show Graph.mk g.lines (g.loose.modify n f) g.newest = Graph.mk _ _ g.newest
    rw [hloose, ← hlines]

section

variable {g : Graph}

@[simp] theorem registered_mapBlocks (f : Handle → Block → Block) :
    (g.mapBlocks f).registered = g.registered := by
  show (g.lines.map _).map Prod.fst = g.lines.map Prod.fst
  rw [List.map_map]
  rfl

/-- Where no line has two entries, each entry is found under its line. -/
theorem get?_of_mem_lines (hg : g.registered.Nodup) {e : Int × Block} (he : e ∈ g.lines) :
    g.get? (.line e.1) = some e.2 := by
  unfold registered at hg
  show g.lines.lookup e.1 = some e.2
  generalize g.lines = es at hg he
  induction es with
  | nil => cases he
  | cons f rest ih =>
    rw [List.map_cons, List.nodup_cons] at hg
    rw [lookup_entry]
    rcases List.mem_cons.1 he with rfl | he
    · rw [if_pos rfl]
    · have hne : e.1 ≠ f.1 := fun h => hg.1 (h ▸ List.mem_map_of_mem he)
      rw [if_neg hne, ih hg.2 he]

/-- What becomes of a graph is decided by what becomes of its blocks. -/
theorem mapBlocks_congr (hg : g.registered.Nodup) {f f' : Handle → Block → Block}
    (h : ∀ k b, g.get? k = some b → f k b = f' k b) : g.mapBlocks f = g.mapBlocks f' := by
  have hlines : g.lines.map (fun e => (e.1, f (.line e.1) e.2))
      = g.lines.map fun e => (e.1, f' (.line e.1) e.2) :=
    List.map_congr_left fun e he => by rw [h _ _ (get?_of_mem_lines hg he)]
  have hloose : g.loose.mapIdx (fun i b => f (.loose i) b)
      = g.loose.mapIdx fun i b => f' (.loose i) b := by
    refine List.ext_getElem? fun i => ?_
    rw [List.getElem?_mapIdx, List.getElem?_mapIdx]
    cases hi : g.loose[i]? with
    | none => rfl
    | some b => rw [Option.map_some, Option.map_some, h (.loose i) b hi]
  rw [mapBlocks, mapBlocks, hlines, hloose]

/-! ## Numbers as ranks -/

/-- How many registered lines are smaller than a line. -/
def rank (g : Graph) (l : Int) : Nat := g.registered.countP (· < l)

/-- A registered block with its rank; a loose block as it is. -/
def withRank (g : Graph) : Handle → Block → Block
  | .line l, b => { b with number := g.rank l }
  | .loose _, b => b

end

end Graph

/-- In an ascending list, the place of an item is the number of smaller items. -/
theorem idxOf_eq_countP {l : Int} {ls : List Int} (hls : ls.Pairwise (· < ·)) (hl : l ∈ ls) :
    ls.idxOf l = ls.countP (· < l) := by
  induction ls with
  | nil => cases hl
  | cons m ls ih =>
    obtain ⟨hm, hls⟩ := List.pairwise_cons.1 hls
    rw [List.countP_cons]
    rcases List.mem_cons.1 hl with rfl | hl
    · -- nothing behind the head is smaller than it
      have hnone : ls.countP (· < l) = 0 := by
        refine List.countP_eq_zero.2 fun k hk => ?_
        have := hm k hk
        simp only [decide_eq_true_eq]
        omega
      simp [hnone]
    · have hlt : m < l := hm l hl
      rw [List.idxOf_cons, beq_false_of_ne (Int.ne_of_lt hlt), cond_false, ih hls hl]
      simp [hlt]

namespace Graph

/-- Numbering goes from block to block, none of which comes twice. -/
theorem numberFrom_eq {hs : List Handle} (hhs : hs.Nodup) :
    ∀ (g : Graph) (i : Nat), g.numberFrom i hs
      = g.mapBlocks fun h b =>
          if h ∈ hs then { b with number := (i + hs.idxOf h : Nat) } else b := by
  induction hs with
  | nil =>
    intro g i
    simp only [List.not_mem_nil, if_false]
    exact g.mapBlocks_id.symm
  | cons k hs ih =>
    intro g i
    obtain ⟨hk, hhs⟩ := List.nodup_cons.1 hhs
    rw [numberFrom, ih hhs, modify_eq_mapBlocks, mapBlocks_mapBlocks]
    congr 1
    funext h b
    by_cases hh : h = k
    · subst hh
      simp [hk]
    · have hidx : (k :: hs).idxOf h = hs.idxOf h + 1 := by
        rw [List.idxOf_cons, beq_false_of_ne (Ne.symm hh), cond_false]
      have hsum : i + 1 + hs.idxOf h = i + (hs.idxOf h + 1) := by omega
      rw [hidx, hsum]
      simp [hh]

variable {g : Graph}

/-- In a sound graph, the place of a line in the listing is its rank. -/
theorem Sound.idxOf_listing (hg : g.Sound) {l : Int} (hl : g.contains l) :
    .line l ∈ g.listing ∧ g.listing.idxOf (.line l) = g.rank l := by
  obtain ⟨ls, hlisting, hls, hmem⟩ := hg.exists_listing
  have hperm : ls.Perm g.registered := (List.perm_ext_iff_of_nodup hls.nodup hg.nodup).2 fun m => by
    rw [hmem, mem_registered]
  have hl' := (hmem l).2 hl
  have hnodup : (ls.map Handle.line).Nodup := hls.nodup.map fun _ _ => Handle.line.inj
  have hplace := hnodup.idxOf_getElem (ls.idxOf l) (by simpa using List.idxOf_lt_length_iff.2 hl')
  rw [List.getElem_map, List.getElem_idxOf] at hplace
  rw [hlisting, hplace, idxOf_eq_countP hls hl', rank, hperm.countP_eq]
  exact ⟨List.mem_map_of_mem hl', rfl⟩

/-- The listing of a sound graph holds the handles of its lines. -/
theorem Sound.mem_listing (hg : g.Sound) {h : Handle} :
    h ∈ g.listing ↔ ∃ l, h = .line l ∧ g.contains l := by
  obtain ⟨ls, hlisting, -, hmem⟩ := hg.exists_listing
  rw [hlisting, List.mem_map]
  simp only [hmem]
  exact exists_congr fun l => and_comm.trans (and_congr_left fun _ => eq_comm)

/-- It holds each of them once. -/
theorem Sound.nodup_listing (hg : g.Sound) : g.listing.Nodup := by
  obtain ⟨ls, hlisting, hls, -⟩ := hg.exists_listing
  rw [hlisting]
  exact hls.nodup.map fun _ _ => Handle.line.inj

/-- **Numbering** gives every registered block its rank, and does nothing else. -/
theorem Sound.numbered_eq (hg : g.Sound) : g.numbered = g.mapBlocks g.withRank := by
  rw [Graph.numbered, numberFrom_eq hg.nodup_listing]
  refine mapBlocks_congr hg.nodup fun h b hb => ?_
  cases h with
  | line l =>
    obtain ⟨hl, hidx⟩ := hg.idxOf_listing (contains_iff.2 ⟨b, hb⟩)
    rw [if_pos hl, hidx, Nat.zero_add]
    rfl
  | loose n =>
    have hloose : Handle.loose n ∉ g.listing := by
      rw [hg.mem_listing]
      rintro ⟨l, hl, -⟩
      cases hl
    rw [if_neg hloose]
    rfl

/-- Sound graphs with the same lines are listed alike. -/
theorem Sound.listing_eq (hg : g.Sound) {g' : Graph} (hg' : g'.Sound)
    (h : g'.registered = g.registered) : g'.listing = g.listing := by
  obtain ⟨ls, hlisting, hls, hmem⟩ := hg.exists_listing
  obtain ⟨ls', hlisting', hls', hmem'⟩ := hg'.exists_listing
  have heq : ls' = ls := hls'.eq_of_mem_iff hls fun l => by
    rw [hmem, hmem', ← mem_registered, ← mem_registered, h]
  rw [hlisting, hlisting', heq]

/-- The registered blocks have their ranks for numbers. -/
def InRank (g : Graph) : Prop := ∀ {l b}, g.get? (.line l) = some b → b.number = g.rank l

/-- Numbering puts the blocks in rank. -/
theorem Sound.inRank_numbered (hg : g.Sound) : g.numbered.InRank := by
  intro l b hb
  rw [hg.numbered_eq] at hb ⊢
  rw [get?_mapBlocks] at hb
  obtain ⟨x, -, rfl⟩ := Option.map_eq_some_iff.1 hb
  rw [rank, registered_mapBlocks]
  rfl

/-- Numbers that are right stay as they are. -/
theorem Sound.numbered_of_inRank (hg : g.Sound) (h : g.InRank) : g.numbered = g := by
  rw [hg.numbered_eq, mapBlocks_congr hg.nodup fun k b hb => ?_, mapBlocks_id]
  cases k with
  | line l =>
    show { b with number := (g.rank l : Int) } = b
    rw [← h hb]
  | loose n => rfl

/-- A link changes no ranks. -/
theorem InRank.link (h : g.InRank) (s : Int) (t : Handle) : (g.link (.line s) t).InRank := by
  intro l b hb
  rw [rank, registered_link]
  unfold Graph.link at hb
  cases ht : g.get? t with
  | none =>
    rw [ht] at hb
    exact h hb
  | some y =>
    rw [ht] at hb
    change (g.modify (.line s) (·.addEdge y.key t)).get? (.line l) = some b at hb
    rw [get?_modify] at hb
    by_cases hl : l = s
    · rw [if_pos hl] at hb
      obtain ⟨x, hx, rfl⟩ := Option.map_eq_some_iff.1 hb
      show x.number = g.rank l
      exact h hx
    · rw [if_neg hl] at hb
      exact h hb

end Graph

/-! ## Between listings -/

/-- What a client does to a graph: it changes it, or has it listed. -/
inductive Upkeep where
  | change (c : Change)
  | list
deriving DecidableEq, Repr

/-- The line that is registered. -/
def Upkeep.registers? : Upkeep → Option Int
  | change c => c.registers?
  | list => none

namespace Graph

/-- Takes one step of upkeep. -/
def upkeep (g : Graph) : Upkeep → Graph
  | .change c => g.apply c
  | .list => g.numbered

/-- Takes the steps from left to right. -/
def upkeepAll (g : Graph) (us : List Upkeep) : Graph := us.foldl upkeep g

/-- Whether a client may take the step: no markers, and edges between registered lines only. -/
def Permits (g : Graph) : Upkeep → Prop
  | .change c => g.Admits c
  | .list => True

/-- Whether a client may take the steps one after the other. -/
def PermitsAll (g : Graph) : List Upkeep → Prop
  | [] => True
  | u :: us => g.Permits u ∧ (g.upkeep u).PermitsAll us

/-- Upkeep that is permitted keeps a graph sound. -/
theorem Sound.upkeep {g : Graph} (hg : g.Sound) {u : Upkeep} (hu : g.Permits u) :
    (g.upkeep u).Sound := by
  cases u with
  | change c => exact hg.apply hu
  | list => exact hg.numbered

theorem Sound.upkeepAll {us : List Upkeep} :
    ∀ {g : Graph}, g.Sound → g.PermitsAll us → (g.upkeepAll us).Sound := by
  induction us with
  | nil => exact fun hg _ => hg
  | cons u us ih => exact fun hg hus => ih (hg.upkeep hus.1) hus.2

/-- A step that registers nothing leaves the lines and the ranks alone. -/
theorem upkeep_idle {g : Graph} (hg : g.Sound) (hrank : g.InRank) {u : Upkeep}
    (hidle : u.registers? = none) :
    (g.upkeep u).registered = g.registered ∧ (g.upkeep u).InRank := by
  cases u with
  | list =>
    show g.numbered.registered = g.registered ∧ g.numbered.InRank
    rw [hg.numbered_of_inRank hrank]
    exact ⟨rfl, hrank⟩
  | change c =>
    cases c with
    | register l kind owner => cases hidle
    | link s t => exact ⟨registered_link g s _, hrank.link s _⟩

/-- So do steps in any number. -/
theorem upkeepAll_idle {us : List Upkeep} :
    ∀ {g : Graph}, g.Sound → g.InRank → g.PermitsAll us → (∀ u ∈ us, u.registers? = none) →
      (g.upkeepAll us).registered = g.registered ∧ (g.upkeepAll us).InRank := by
  induction us with
  | nil => exact fun _ hrank _ _ => ⟨rfl, hrank⟩
  | cons u us ih =>
    intro g hg hrank hus hidle
    obtain ⟨hlines, hrank'⟩ := upkeep_idle hg hrank (hidle u List.mem_cons_self)
    obtain ⟨hlines', hrank''⟩ :=
      ih (hg.upkeep hus.1) hrank' hus.2 fun v hv => hidle v (List.mem_cons_of_mem u hv)
    exact ⟨hlines'.trans hlines, hrank''⟩

/-- What a listing returns, and what it leaves behind. -/
structure ListsByRank (g : Graph) : Prop where
  /-- Every registered block is listed, and it is listed once, -/
  mem_listing : ∀ h, h ∈ g.listing ↔ ∃ l, h = .line l ∧ g.contains l
  nodup : g.listing.Nodup
  /-- by ascending line. -/
  ascending : (g.listing.filterMap g.get?).Pairwise (·.endLine < ·.endLine)
  /-- No line is registered twice, -/
  lines_nodup : g.registered.Nodup
  /-- and the number of a block is how many registered lines are smaller than its own. -/
  number : ∀ h ∈ g.listing, ∃ b, g.numbered.get? h = some b ∧
    b.number = g.registered.countP (· < b.endLine)
  /-- Apart from the number, no block is changed; nor is the latest registration. -/
  keeps : ∀ h, (g.numbered.get? h).map Block.unnumbered = (g.get? h).map Block.unnumbered
  newest : g.numbered.newest = g.newest
  /-- As long as nothing is registered, another listing returns the same and changes nothing. -/
  again : ∀ us, g.numbered.PermitsAll us → (∀ u ∈ us, u.registers? = none) →
    (g.numbered.upkeepAll us).listing = g.listing ∧
      (g.numbered.upkeepAll us).numbered = g.numbered.upkeepAll us

/-- A rank is nothing but a number. -/
theorem unnumbered_withRank (g : Graph) (h : Handle) (b : Block) :
    (g.withRank h b).unnumbered = b.unnumbered := by
  cases h <;> rfl

end Graph

/-- **Listing is a rank assignment**: whatever lines were registered and linked and however often
the graph was listed before, a listing returns every registered block once, by strictly ascending
line, and numbers it by its rank. It changes nothing else, and a second one changes nothing. -/
theorem listsByRank_of_upkeep {us : List Upkeep} (hus : ({} : Graph).PermitsAll us) :
    (({} : Graph).upkeepAll us).ListsByRank := by
  have hg := Graph.sound_empty.upkeepAll hus
  generalize ({} : Graph).upkeepAll us = g at hg
  have hblock : ∀ {l b}, g.get? (.line l) = some b → b.endLine = l :=
    fun hb => (hg.block hb).endLine
  constructor
  · exact fun h => hg.mem_listing
  · exact hg.nodup_listing
  · obtain ⟨ls, hlisting, hls, -⟩ := hg.exists_listing
    rw [hlisting, List.filterMap_map, List.pairwise_filterMap]
    refine hls.imp fun hlt x hx y hy => ?_
    rw [hblock hx, hblock hy]
    exact hlt
  · exact hg.nodup
  · intro h hh
    obtain ⟨l, rfl, hl⟩ := hg.mem_listing.1 hh
    obtain ⟨b, hb⟩ := Graph.contains_iff.1 hl
    rw [hg.numbered_eq, Graph.get?_mapBlocks, hb]
    refine ⟨_, rfl, ?_⟩
    rw [← hblock hb]
    rfl
  · intro h
    rw [hg.numbered_eq, Graph.get?_mapBlocks, Option.map_map]
    simp only [Function.comp_def, Graph.unnumbered_withRank]
  · rw [hg.numbered_eq]
    rfl
  · -- upkeep that registers nothing leaves the ranks right
    intro us' hus' hidle
    have hsound := hg.numbered.upkeepAll hus'
    obtain ⟨hlines, hrank⟩ := Graph.upkeepAll_idle hg.numbered hg.inRank_numbered hus' hidle
    exact ⟨hg.listing_eq hsound (hlines.trans (Graph.registered_numbered hg)),
      hsound.numbered_of_inRank hrank⟩

/-- Two lines that are listed, a third that comes in between them, and a return that takes over the
last one. -/
def shuffledUpkeep : List Upkeep :=
  [.change (.register 20 .forStatement "f"), .change (.register 10 .functionEntry "f"), .list,
   .change (.register 15 .ifCondition "f"), .change (.register 20 .returnStatement "f"),
   .change (.link 10 20)]

/-- The return has the number of the loop from before, until it is listed as the third. -/
theorem listsByRank_of_upkeep_shuffled :
    ({} : Graph).PermitsAll shuffledUpkeep ∧
      (({} : Graph).upkeepAll shuffledUpkeep).ListsByRank ∧
      (({} : Graph).upkeepAll shuffledUpkeep).listing = [10, 15, 20].map .line ∧
      ([10, 15, 20].map fun l => ((({} : Graph).upkeepAll shuffledUpkeep).get? (.line l)).map
        Block.number) = [some 0, some (-1), some 1] ∧
      ([10, 15, 20].map fun l => ((({} : Graph).upkeepAll shuffledUpkeep).numbered.get?
        (.line l)).map Block.number) = [some 0, some 1, some 2] := by
  have hpermits : ({} : Graph).PermitsAll shuffledUpkeep :=
    ⟨rfl, rfl, trivial, rfl, rfl, ⟨by decide, by decide⟩, trivial⟩
  exact ⟨hpermits, listsByRank_of_upkeep hpermits, by decide, by decide, by decide⟩

end GoFlow
