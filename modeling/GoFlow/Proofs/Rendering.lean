import GoFlow.Graph.Render
import GoFlow.Proofs.Characters
import Mathlib.Data.List.Basic

/-!
# What a rendering tells

The lines of a rendering tell number, kind and line of every block and of its successors. They can
be told apart and taken apart again: only the lines of successors are indented, and every number is
followed by a mark that no number holds.

- `Block.caption`: what a line of a rendering tells of a block. Blocks with the same line have the
  same caption (`Block.caption_of_render`).
- `Graph.portrait`: what a rendering tells of a block and of its successors.
- `Graph.Holds`: the lists of blocks in a graph, with handles that stand for blocks.
- `Graph.portrait_of_render`: lists with the same rendering have the same portraits.
-/

namespace GoFlow

/-! ## Taking texts apart -/

/-- Lists of which the first parts have a property, and what comes right behind has not, are equal
part by part. -/
theorem eq_of_append_while {α : Type} {p : α → Bool} {xs ys a b : List α} (hxs : ∀ x ∈ xs, p x)
    (hys : ∀ y ∈ ys, p y) (ha : ∀ x ∈ a.head?, p x = false) (hb : ∀ y ∈ b.head?, p y = false)
    (h : xs ++ a = ys ++ b) : xs = ys ∧ a = b := by
  have hstop : ∀ {l : List α}, (∀ x ∈ l.head?, p x = false) → l.takeWhile p = [] := by
    intro l hl
    cases l with
    | nil => rfl
    | cons x l => exact List.takeWhile_cons_of_neg (by simp [hl x rfl])
  have hwhile := congrArg (List.takeWhile p) h
  rw [List.takeWhile_append_of_pos hxs, List.takeWhile_append_of_pos hys, hstop ha, hstop hb,
    List.append_nil, List.append_nil] at hwhile
  rw [hwhile] at h
  exact ⟨hwhile, List.append_cancel_left h⟩

/-- Equal texts that hold a mark, and not before, are equal up to the mark and behind it. -/
theorem eq_of_append_mark {c : Char} {a b x y : List Char} (ha : c ∉ a) (hb : c ∉ b)
    (h : a ++ c :: x = b ++ c :: y) : a = b ∧ x = y := by
  have hother : ∀ {s : List Char}, c ∉ s → ∀ d ∈ s, (d != c) = true :=
    fun hs d hd => bne_iff_ne.2 fun hdc => hs (hdc ▸ hd)
  have hmark : ∀ {s : List Char}, ∀ d ∈ (c :: s).head?, (d != c) = false := by simp
  obtain ⟨rfl, hrest⟩ := eq_of_append_while (hother ha) (hother hb) hmark hmark h
  exact ⟨rfl, (List.cons.inj hrest).2⟩

/-! ## Lines -/

/-- Kinds can be read back from their names. -/
theorem BlockKind.ofName?_name (k : BlockKind) : ofName? k.name = some k := by
  cases k <;> decide

theorem BlockKind.name_injective {j k : BlockKind} (h : j.name = k.name) : j = k :=
  Option.some.inj (by rw [← ofName?_name j, h, ofName?_name k])

theorem BlockKind.space_not_mem_name (k : BlockKind) : ' ' ∉ k.name.toList := by
  cases k <;> decide

namespace Block

/-- What a line of a rendering tells of a block: number, kind and line. -/
def caption (b : Block) : Int × BlockKind × Int := (b.number, b.kind, b.endLine)

/-- The text of a line, piece by piece. -/
theorem toList_render (b : Block) :
    b.render.toList = (toString b.number).toList ++ ')' :: ' ' :: (b.kind.name.toList
      ++ ' ' :: ("(EndLine: ".toList ++ ((toString b.endLine).toList
        ++ ')' :: (" \x7b" ++ b.uid ++ "\x7d").toList))) := by
  simp [render, renderTail, String.toList_append]

/-- **A line of a rendering has one reading.** The pieces are cut off one by one, each at the first
mark behind it that it does not hold itself. -/
theorem caption_of_render {a b : Block} (h : a.render = b.render) : a.caption = b.caption := by
  have hmark : ∀ n : Int, ')' ∉ (toString n).toList := not_mem_toString (by decide) (by decide)
  have htext : ∀ {s t : String}, s.toList = t.toList → s = t := String.toList_injective
  have hlist := congrArg String.toList h
  rw [toList_render, toList_render] at hlist
  obtain ⟨hnumber, hrest⟩ := eq_of_append_mark (hmark _) (hmark _) hlist
  obtain ⟨hkind, hrest⟩ := eq_of_append_mark a.kind.space_not_mem_name b.kind.space_not_mem_name
    (List.cons.inj hrest).2
  obtain ⟨hline, -⟩ := eq_of_append_mark (hmark _) (hmark _) (List.append_cancel_left hrest)
  rw [caption, caption, eq_of_toString_eq (htext hnumber), BlockKind.name_injective (htext hkind),
    eq_of_toString_eq (htext hline)]

/-- The line of a successor is that of the block behind an arrow. -/
theorem renderSuccessor_eq (b : Block) : b.renderSuccessor = "\t-> (" ++ b.render := by
  simp [renderSuccessor, render, String.append_assoc]

/-- The line of a successor tells its caption. -/
theorem caption_of_renderSuccessor {a b : Block} (h : a.renderSuccessor = b.renderSuccessor) :
    a.caption = b.caption := by
  rw [renderSuccessor_eq, renderSuccessor_eq, String.append_right_inj] at h
  exact caption_of_render h

/-- Whether a line is indented, as the lines of successors are. -/
def isIndented (line : String) : Bool := line.toList.head? == some '\t'

theorem isIndented_renderSuccessor (b : Block) : isIndented b.renderSuccessor = true := by
  rw [renderSuccessor_eq, isIndented, String.toList_append]
  rfl

/-- The line of a block is told from the lines of its successors by the indent. -/
theorem isIndented_render (b : Block) : isIndented b.render = false := by
  have htab : '\t' ∉ (toString b.number).toList := not_mem_toString (by decide) (by decide) _
  rw [isIndented, toList_render]
  cases hnumber : (toString b.number).toList with
  | nil => rfl
  | cons c cs =>
    rw [hnumber, List.mem_cons, not_or] at htab
    simpa using Ne.symm htab.1

end Block

/-! ## Lists of blocks -/

/-- What depends on what a function tells of the items is the same for lists of which the function
tells the same. -/
theorem map_eq_of_map_eq {α β γ : Type} {f : α → β} {k : α → γ}
    (hfk : ∀ {a b}, f a = f b → k a = k b) :
    ∀ {xs ys : List α}, xs.map f = ys.map f → xs.map k = ys.map k := by
  intro xs
  induction xs with
  | nil =>
    intro ys h
    rw [List.map_eq_nil_iff.1 h.symm]
  | cons x xs ih =>
    intro ys h
    obtain ⟨y, ys, rfl, hxy, hrest⟩ := List.map_eq_cons_iff.1 h.symm
    rw [List.map_cons, List.map_cons, hfk hxy, ih hrest.symm]

namespace Graph

/-- The handles of the list stand for blocks of the graph, and so do the targets of their edges. -/
def Holds (g : Graph) (hs : List Handle) : Prop :=
  ∀ h ∈ hs, (g.get? h).isSome ∧ ∀ t ∈ g.successors h, (g.get? t).isSome

instance (g : Graph) (hs : List Handle) : Decidable (g.Holds hs) :=
  inferInstanceAs (Decidable (∀ h ∈ hs, _ ∧ _))

/-- What a rendering tells of a block: its caption, and those of its successors in their order. -/
def portrait (g : Graph) (h : Handle) :
    Option (Int × BlockKind × Int) × List (Option (Int × BlockKind × Int)) :=
  ((g.get? h).map Block.caption, (g.successors h).map fun t => (g.get? t).map Block.caption)

/-- The successors of a block, as blocks. -/
def successorBlocks (g : Graph) (h : Handle) : List Block := (g.successors h).filterMap g.get?

section

variable {g g' : Graph} {h : Handle} {hs hs' : List Handle} {b : Block}

theorem Holds.head (hg : g.Holds (h :: hs)) : ∃ b, g.get? h = some b :=
  Option.isSome_iff_exists.1 (hg h List.mem_cons_self).1

theorem Holds.tail (hg : g.Holds (h :: hs)) : g.Holds hs :=
  fun k hk => hg k (List.mem_cons_of_mem h hk)

/-- No successor is lost. -/
theorem Holds.map_successorBlocks (hg : g.Holds (h :: hs)) {α : Type} (f : Block → α) :
    (g.successorBlocks h).map (some ∘ f) = (g.successors h).map fun t => (g.get? t).map f := by
  rw [successorBlocks, List.map_filterMap, ← List.filterMap_eq_map]
  refine List.filterMap_congr fun t ht => ?_
  obtain ⟨c, hc⟩ := Option.isSome_iff_exists.1 ((hg h List.mem_cons_self).2 t ht)
  simp only [Function.comp_apply, hc, Option.map_some]

/-- A block is printed in one line, and each of its successors in another. -/
theorem renderBlock_eq (hb : g.get? h = some b) :
    g.renderBlock h = b.render :: (g.successorBlocks h).map Block.renderSuccessor := by
  rw [renderBlock, hb, successorBlocks, List.map_filterMap]
  rfl

/-- A rendering is empty, or it starts with the line of a block. -/
theorem isIndented_head?_render (hg : g.Holds hs) :
    ∀ line ∈ (g.render hs).head?, Block.isIndented line = false := by
  cases hs with
  | nil =>
    intro line hline
    cases hline
  | cons h hs =>
    obtain ⟨b, hb⟩ := hg.head
    intro line hline
    rw [render, List.flatMap_cons, renderBlock_eq hb] at hline
    obtain rfl : b.render = line := by simpa using hline
    exact b.isIndented_render

theorem isIndented_of_mem_successors :
    ∀ line ∈ (g.successorBlocks h).map Block.renderSuccessor, Block.isIndented line = true := by
  intro line hline
  obtain ⟨c, -, rfl⟩ := List.mem_map.1 hline
  exact c.isIndented_renderSuccessor

/-- **Lists of blocks with the same rendering have the same portraits.** By induction on the list:
the first line is that of the first block, the indented lines behind it are those of its
successors, and the rest is a rendering again. -/
theorem portrait_of_render (hg : g.Holds hs) (hg' : g'.Holds hs')
    (h : g.render hs = g'.render hs') : hs.map g.portrait = hs'.map g'.portrait := by
  induction hs generalizing hs' with
  | nil =>
    cases hs' with
    | nil => rfl
    | cons k ks =>
      obtain ⟨c, hc⟩ := hg'.head
      rw [render, render, List.flatMap_cons, renderBlock_eq hc] at h
      cases h
  | cons k ks ih =>
    obtain ⟨b, hb⟩ := hg.head
    cases hs' with
    | nil =>
      rw [render, render, List.flatMap_cons, renderBlock_eq hb] at h
      cases h
    | cons k' ks' =>
      obtain ⟨b', hb'⟩ := hg'.head
      rw [render, render, List.flatMap_cons, List.flatMap_cons, renderBlock_eq hb,
        renderBlock_eq hb'] at h
      obtain ⟨hblock, hrest⟩ := List.cons.inj h
      -- the lines of the successors are the indented ones, up to the next block
      obtain ⟨hsuccessors, hrest⟩ := eq_of_append_while isIndented_of_mem_successors
        isIndented_of_mem_successors (isIndented_head?_render hg.tail)
        (isIndented_head?_render hg'.tail) hrest
      have hcaptions := map_eq_of_map_eq (k := some ∘ Block.caption)
        (fun hab => congrArg some (Block.caption_of_renderSuccessor hab)) hsuccessors
      rw [hg.map_successorBlocks, hg'.map_successorBlocks] at hcaptions
      rw [List.map_cons, List.map_cons, ih hg.tail hg'.tail hrest, portrait, portrait, hb, hb',
        Option.map_some, Option.map_some, Block.caption_of_render hblock, hcaptions]

/-- There is a line for every block and every edge. -/
theorem length_render (hg : g.Holds hs) : (g.render hs).length = hs.length + g.edgeCount hs := by
  induction hs with
  | nil => rfl
  | cons k ks ih =>
    obtain ⟨b, hb⟩ := hg.head
    have hsuccessors := congrArg List.length (hg.map_successorBlocks Block.render)
    rw [List.length_map, List.length_map] at hsuccessors
    have hcount : g.edgeCount (k :: ks) = (g.successors k).length + g.edgeCount ks := rfl
    have hrest := ih hg.tail
    rw [render] at hrest
    rw [render, List.flatMap_cons, renderBlock_eq hb, List.length_append, List.length_cons,
      List.length_map, hsuccessors, hrest, List.length_cons, hcount]
    omega

end

end Graph

/-- **The rendering determines the graph**: two lists of blocks with the same rendering are equally
long and agree, place by place, in number, kind and line of the block and of each of its successors.
A rendering has one line for each block and one for each edge. -/
theorem render_determines {g g' : Graph} {hs hs' : List Handle} (hg : g.Holds hs)
    (hg' : g'.Holds hs') :
    (g.render hs = g'.render hs' →
      hs.length = hs'.length ∧ hs.map g.portrait = hs'.map g'.portrait) ∧
      (g.render hs).length = hs.length + g.edgeCount hs := by
  refine ⟨fun h => ?_, Graph.length_render hg⟩
  have hportraits := Graph.portrait_of_render hg hg' h
  have hlength := congrArg List.length hportraits
  rw [List.length_map, List.length_map] at hlength
  exact ⟨hlength, hportraits⟩

/-- A marker and a return on a line below zero that leads to itself and to the marker. -/
def looseReturn : Graph :=
  { loose := [⟨.exit, 0, -1, "", [], none⟩,
      ⟨.returnStatement, -7, 12, "f", [⟨-13, .loose 0⟩, ⟨-7, .loose 1⟩], some (.loose 0)⟩] }

/-- The same with a registered line, which nobody owns. -/
def registeredReturn : Graph :=
  { lines := [(-7,
      ⟨.returnStatement, -7, 12, "", [⟨-13, .loose 0⟩, ⟨-7, .line (-7)⟩], some (.line (-7))⟩)],
    loose := [⟨.exit, 0, -1, "", [], none⟩] }

/-- The rendering of the two does not show which is which. -/
theorem render_determines_return :
    looseReturn.Holds [.loose 1, .loose 0] ∧ registeredReturn.Holds [.line (-7), .loose 0] ∧
      looseReturn.render [.loose 1, .loose 0]
        = ["12) RETURN_STMT (EndLine: -7) \x7b-7\x7d", "\t-> (-1) EXIT (EndLine: 0) \x7b-13\x7d",
           "\t-> (12) RETURN_STMT (EndLine: -7) \x7b-7\x7d", "-1) EXIT (EndLine: 0) \x7b-13\x7d"] ∧
      [.loose 1, .loose 0].map looseReturn.portrait
        = [.line (-7), .loose 0].map registeredReturn.portrait ∧
      looseReturn.edgeCount [.loose 1, .loose 0] = 2 := by
  have hg : looseReturn.Holds [.loose 1, .loose 0] := by decide
  have hg' : registeredReturn.Holds [.line (-7), .loose 0] := by decide
  have hrender : looseReturn.render [.loose 1, .loose 0]
      = registeredReturn.render [.line (-7), .loose 0] := by decide
  exact ⟨hg, hg', by decide, ((render_determines hg hg').1 hrender).2, by decide⟩

end GoFlow
