import GoFlow.Proofs.Integrity
import GoFlow.Proofs.Itinerary

/-!
# Shifting lines

All that a build does with lines is to compare them, to go to the next one, and to use them as
keys. So the graph of a tree that is moved down by some rows is the graph of the tree, moved down
by as many lines.

- `Node.shifted`, `Build.shifted`: a tree and what is built from it, moved down.
- `Graph.register_shifted`, `Graph.link_shifted`: the changes of a graph commute with shifting it,
  as long as no block is a marker, whose key would not move.
- `Walk.Shifts`: two walks of which one is the other moved down. Every part of a construct takes
  such walks to such walks, so that a node does, too (`Alike.node`).
-/

namespace GoFlow

/-! ## Graphs -/

/-- The handle of the same block `k` lines further down. -/
def Handle.shifted (k : Int) : Handle → Handle
  | .line l => .line (l + k)
  | .loose n => .loose n

def Edge.shifted (k : Int) (e : Edge) : Edge := ⟨e.key + k, e.target.shifted k⟩

/-- The block `k` lines further down: kind, number and owner stay. -/
def Block.shifted (k : Int) (b : Block) : Block :=
  { b with
    endLine := b.endLine + k
    edges := b.edges.map (Edge.shifted k)
    newest := b.newest.map (Handle.shifted k) }

def Graph.shifted (k : Int) (g : Graph) : Graph where
  lines := g.lines.map fun e => (e.1 + k, e.2.shifted k)
  loose := g.loose.map (Block.shifted k)
  newest := g.newest.map (· + k)

/-- Moving all keys by the same distance keeps their order. -/
theorem insertEdge_shifted (k : Int) (e : Edge) (es : List Edge) :
    insertEdge (e.shifted k) (es.map (Edge.shifted k))
      = (insertEdge e es).map (Edge.shifted k) := by
  induction es with
  | nil => rfl
  | cons f rest ih =>
    rw [List.map_cons, insertEdge, insertEdge]
    show (if e.key + k < f.key + k then _ else if e.key + k = f.key + k then _ else _) = _
    by_cases hlt : e.key < f.key
    · rw [if_pos hlt, if_pos (by omega)]
      rfl
    · rw [if_neg hlt, if_neg (by omega)]
      by_cases heq : e.key = f.key
      · rw [if_pos heq, if_pos (by omega)]
        rfl
      · rw [if_neg heq, if_neg (by omega), ih]
        rfl

namespace Block

@[simp] theorem kind_shifted (k : Int) (b : Block) : (b.shifted k).kind = b.kind := rfl

theorem addEdge_shifted (k : Int) (b : Block) (key : Int) (t : Handle) :
    (b.shifted k).addEdge (key + k) (t.shifted k) = (b.addEdge key t).shifted k := by
  have hedges := insertEdge_shifted k ⟨key, t⟩ b.edges
  unfold addEdge shifted
  simp only [Option.map_some, Block.mk.injEq, and_true, true_and]
  exact hedges

/-- The key of a block that is no marker moves with its line. -/
theorem key_shifted (k : Int) {b : Block} (hb : b.kind.isMarker = false) :
    (b.shifted k).key = b.key + k := by
  rw [key, key, kind_shifted, hb]
  rfl

end Block

namespace Graph

variable {g : Graph} {l : Int}

/-- No registered block is a marker. -/
def Unmarked (g : Graph) : Prop :=
  ∀ l kind, g.kind? (.line l) = some kind → kind.isMarker = false

theorem unmarked_empty : ({} : Graph).Unmarked := by
  intro l kind h
  cases h

/-- A graph stays without markers if none is registered. -/
theorem Unmarked.register (hg : g.Unmarked) (l : Int) {kind : BlockKind}
    (hkind : kind.isMarker = false) (owner : String) : (g.register l kind owner).Unmarked := by
  intro m k hk
  rw [kind?_register] at hk
  split at hk
  · obtain rfl := Option.some.inj hk
    exact hkind
  · exact hg m k hk

theorem Unmarked.link (hg : g.Unmarked) (s : Int) (t : Handle) : (g.link (.line s) t).Unmarked := by
  intro m k hk
  rw [kind?_link] at hk
  exact hg m k hk

theorem Unmarked.isMarker_eq (hg : g.Unmarked) {b : Block} (hb : g.get? (.line l) = some b) :
    b.kind.isMarker = false := hg l b.kind (by rw [kind?, hb]; rfl)

/-- **What is read from a shifted graph** is what is read from the graph, shifted. -/
theorem get?_shifted (k : Int) (g : Graph) (h : Handle) :
    (g.shifted k).get? (h.shifted k) = (g.get? h).map (Block.shifted k) := by
  cases h with
  | loose n => exact List.getElem?_map
  | line l =>
    show (g.lines.map _).lookup (l + k) = (g.lines.lookup l).map _
    induction g.lines with
    | nil => rfl
    | cons e rest ih =>
      obtain ⟨m, b⟩ := e
      rw [List.map_cons, lookup_entry, lookup_entry, ih]
      by_cases hl : l = m
      · rw [if_pos hl, if_pos (by omega)]
        rfl
      · rw [if_neg hl, if_neg (by omega)]

theorem kind?_shifted (k : Int) (g : Graph) (h : Handle) :
    (g.shifted k).kind? (h.shifted k) = g.kind? h := by
  rw [kind?, get?_shifted, Option.map_map]
  rfl

theorem contains_shifted (k : Int) (g : Graph) (l : Int) :
    (g.shifted k).contains (l + k) = g.contains l := by
  have hget := get?_shifted k g (.line l)
  rw [contains, show Handle.line (l + k) = (Handle.line l).shifted k from rfl, hget,
    Option.isSome_map, contains]

theorem successors_shifted (k : Int) (g : Graph) (h : Handle) :
    (g.shifted k).successors (h.shifted k) = (g.successors h).map (Handle.shifted k) := by
  rw [successors, get?_shifted, successors]
  cases g.get? h with
  | none => rfl
  | some b =>
    show (b.edges.map (Edge.shifted k)).map Edge.target = (b.edges.map Edge.target).map _
    rw [List.map_map, List.map_map]
    rfl

theorem hasSuccessorOfKind_shifted (k : Int) (g : Graph) (h : Handle) (kind : BlockKind) :
    (g.shifted k).hasSuccessorOfKind (h.shifted k) kind = g.hasSuccessorOfKind h kind := by
  rw [hasSuccessorOfKind, successors_shifted, List.any_map, hasSuccessorOfKind]
  congr 1
  funext t
  rw [Function.comp_apply, kind?_shifted]

/-- A change to a block that does not depend on where the block is. -/
theorem modify_shifted (k : Int) (g : Graph) (h : Handle) {f f' : Block → Block}
    (hf : ∀ b, f' (b.shifted k) = (f b).shifted k) :
    (g.shifted k).modify (h.shifted k) f' = (g.modify h f).shifted k := by
  cases h with
  | loose n =>
    show ({ g.shifted k with loose := _ } : Graph) = _
    unfold shifted modify
    simp only [Graph.mk.injEq, true_and, and_true]
    refine List.ext_getElem? fun i => ?_
    rw [List.getElem?_modify, List.getElem?_map, List.getElem?_map, List.getElem?_modify]
    cases g.loose[i]? with
    | none => rfl
    | some b =>
      by_cases hi : n = i
      · simp [hi, hf]
      · simp [hi]
  | line l =>
    unfold shifted modify
    simp only [Handle.shifted, Graph.mk.injEq, and_true]
    rw [List.map_map, List.map_map]
    refine List.map_congr_left fun e _ => ?_
    obtain ⟨m, b⟩ := e
    by_cases hm : m = l
    · simp [hm, hf]
    · simp [hm]

/-- **Registering moves with the lines.** -/
theorem register_shifted (k : Int) (g : Graph) (l : Int) (kind : BlockKind) (owner : String) :
    (g.shifted k).register (l + k) kind owner = (g.register l kind owner).shifted k := by
  rw [register, register, contains_shifted]
  by_cases hl : g.contains l
  · rw [if_pos hl, if_pos hl]
    have hmodify : (g.shifted k).modify ((Handle.line l).shifted k) (·.overwrite kind owner)
        = (g.modify (.line l) (·.overwrite kind owner)).shifted k :=
      modify_shifted k g _ fun _ => rfl
    show ({ (g.shifted k).modify ((Handle.line l).shifted k) _ with newest := _ } : Graph) = _
    rw [hmodify]
    rfl
  · rw [if_neg hl, if_neg hl]
    simp [shifted, Block.shifted]

/-- **Linking moves with the lines**, as long as there are no markers, whose keys stay. -/
theorem link_shifted (k : Int) (hg : g.Unmarked) (s : Handle) (t : Int) :
    (g.shifted k).link (s.shifted k) (.line (t + k)) = (g.link s (.line t)).shifted k := by
  have hget := get?_shifted k g (.line t)
  rw [show (Handle.line t).shifted k = .line (t + k) from rfl] at hget
  rw [link, link, hget]
  cases hb : g.get? (.line t) with
  | none => rfl
  | some b =>
    refine modify_shifted k g s fun x => ?_
    rw [Block.key_shifted k (hg.isMarker_eq hb)]
    exact Block.addEdge_shifted k x b.key (.line t)

/-! ## Listing, ranks and default edges -/

theorem insertByKey_shifted {α β : Type} (k : Int) (f : α → β) (x : Int × α)
    (xs : List (Int × α)) :
    insertByKey (x.1 + k, f x.2) (xs.map fun y => (y.1 + k, f y.2))
      = (insertByKey x xs).map fun y => (y.1 + k, f y.2) := by
  induction xs with
  | nil => rfl
  | cons y rest ih =>
    rw [List.map_cons, insertByKey, insertByKey, ih]
    by_cases hle : x.1 ≤ y.1
    · rw [if_pos hle, if_pos (by omega)]
      rfl
    · rw [if_neg hle, if_neg (by omega)]
      rfl

theorem sortByKey_shifted {α β : Type} (k : Int) (f : α → β) (xs : List (Int × α)) :
    sortByKey (xs.map fun y => (y.1 + k, f y.2))
      = (sortByKey xs).map fun y => (y.1 + k, f y.2) := by
  induction xs with
  | nil => rfl
  | cons x rest ih =>
    show insertByKey _ (sortByKey (rest.map _)) = (insertByKey x (sortByKey rest)).map _
    rw [ih, insertByKey_shifted]

/-- The listing of a moved graph is the moved listing. -/
theorem listing_shifted (k : Int) (hg : g.Unmarked) :
    (g.shifted k).listing = g.listing.map (Handle.shifted k) := by
  -- each registered block is sorted in under its key, which moves with it
  have hkeys : (g.shifted k).lines.map (fun e => ((g.shifted k).keyOf (.line e.1), Handle.line e.1))
      = (g.lines.map fun e => (g.keyOf (.line e.1), Handle.line e.1)).map
          fun y => (y.1 + k, y.2.shifted k) := by
    show (g.lines.map _).map _ = _
    rw [List.map_map, List.map_map]
    refine List.map_congr_left fun e he => ?_
    obtain ⟨b, hb⟩ := contains_iff.1 (mem_registered.1 (List.mem_map_of_mem he))
    have hget := get?_shifted k g (.line e.1)
    rw [hb] at hget
    show ((g.shifted k).keyOf ((Handle.line e.1).shifted k), _) = (g.keyOf (.line e.1) + k, _)
    rw [keyOf, hget, keyOf, hb]
    show ((b.shifted k).key, _) = _
    rw [Block.key_shifted k (hg.isMarker_eq hb)]
    rfl
  show (sortByKey (((g.shifted k).lines.map _).map _)).map Prod.snd
    = ((sortByKey ((g.lines.map _).map _)).map Prod.snd).map _
  rw [List.map_map, List.map_map]
  show (sortByKey ((g.shifted k).lines.map fun e => (_, Handle.line e.1))).map Prod.snd = _
  rw [hkeys, sortByKey_shifted, List.map_map, List.map_map]
  rfl

/-- Ranks do not move. -/
theorem numberFrom_shifted (k : Int) (hs : List Handle) :
    ∀ (g : Graph) (i : Nat),
      (g.shifted k).numberFrom i (hs.map (Handle.shifted k)) = (g.numberFrom i hs).shifted k := by
  induction hs with
  | nil => exact fun _ _ => rfl
  | cons h hs ih =>
    intro g i
    rw [List.map_cons, numberFrom, numberFrom, ← ih]
    exact congrArg (numberFrom · (i + 1) _) (modify_shifted k g h fun _ => rfl)

theorem Unmarked.numberFrom (hs : List Handle) :
    ∀ {g : Graph} (i : Nat), g.Unmarked → (g.numberFrom i hs).Unmarked := by
  induction hs with
  | nil => exact fun _ hg => hg
  | cons h hs ih =>
    intro g i hg
    refine ih (i + 1) fun l kind hkind => hg l kind ?_
    rw [← hkind]
    cases h with
    | loose n => rfl
    | line m =>
      rw [kind?, kind?, get?_modify]
      by_cases hl : l = m
      · rw [if_pos hl, Option.map_map]
        rfl
      · rw [if_neg hl]

/-- Neighbours stay neighbours. -/
theorem linkFallthrough_shifted (k : Int) :
    ∀ (hs : List Handle) {g : Graph}, g.Unmarked → (∀ h ∈ hs, ∃ l, h = .line l) →
      (g.shifted k).linkFallthrough (hs.map (Handle.shifted k))
        = (g.linkFallthrough hs).shifted k
  | [], g, _, _ => rfl
  | [_], g, _, _ => rfl
  | a :: b :: rest, g, hg, hlines => by
    obtain ⟨l, rfl⟩ := hlines a List.mem_cons_self
    obtain ⟨m, rfl⟩ := hlines b (by simp)
    have hlines' : ∀ h ∈ Handle.line m :: rest, ∃ l, h = .line l :=
      fun h hh => hlines h (List.mem_cons_of_mem _ hh)
    have hlink : (g.shifted k).link ((Handle.line l).shifted k) ((Handle.line m).shifted k)
        = (g.link (.line l) (.line m)).shifted k := link_shifted k hg (.line l) m
    rw [List.map_cons, List.map_cons, linkFallthrough, linkFallthrough, kind?_shifted, hlink,
      ← List.map_cons]
    split
    · exact linkFallthrough_shifted k _ (hg.link l _) hlines'
    · exact linkFallthrough_shifted k _ hg hlines'

/-- Only lines are listed. -/
theorem eq_line_of_mem_listing {h : Handle} (hh : h ∈ g.listing) : ∃ l, h = .line l := by
  obtain ⟨p, hp, rfl⟩ := List.mem_map.1 hh
  obtain ⟨t, ht, rfl⟩ := List.mem_map.1 ((sortByKey_perm _).mem_iff.1 hp)
  obtain ⟨e, -, rfl⟩ := List.mem_map.1 ht
  exact ⟨e.1, rfl⟩

end Graph

/-! ## Trees -/

/-- The span `k` rows further down. -/
def Span.shifted (k : Nat) (s : Span) : Span :=
  { s with startRow := s.startRow + k, endRow := s.endRow + k }

namespace Node

mutual

/-- The tree with every node `k` rows further down. -/
def shifted (k : Nat) : Node → Node
  | .mk head kids => .mk { head with span := head.span.shifted k } (shiftedIn k kids)

/-- A row of trees `k` rows further down. -/
def shiftedIn (k : Nat) : List Node → List Node
  | [] => []
  | n :: rest => n.shifted k :: shiftedIn k rest

end

variable (k : Nat)

theorem shiftedIn_eq (ns : List Node) : shiftedIn k ns = ns.map (shifted k) := by
  induction ns with
  | nil => rw [shiftedIn]; rfl
  | cons n rest ih => rw [shiftedIn, ih]; rfl

@[simp] theorem head_shifted (n : Node) :
    (n.shifted k).head = { n.head with span := n.head.span.shifted k } := by
  obtain ⟨head, kids⟩ := n
  rw [shifted]
  rfl

@[simp] theorem children_shifted (n : Node) :
    (n.shifted k).children = n.children.map (shifted k) := by
  obtain ⟨head, kids⟩ := n
  rw [shifted]
  exact shiftedIn_eq k kids

@[simp] theorem label_shifted (n : Node) : (n.shifted k).label = n.label := by
  rw [label, head_shifted]
  rfl

/-- The lines of a node move with its rows. -/
theorem startLine_shifted (n : Node) : (n.shifted k).startLine = n.startLine + k := by
  rw [startLine, span, head_shifted]
  show ((n.head.span.startRow + k : Nat) : Int) + 1 = (n.head.span.startRow : Int) + 1 + k
  omega

theorem endLine_shifted (n : Node) : (n.shifted k).endLine = n.endLine + k := by
  rw [endLine, span, head_shifted]
  show ((n.head.span.endRow + k : Nat) : Int) + 1 = (n.head.span.endRow : Int) + 1 + k
  omega

/-! ### The parts that a walk picks -/

/-- What is picked without a look at the span is picked as before. -/
theorem filter_shifted {p : Node → Bool} (hp : ∀ n, p (n.shifted k) = p n) (ns : List Node) :
    (ns.map (shifted k)).filter p = (ns.filter p).map (shifted k) := by
  rw [List.filter_map]
  exact congrArg (List.map (shifted k)) (List.filter_congr fun n _ => hp n)

theorem isStatement_shifted (n : Node) : (n.shifted k).isStatement = n.isStatement := by
  rw [isStatement, head_shifted, label_shifted]
  rfl

theorem named_shifted (n : Node) : (n.shifted k).named = n.named.map (shifted k) := by
  rw [named, children_shifted, filter_shifted k fun n => by rw [head_shifted]]
  rfl

theorem headerParts_shifted (n : Node) :
    (n.shifted k).headerParts = n.headerParts.map (shifted k) := by
  rw [headerParts, children_shifted, filter_shifted k fun n => ?_]
  · rfl
  · rw [Outline.isHeaderPart, isStatement_shifted, label_shifted, Outline.isHeaderPart]

theorem clauses_shifted (n : Node) : (n.shifted k).clauses = n.clauses.map (shifted k) := by
  rw [clauses, children_shifted, filter_shifted k fun n => ?_]
  · rfl
  · rw [isClause, head_shifted, label_shifted]
    rfl

theorem child?_shifted (n : Node) (f : Field) :
    (n.shifted k).child? f = (n.child? f).map (shifted k) := by
  rw [child?, children_shifted, List.find?_map, child?]
  congr 2
  funext c
  rw [Function.comp_apply, head_shifted]

/-- The statements that a row member stands for: those of a list, or itself. -/
theorem unwrap_shifted (c : Node) (isList : Bool) :
    (if isList then (c.shifted k).children.filter isStatement
      else if (c.shifted k).isStatement then [c.shifted k] else [])
    = (if isList then c.children.filter isStatement
        else if c.isStatement then [c] else []).map (shifted k) := by
  rw [isStatement_shifted, children_shifted, filter_shifted k (isStatement_shifted k)]
  cases isList with
  | true => rfl
  | false => cases c.isStatement <;> rfl

theorem statements_shifted (n : Node) :
    (n.shifted k).statements = n.statements.map (shifted k) := by
  rw [statements, statementsIn, children_shifted, List.flatMap_map, statements, statementsIn,
    List.map_flatMap]
  congr 1
  funext c
  rw [head_shifted, label_shifted]
  exact unwrap_shifted k c _

theorem afterColon_shifted (ns : List Node) :
    afterColon (ns.map (shifted k)) = (afterColon ns).map (shifted k) := by
  rw [afterColon, List.dropWhile_map, ← List.map_tail, afterColon]
  congr 3
  funext n
  rw [Function.comp_apply, label_shifted]

theorem clauseBody_shifted (n : Node) :
    (n.shifted k).clauseBody = n.clauseBody.map (shifted k) := by
  rw [clauseBody, children_shifted, afterColon_shifted, List.flatMap_map, clauseBody,
    List.map_flatMap]
  congr 1
  funext c
  rw [label_shifted]
  exact unwrap_shifted k c _

theorem statementsUnder_shifted (n : Node) (f : Field) :
    (n.shifted k).statementsUnder f = (n.statementsUnder f).map (shifted k) := by
  rw [statementsUnder, child?_shifted, statementsUnder]
  cases n.child? f with
  | none => rfl
  | some c => exact statements_shifted k c

theorem namedUnder_shifted (n : Node) (f : Field) :
    (n.shifted k).namedUnder f = (n.namedUnder f).map (shifted k) := by
  rw [namedUnder, child?_shifted, namedUnder]
  cases n.child? f with
  | none => rfl
  | some c => exact named_shifted k c

end Node

namespace Outline

variable (k : Nat)

theorem returnLines_shifted (body : Node) :
    returnLines (body.shifted k) = (returnLines body).map (· + (k : Int)) := by
  rw [returnLines, Node.statements_shifted,
    Node.filter_shifted k fun n => by rw [Node.label_shifted], List.map_map, returnLines,
    List.map_map]
  exact List.map_congr_left fun s _ => Node.startLine_shifted k s

theorem nameText_shifted (n : Node) : nameText (n.shifted k) = nameText n := by
  rw [nameText, Node.child?_shifted, nameText]
  cases n.child? .name with
  | none => rfl
  | some c =>
    show (c.shifted k).head.text = c.head.text
    rw [Node.head_shifted]

/-- A false path moves as a whole. -/
theorem falsePath_shifted (n : Node) :
    falsePath (n.shifted k) = ((falsePath n).1 + k, (falsePath n).2.map (· + (k : Int))) := by
  unfold falsePath
  rw [Node.child?_shifted, Node.child?_shifted]
  cases n.child? .alternative with
  | some a => simp [Node.startLine_shifted, Node.endLine_shifted]
  | none =>
    cases n.child? .consequence with
    | some c => simp [Node.endLine_shifted]
    | none => simp [Node.endLine_shifted]

/-- The block of a clause moves, and keeps its kind. -/
theorem clauseEntry_shifted (form : Choice) (n : Node) :
    clauseEntry form (n.shifted k) = ((clauseEntry form n).1 + k, (clauseEntry form n).2) := by
  have hfind : (n.clauseBody.map (Node.shifted k)).findSome?
        (fun s => (lentKind? s).map (s.startLine, ·))
      = (n.clauseBody.findSome? fun s => (lentKind? s).map (s.startLine, ·)).map
          fun e => (e.1 + (k : Int), e.2) := by
    rw [List.findSome?_map, List.map_findSome?]
    congr 1
    funext s
    rw [Function.comp_apply, lentKind?, Node.label_shifted, Node.startLine_shifted]
    show _ = ((lentKind? s).map _).map _
    rw [Option.map_map]
    rfl
  unfold clauseEntry
  rw [Node.clauseBody_shifted, hfind, List.getLast?_map]
  cases n.clauseBody.findSome? fun s => (lentKind? s).map (s.startLine, ·) with
  | some entry => rfl
  | none =>
    cases n.clauseBody.getLast? with
    | some s => simp [Node.endLine_shifted]
    | none => simp [Node.endLine_shifted]

end Outline

/-! ## Walks -/

def Scope.shifted (k : Int) (s : Scope) : Scope where
  function := s.function
  functionEnd := s.functionEnd.map (· + k)
  returnTarget := s.returnTarget.map (· + k)
  loopHeader := s.loopHeader.map (· + k)
  loopTail := s.loopTail.map (· + k)
  switchHeader := s.switchHeader.map (· + k)

def Progress.shifted (k : Int) (p : Progress) : Progress := { p with line := p.line + k }

def Walk.shifted (k : Int) (w : Walk) : Walk where
  graph := w.graph.shifted k
  scope := w.scope.shifted k
  log := w.log.map (Progress.shifted k)

def Stopped.shifted {ε : Type} (k : Int) (s : Stopped ε) : Stopped ε :=
  { s with log := s.log.map (Progress.shifted k) }

/-- The finished graph with every block `k` lines further down. -/
def Build.shifted (k : Int) (b : Build) : Build where
  graph := b.graph.shifted k
  listing := b.listing.map (Handle.shifted k)
  log := b.log.map (Progress.shifted k)

namespace Walk

/-- The end of a loop behind its body: the block registered last leads back to the header. -/
def turnBack (w : Walk) (first : Int) (outer : Scope) : Walk :=
  let tail := w.graph.newest.getD first
  let w := { w with scope := { w.scope with loopTail := some tail } }
  let w := if w.kindAt tail = some .returnStatement then w else w.link tail first
  { w with scope := { w.scope with loopHeader := outer.loopHeader, loopTail := outer.loopTail } }

/-- The walk `u` is the walk `w`, in whose graph there are no markers, `k` lines further down. -/
structure Shifts (k : Int) (w u : Walk) : Prop where
  eq : u = w.shifted k
  unmarked : w.graph.Unmarked

namespace Shifts

variable {k : Int} {w u : Walk}

/-- A walk that has moved has its scope moved. -/
theorem scope_eq (h : Shifts k w u) : u.scope = w.scope.shifted k := by
  rw [h.eq]
  rfl

/-! ### Registering and linking -/

/-- Each step of the walk moves with the lines it is given. -/
theorem add (h : Shifts k w u) (l : Int) {kind : BlockKind} (hkind : kind.isMarker = false) :
    Shifts k (w.add l kind) (u.add (l + k) kind) := by
  obtain ⟨rfl, hw⟩ := h
  refine ⟨?_, hw.register l hkind _⟩
  show ({ w.shifted k with graph := (w.graph.shifted k).register (l + k) kind _ } : Walk) = _
  rw [Graph.register_shifted]
  rfl

theorem link (h : Shifts k w u) (s t : Int) :
    Shifts k (w.link s t) (u.link (s + k) (t + k)) := by
  obtain ⟨rfl, hw⟩ := h
  have hlink : (w.graph.shifted k).link (.line (s + k)) (.line (t + k))
      = (w.graph.link (.line s) (.line t)).shifted k := Graph.link_shifted k hw (.line s) t
  refine ⟨?_, hw.link s _⟩
  show ({ w.shifted k with graph := (w.graph.shifted k).link _ _ } : Walk) = _
  rw [hlink]
  rfl

theorem linkTo (h : Shifts k w u) (s : Int) (t : Option Int) :
    Shifts k (w.linkTo s t) (u.linkTo (s + k) (t.map (· + k))) := by
  cases t with
  | none => exact h
  | some t => exact h.link s t

theorem linkFrom (h : Shifts k w u) (s : Option Int) (t : Int) :
    Shifts k (w.linkFrom s t) (u.linkFrom (s.map (· + k)) (t + k)) := by
  cases s with
  | none => exact h
  | some s => exact h.link s t

/-- Walks that are alike stay so in scopes that are alike. -/
theorem rescope (h : Shifts k w u) {s t : Scope} (hst : t = s.shifted k) :
    Shifts k { w with scope := s } { u with scope := t } := by
  obtain ⟨rfl, hw⟩ := h
  subst hst
  exact ⟨rfl, hw⟩

theorem aimAt (h : Shifts k w u) (t : Option Int) :
    Shifts k (w.aimAt t) (u.aimAt (t.map (· + k))) := by
  obtain ⟨rfl, hw⟩ := h
  exact ⟨rfl, hw⟩

theorem switchAt (h : Shifts k w u) (t : Option Int) :
    Shifts k { w with scope := { w.scope with switchHeader := t } }
      { u with scope := { u.scope with switchHeader := t.map (· + k) } } := by
  obtain ⟨rfl, hw⟩ := h
  exact ⟨rfl, hw⟩

/-- What a walk finds on a line does not depend on where the line is. -/
theorem kindAt (h : Shifts k w u) (l : Int) : u.kindAt (l + k) = w.kindAt l := by
  rw [h.eq]
  exact Graph.kind?_shifted k w.graph (.line l)

theorem newest (h : Shifts k w u) : u.graph.newest = w.graph.newest.map (· + k) := by
  rw [h.eq]
  rfl

theorem newest_eq_some_iff (h : Shifts k w u) (l : Int) :
    u.graph.newest = some (l + k) ↔ w.graph.newest = some l := by
  rw [h.newest]
  cases w.graph.newest with
  | none => simp
  | some m =>
    rw [Option.map_some, Option.some.injEq, Option.some.injEq]
    omega

/-- Walks that are alike on both sides of a decision are alike behind it. -/
theorem ite (p : Prop) [Decidable p] {w₁ u₁ : Walk} (h₁ : Shifts k w₁ u₁) (h : Shifts k w u) :
    Shifts k (if p then w₁ else w) (if p then u₁ else u) := by
  split
  · exact h₁
  · exact h

/-! ### The parts of the constructs -/

theorem enterFunction (h : Shifts k w u) (name : String) (first : Int) (last : Option Int) :
    Shifts k (w.enterFunction name first last)
      (u.enterFunction name (first + k) (last.map (· + k))) :=
  (h.rescope (s := { function := name, functionEnd := last }) rfl).add first rfl

theorem expect (h : Shifts k w u) (l : Int) : Shifts k (w.expect l) (u.expect (l + k)) :=
  (h.add l rfl).aimAt (some l)

theorem foldl_expect (ls : List Int) :
    ∀ {w u : Walk}, Shifts k w u →
      Shifts k (ls.foldl Walk.expect w) ((ls.map (· + k)).foldl Walk.expect u) := by
  induction ls with
  | nil => exact fun h => h
  | cons l ls ih => exact fun h => ih (h.expect l)

/-- The returns of a function move with it. -/
theorem foresee (h : Shifts k w u) (returns : List Int) (last : Int) :
    Shifts k (w.foresee returns last) (u.foresee (returns.map (· + k)) (last + k)) := by
  unfold Walk.foresee
  rw [List.isEmpty_map]
  exact (h.expect last).ite _ (foldl_expect returns h)

theorem closeOn (h : Shifts k w u) (returns : List Int) (last : Int) :
    Shifts k (w.closeOn returns last) (u.closeOn (returns.map (· + k)) (last + k)) := by
  unfold Walk.closeOn
  rw [List.isEmpty_map]
  exact (h.add last rfl).ite _ h

theorem leaveFunction (h : Shifts k w u) (name : String) (first : Int) (outer : Scope) :
    Shifts k (w.leaveFunction name first outer)
      (u.leaveFunction name (first + k) (outer.shifted k)) := by
  obtain ⟨rfl, hw⟩ := h
  refine ⟨?_, hw⟩
  simp [Walk.leaveFunction, Walk.shifted, Progress.shifted, Graph.size, Graph.shifted]

theorem enterReturn (h : Shifts k w u) (l : Int) :
    Shifts k (w.enterReturn l) (u.enterReturn (l + k)) := by
  unfold Walk.enterReturn
  rw [h.scope_eq]
  exact ((h.add l rfl).aimAt (some l)).linkFrom w.scope.switchHeader l

theorem enterCond (h : Shifts k w u) (l elseLine elseEnd : Int) :
    Shifts k (w.enterCond l elseLine elseEnd)
      (u.enterCond (l + k) (elseLine + k) (elseEnd + k)) :=
  (((h.add l rfl).add elseLine rfl).add elseEnd rfl).link l elseEnd

theorem leaveCond (h : Shifts k w u) (elseLine elseEnd : Int) :
    Shifts k (w.leaveCond elseLine elseEnd) (u.leaveCond (elseLine + k) (elseEnd + k)) := by
  have hlinks := (h.linkTo elseLine w.scope.returnTarget).linkTo elseEnd w.scope.returnTarget
  unfold Walk.leaveCond
  rw [h.scope_eq]
  exact hlinks

theorem enterLoop (h : Shifts k w u) (l : Int) :
    Shifts k (w.enterLoop l) (u.enterLoop (l + k)) := by
  have hheader : Shifts k ((w.add l .forStatement).linkTo l w.scope.returnTarget)
      ((u.add (l + k) .forStatement).linkTo (l + k) u.scope.returnTarget) := by
    rw [h.scope_eq]
    exact (h.add l rfl).linkTo l w.scope.returnTarget
  exact hheader.rescope (by rw [hheader.scope_eq]; rfl)

/-- A body that registered nothing gets its block `k` lines further down. -/
theorem loopBody (h : Shifts k w u) (first last : Int) :
    Shifts k
      (if w.graph.newest = some first ∧ w.kindAt first = some .forStatement then
        w.add last .forBody else w)
      (if u.graph.newest = some (first + k) ∧ u.kindAt (first + k) = some .forStatement then
        u.add (last + k) .forBody else u) := by
  simp only [h.newest_eq_some_iff, h.kindAt]
  exact (h.add last rfl).ite _ h

/-- A loop is turned back at the same block, wherever that is now. -/
theorem turnBack (h : Shifts k w u) (first : Int) (outer : Scope) :
    Shifts k (w.turnBack first outer) (u.turnBack (first + k) (outer.shifted k)) := by
  have htail : u.graph.newest.getD (first + k) = w.graph.newest.getD first + k := by
    rw [h.newest]
    cases w.graph.newest <;> rfl
  unfold Walk.turnBack
  rw [htail]
  generalize w.graph.newest.getD first = tail
  have hscope : Shifts k { w with scope := { w.scope with loopTail := some tail } }
      { u with scope := { u.scope with loopTail := some (tail + k) } } :=
    h.rescope (by rw [h.scope_eq]; rfl)
  simp only [hscope.kindAt]
  have hlink := hscope.link tail first
  split
  · exact hscope.rescope (by rw [h.scope_eq]; rfl)
  · exact hlink.rescope (by rw [hlink.scope_eq]; rfl)

theorem leaveLoop (h : Shifts k w u) (first last : Int) (outer : Scope) :
    Shifts k (w.leaveLoop first last outer)
      (u.leaveLoop (first + k) (last + k) (outer.shifted k)) :=
  ((h.aimAt outer.returnTarget).loopBody first last).turnBack first outer

theorem enterChoice (h : Shifts k w u) (form : Choice) (l : Int) :
    Shifts k (w.enterChoice form l) (u.enterChoice form (l + k)) := by
  have hkind : form.kind.isMarker = false := by cases form <;> rfl
  have hlinks := ((h.add l hkind).linkFrom w.scope.loopHeader l).linkTo l w.scope.loopHeader
  have hreturn := (hlinks.linkTo l w.scope.returnTarget).ite (form.linksReturn = true) hlinks
  unfold Walk.enterChoice
  simp only [scope_linkTo, scope_linkFrom, scope_add, h.scope_eq]
  exact hreturn.switchAt (some l)

theorem enterClause (h : Shifts k w u) (l : Int) {kind : BlockKind}
    (hkind : kind.isMarker = false) :
    Shifts k (w.enterClause l kind) (u.enterClause (l + k) kind) := by
  unfold Walk.enterClause
  simp only [scope_linkTo, scope_add, h.scope_eq]
  exact (((h.add l hkind).linkTo l w.scope.loopHeader).linkFrom w.scope.switchHeader l).linkTo l
    w.scope.returnTarget

/-- A clause is left the same way. -/
theorem leaveClause (h : Shifts k w u) (l : Int) (outer : Scope) :
    Shifts k (w.leaveClause l outer) (u.leaveClause (l + k) (outer.shifted k)) := by
  have hscope : Shifts k
      { w with scope := { w.scope with
        switchHeader := outer.switchHeader, returnTarget := outer.returnTarget } }
      { u with scope := { u.scope with
        switchHeader := (outer.shifted k).switchHeader,
        returnTarget := (outer.shifted k).returnTarget } } :=
    h.rescope (by rw [h.scope_eq]; rfl)
  have hfor : u.graph.hasSuccessorOfKind (.line (l + k)) .forStatement
      = w.graph.hasSuccessorOfKind (.line l) .forStatement := by
    rw [h.eq]
    exact Graph.hasSuccessorOfKind_shifted k w.graph (.line l) _
  unfold Walk.leaveClause
  simp only [hscope.kindAt, hfor]
  exact hscope.ite _ (hscope.ite _ (hscope.linkTo l outer.returnTarget))

end Shifts

/-- The line on which the false path of an if ends moves with the if. -/
theorem falseEnd_shifted (k : Int) (s : Scope) (elseLine : Int) (elseEnd : Option Int) :
    falseEnd (s.shifted k) (elseLine + k) (elseEnd.map (· + k))
      = falseEnd s elseLine elseEnd + k := by
  cases elseEnd with
  | some l => rfl
  | none =>
    obtain ⟨function, functionEnd, _, _, _, _⟩ := s
    cases functionEnd with
    | none =>
      show elseLine + k + 1 = elseLine + 1 + k
      omega
    | some last =>
      show (if elseLine + k + 1 > last + k then last + k else elseLine + k + 1)
        = (if elseLine + 1 > last then last else elseLine + 1) + k
      by_cases hlast : elseLine + 1 > last
      · rw [if_pos hlast, if_pos (by omega)]
      · rw [if_neg hlast, if_neg (by omega)]
        omega

end Walk

/-! ## Builds -/

section

variable {ε : Type} {decode : List UInt8 → Except ε String}

/-- Two results of a walk of which one is the other `k` lines further down. -/
inductive Alike (k : Int) : Except (Stopped ε) Walk → Except (Stopped ε) Walk → Prop where
  | ok {w u} (h : w.Shifts k u) : Alike k (.ok w) (.ok u)
  | error (s) : Alike k (.error s) (.error (s.shifted k))

namespace Alike

variable {w u : Walk}

/-- Steps that go alike go alike one after the other. -/
theorem bind {k : Int} {x y : Except (Stopped ε) Walk} {f g : Walk → Except (Stopped ε) Walk}
    (h : Alike k x y) (hf : ∀ {w u : Walk}, w.Shifts k u → Alike k (f w) (g u)) :
    Alike k (x >>= f) (y >>= g) := by
  cases h with
  | ok h => exact hf h
  | error s => exact .error s

/-- Names are decoded alike, so that both walks stop or both go on. -/
theorem decodeName {k : Int} (h : w.Shifts k u) (text : Option (List UInt8))
    {f g : String → Except (Stopped ε) Walk} (hf : ∀ name, Alike k (f name) (g name)) :
    Alike k (Walk.decodeName decode w text >>= f) (Walk.decodeName decode u text >>= g) := by
  obtain ⟨rfl, hw⟩ := h
  cases text with
  | none => exact hf ""
  | some text =>
    rw [Walk.decodeName, Walk.decodeName]
    cases decode text with
    | ok name => exact hf name
    | error cause => exact .error ⟨cause, w.log⟩

variable {k : Nat}

/-- A row of nodes each of which keeps walks alike keeps them alike. -/
theorem nodes {ns : List Node}
    (hns : ∀ n ∈ ns, ∀ {w u : Walk}, w.Shifts k u →
      Alike k (Walk.items decode (Outline.ofNode n) w)
        (Walk.items decode (Outline.ofNode (n.shifted k)) u)) :
    ∀ {w u : Walk}, w.Shifts k u →
      Alike k (Walk.items decode (Outline.ofNodes ns) w)
        (Walk.items decode (Outline.ofNodes (ns.map (Node.shifted k))) u) := by
  induction ns with
  | nil =>
    intro w u h
    rw [List.map_nil, Outline.ofNodes_nil, Walk.items, Walk.items]
    exact .ok h
  | cons n ns ih =>
    intro w u h
    rw [List.map_cons, Outline.ofNodes_cons, Outline.ofNodes_cons, items_append, items_append]
    exact (hns n List.mem_cons_self h).bind
      (ih fun m hm => hns m (List.mem_cons_of_mem n hm))

theorem clauses {form : Choice} {ks : List Node}
    (hks : ∀ c ∈ ks, ∀ {w u : Walk}, w.Shifts k u →
      Alike k (Walk.items decode (Outline.ofNodes c.clauseBody) w)
        (Walk.items decode (Outline.ofNodes (c.clauseBody.map (Node.shifted k))) u)) :
    ∀ {w u : Walk}, w.Shifts k u →
      Alike k (Walk.clauses decode (ks.map (Outline.ofClause form)) w)
        (Walk.clauses decode ((ks.map (Node.shifted k)).map (Outline.ofClause form)) u) := by
  induction ks with
  | nil =>
    intro w u h
    rw [List.map_nil, List.map_nil, List.map_nil, Walk.clauses, Walk.clauses]
    exact .ok h
  | cons c ks ih =>
    intro w u h
    have hkind := BlockKind.isMarker_of_isPlain (clauseEntry_isPlain form c)
    simp only [List.map_cons, Outline.ofClause, Walk.clauses, Outline.clauseEntry_shifted,
      Node.clauseBody_shifted]
    refine (hks c List.mem_cons_self (h.enterClause _ hkind)).bind fun h₁ => ?_
    rw [h.scope_eq]
    exact ih (fun m hm => hks m (List.mem_cons_of_mem c hm)) (h₁.leaveClause _ w.scope)

section

-- what is said of a node holds of all that the walk goes on to from it
variable {n : Node} (hn : ∀ c ∈ n.onward, ∀ {w u : Walk}, w.Shifts k u →
  Alike k (Walk.items decode (Outline.ofNode c) w)
    (Walk.items decode (Outline.ofNode (c.shifted k)) u))

include hn

/-- By induction, what the walk goes on to takes walks that are alike to walks that are alike. -/
theorem row {ns : List Node} (hns : ns ⊆ n.onward) (h : w.Shifts k u) :
    Alike k (Walk.items decode (Outline.ofNodes ns) w)
      (Walk.items decode (Outline.ofNodes (ns.map (Node.shifted k))) u) :=
  nodes (fun c hc => hn c (hns hc)) h

/-- **A declaration** moves with its name, its returns and its statements. -/
theorem function (label : n.label.isFunction) (h : w.Shifts k u) :
    Alike k (Walk.items decode (Outline.ofNode n) w)
      (Walk.items decode (Outline.ofNode (n.shifted k)) u) := by
  have label' : (n.shifted k).label.isFunction := by rwa [Node.label_shifted]
  have hbody' := Node.child?_shifted k n .body
  cases hbody : n.child? .body with
  | none =>
    rw [hbody] at hbody'
    rw [Outline.ofNode_prototype label hbody, Outline.ofNode_prototype label' hbody',
      items_singleton, items_singleton, Walk.item, Walk.item, Outline.nameText_shifted,
      Node.startLine_shifted]
    exact decodeName h _ fun name =>
      .ok ((h.enterFunction name n.startLine none).rescope h.scope_eq)
  | some body =>
    have hstatements : body.statements ⊆ n.onward := by
      rw [Node.onward_function label, Node.statementsUnder, hbody, Node.statementsOf_some]
      exact List.Subset.refl _
    rw [hbody] at hbody'
    rw [Outline.ofNode_function label hbody, Outline.ofNode_function label' hbody',
      items_singleton, items_singleton, Walk.item, Walk.item, Outline.nameText_shifted,
      Node.startLine_shifted, Node.endLine_shifted, Outline.returnLines_shifted,
      Node.statements_shifted]
    refine decodeName h _ fun name => ?_
    refine (row hn hstatements ((h.enterFunction name n.startLine
      (some n.endLine)).foresee (Outline.returnLines body) n.endLine)).bind fun h₁ => ?_
    rw [h.scope_eq]
    exact .ok ((h₁.closeOn _ _).leaveFunction name _ w.scope)

/-- **An if** moves with its false path, which ends no later than the function, which moves, too. -/
theorem cond (label : n.label = .ifStatement) (h : w.Shifts k u) :
    Alike k (Walk.items decode (Outline.ofNode n) w)
      (Walk.items decode (Outline.ofNode (n.shifted k)) u) := by
  obtain ⟨hconsequence, hheader, halternative⟩ := Node.cond_subset_onward label
  rw [Outline.ofNode_cond label, Outline.ofNode_cond ((Node.label_shifted k n).trans label),
    items_singleton, items_singleton, Walk.item, Walk.item, Node.startLine_shifted,
    Outline.falsePath_shifted, Node.statementsUnder_shifted, Node.namedUnder_shifted,
    Node.namedUnder_shifted, ← List.map_append, Node.child?_shifted, Option.toList_map]
  simp only [h.scope_eq, Walk.falseEnd_shifted]
  refine (row hn hconsequence (h.enterCond _ _ _)).bind fun h₁ => ?_
  refine (row hn hheader (h₁.leaveCond _ _)).bind fun h₂ => ?_
  exact row hn halternative h₂

/-- **A loop** moves with its first and its last line. -/
theorem loop (label : n.label = .forStatement) (h : w.Shifts k u) :
    Alike k (Walk.items decode (Outline.ofNode n) w)
      (Walk.items decode (Outline.ofNode (n.shifted k)) u) := by
  obtain ⟨hheader, hbody⟩ := Node.loop_subset_onward label
  rw [Outline.ofNode_loop label, Outline.ofNode_loop ((Node.label_shifted k n).trans label),
    items_singleton, items_singleton, Walk.item, Walk.item, Node.startLine_shifted,
    Node.endLine_shifted, Node.headerParts_shifted, Node.statementsUnder_shifted]
  refine (row hn hheader h).bind fun h₁ => ?_
  rw [h.scope_eq]
  refine (row hn hbody ((h₁.aimAt w.scope.returnTarget).enterLoop _)).bind fun h₂ => ?_
  exact .ok (h₂.leaveLoop _ _ w.scope)

/-- **A switch or select** moves with the blocks of its clauses. -/
theorem choice {form : Choice} (label : n.label.choice? = some form) (h : w.Shifts k u) :
    Alike k (Walk.items decode (Outline.ofNode n) w)
      (Walk.items decode (Outline.ofNode (n.shifted k)) u) := by
  obtain ⟨hheader, hclauses⟩ := Node.choice_subset_onward label
  have label' : (n.shifted k).label.choice? = some form := by rwa [Node.label_shifted]
  rw [Outline.ofNode_choice label, Outline.ofNode_choice label', items_singleton,
    items_singleton, Walk.item, Walk.item, Node.startLine_shifted, Node.headerParts_shifted,
    Node.clauses_shifted]
  refine (row hn hheader h).bind fun h₁ => ?_
  rw [h.scope_eq]
  refine (clauses (fun c hc {w u} => row hn (hclauses c hc))
    ((h₁.aimAt w.scope.returnTarget).enterChoice form _)).bind fun h₂ => ?_
  exact .ok (h₂.switchAt w.scope.switchHeader)

end

/-- **A node and the node `k` rows further down** take walks that are alike to walks that are
alike. By induction on the size of the node: what the walk goes on to is smaller. -/
theorem node (n : Node) :
    ∀ {w u : Walk}, w.Shifts k u →
      Alike k (Walk.items decode (Outline.ofNode n) w)
        (Walk.items decode (Outline.ofNode (n.shifted k)) u) := by
  induction hsize : sizeOf n using Nat.strongRecOn generalizing n with
  | ind _ ih =>
    subst hsize
    intro w u h
    have hn : ∀ c ∈ n.onward, ∀ {w u : Walk}, w.Shifts k u →
        Alike k (Walk.items decode (Outline.ofNode c) w)
          (Walk.items decode (Outline.ofNode (c.shifted k)) u) :=
      fun c hc => ih _ (Node.sizeOf_lt_of_mem_onward hc) c rfl
    have hlabel := Node.label_shifted k n
    rcases n.label.construct_cases with
      label | label | label | label | label | label | ⟨form, label⟩
    · rw [Outline.ofNode_other label, Outline.ofNode_other (hlabel ▸ label), Node.named_shifted]
      exact row hn (Node.onward_other (.inl label) ▸ List.Subset.refl _) h
    · exact function hn label h
    · rw [Outline.ofNode_ret label, Outline.ofNode_ret (hlabel.trans label), items_singleton,
        items_singleton, Walk.item, Walk.item, Node.startLine_shifted, Node.named_shifted]
      exact row hn (Node.onward_other (.inr (.inl label)) ▸ List.Subset.refl _) (h.enterReturn _)
    · rw [Outline.ofNode_spawn label, Outline.ofNode_spawn (hlabel.trans label), items_singleton,
        items_singleton, Walk.item, Walk.item, Node.startLine_shifted, Node.named_shifted]
      exact row hn (Node.onward_other (.inr (.inr label)) ▸ List.Subset.refl _) (h.add _ rfl)
    · exact cond hn label h
    · exact loop hn label h
    · exact choice hn label h

end Alike

/-- The passes behind a walk, `k` lines further down. -/
theorem Walk.Shifts.finish {k : Int} {w u : Walk} (h : w.Shifts k u) :
    u.finish = w.finish.shifted k := by
  obtain ⟨rfl, hw⟩ := h
  have hlisting : (w.shifted k).graph.listing = w.graph.listing.map (Handle.shifted k) :=
    Graph.listing_shifted k hw
  have hnumbered : (w.shifted k).graph.numbered = w.graph.numbered.shifted k := by
    rw [Graph.numbered, hlisting]
    exact Graph.numberFrom_shifted k _ _ _
  have hlinks := Graph.linkFallthrough_shifted k w.graph.listing
    (Graph.Unmarked.numberFrom w.graph.listing 0 hw) fun _ => Graph.eq_line_of_mem_listing
  unfold Walk.finish
  rw [hnumbered, hlisting]
  exact congrArg (Build.mk · _ _) hlinks

/-- What is listed of a graph that is shifted. -/
theorem Build.blocks_shifted (k : Int) (b : Build) :
    (b.shifted k).blocks = b.blocks.map (Block.shifted k) := by
  show (b.listing.map _).filterMap _ = (b.listing.filterMap _).map _
  rw [List.filterMap_map, List.map_filterMap]
  exact List.filterMap_congr fun h _ => Graph.get?_shifted k b.graph h

/-- **Shifting a tree shifts its graph**: if every node is `k` rows further down, the build lists
the same blocks in the same order, with the same numbers, kinds and owners, each `k` lines further
down, and with it the lines that its edges lead to. A build that stops does so for the same
reason. -/
theorem build_shifted (decode : List UInt8 → Except ε String) (root : Node) (k : Nat) :
    build decode (root.shifted k) {}
        = ((build decode root {}).map (Build.shifted k)).mapError (Stopped.shifted k) ∧
      ∀ b : Build, (b.shifted k).blocks = b.blocks.map (Block.shifted k) := by
  have hstart : ({ graph := {} } : Walk).Shifts k { graph := {} } := ⟨rfl, Graph.unmarked_empty⟩
  have hwalk : Alike k (Walk.items decode (Outline.ofNodes root.named) { graph := {} })
      (Walk.items decode (Outline.ofNodes (root.named.map (Node.shifted k))) { graph := {} }) :=
    Alike.nodes (fun n _ => Alike.node n) hstart
  refine ⟨?_, Build.blocks_shifted k⟩
  rw [build, build, Outline.inside_eq, Outline.inside_eq]
  show (Walk.items decode (Outline.ofNodes (root.shifted k).named) _ >>= _)
    = ((Walk.items decode (Outline.ofNodes root.named) _ >>= _).map _).mapError _
  rw [Node.named_shifted]
  generalize Walk.items decode (Outline.ofNodes root.named) _ = x at hwalk
  generalize Walk.items decode (Outline.ofNodes (root.named.map _)) _ = y at hwalk
  cases hwalk with
  | error s => rfl
  | ok h => exact congrArg Except.ok h.finish

end

end GoFlow
