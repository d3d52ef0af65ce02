import GoFlow.Analysis
import GoFlow.Proofs.Traversal

/-!
# Syntax faults

A source is refused if the front end could not follow it somewhere. The places that are reported are
those of all faults in the tree, however deep they lie and one inside the other, in the order in
which the nodes come.

- `Node.paths`: the paths to all nodes of a tree, each node before its children, and these from left
  to right. That is the lexicographic order of paths.
- `Node.FaultsAt`: the paths to all faults of a tree, in that order.
- `Node.faultScan`: the search for faults, run with a stack.
- `Source.analyseBy`: an analysis, whatever would make a graph of the tree.
-/

namespace GoFlow

namespace Node

/-! ## Paths -/

mutual

/-- The paths to the nodes of a tree. -/
def paths : Node → List (List Nat)
  | .mk _ kids => [] :: pathsIn 0 kids

/-- The paths to the nodes of a row of children, of which the first has the position `i`. -/
def pathsIn (i : Nat) : List Node → List (List Nat)
  | [] => []
  | n :: rest => n.paths.map (i :: ·) ++ pathsIn (i + 1) rest

end

/-- A path into a row starts with a position in the row. -/
theorem exists_of_mem_pathsIn {ns : List Node} {p : List Nat} :
    ∀ {i : Nat}, p ∈ pathsIn i ns → ∃ j q, i ≤ j ∧ p = j :: q := by
  induction ns with
  | nil =>
    intro i h
    simp [pathsIn] at h
  | cons n rest ih =>
    intro i h
    rw [pathsIn, List.mem_append] at h
    rcases h with h | h
    · obtain ⟨q, -, rfl⟩ := List.mem_map.1 h
      exact ⟨i, q, Nat.le_refl i, rfl⟩
    · obtain ⟨j, q, hj, rfl⟩ := ih h
      exact ⟨j, q, by omega, rfl⟩

mutual

/-- **Paths are listed in lexicographic order.** -/
theorem pairwise_paths : ∀ n : Node, n.paths.Pairwise (· < ·)
  | .mk head kids => by
    rw [paths]
    refine List.pairwise_cons.2 ⟨fun p hp => ?_, pairwise_pathsIn 0 kids⟩
    obtain ⟨j, q, -, rfl⟩ := exists_of_mem_pathsIn hp
    exact List.nil_lt_cons j q

/-- The paths into a row come in lexicographic order. -/
theorem pairwise_pathsIn (i : Nat) : ∀ ns : List Node, (pathsIn i ns).Pairwise (· < ·)
  | [] => by rw [pathsIn]; exact List.Pairwise.nil
  | n :: rest => by
    rw [pathsIn, List.pairwise_append]
    refine ⟨?_, pairwise_pathsIn (i + 1) rest, fun p hp q hq => ?_⟩
    · rw [List.pairwise_map]
      exact (pairwise_paths n).imp fun h => List.cons_lt_cons_iff.2 (.inr ⟨rfl, h⟩)
    · -- the one path goes through this child, the other through one further right
      obtain ⟨p, -, rfl⟩ := List.mem_map.1 hp
      obtain ⟨j, q, hj, rfl⟩ := exists_of_mem_pathsIn hq
      exact List.cons_lt_cons_iff.2 (.inl (by omega))

end

/-- A path is followed one child at a time. -/
theorem descend?_cons (head : Head) (kids : List Node) (i : Nat) (p : List Nat) :
    (Node.mk head kids).descend? (i :: p) = kids[i]?.bind (·.descend? p) := by
  rw [descend?]
  rfl

mutual

/-- The paths lead to the nodes of the tree, in the order in which these come. -/
theorem map_descend?_paths : ∀ n : Node, n.paths.map n.descend? = n.nodes.map some
  | .mk head kids => by
    rw [paths, nodes, List.map_cons, List.map_cons, map_descend?_pathsIn head kids kids 0 rfl,
      descend?]

/-- The paths into a row lead to its nodes, in the order of the nodes. -/
theorem map_descend?_pathsIn (head : Head) (kids : List Node) :
    ∀ (ns : List Node) (i : Nat), kids.drop i = ns →
      (pathsIn i ns).map (Node.mk head kids).descend? = (nodesIn ns).map some
  | [], i, _ => by rw [pathsIn, nodesIn]; rfl
  | n :: rest, i, hdrop => by
    have hchild : kids[i]? = some n := by rw [← List.head?_drop, hdrop]; rfl
    have hrest : kids.drop (i + 1) = rest := by rw [← List.tail_drop, hdrop]; rfl
    have hfirst : (Node.mk head kids).descend? ∘ (i :: ·) = n.descend? := funext fun p => by
      rw [Function.comp_apply, descend?_cons, hchild, Option.bind_some]
    rw [pathsIn, nodesIn, List.map_append, List.map_append, List.map_map, hfirst,
      map_descend?_paths n, map_descend?_pathsIn head kids rest (i + 1) hrest]

end

/-- A path into a child of a row, behind its position, is a path into the row. -/
theorem mem_pathsIn {ns : List Node} {c : Node} {p : List Nat} (hp : p ∈ c.paths) :
    ∀ {i j : Nat}, ns[j]? = some c → (i + j) :: p ∈ pathsIn i ns := by
  induction ns with
  | nil =>
    intro i j h
    cases h
  | cons n rest ih =>
    intro i j h
    rw [pathsIn, List.mem_append]
    cases j with
    | zero =>
      obtain rfl : n = c := Option.some.inj h
      exact .inl (List.mem_map.2 ⟨p, hp, rfl⟩)
    | succ j =>
      have := @ih (i + 1) j h
      rw [Nat.add_right_comm] at this
      exact .inr this

/-- Every path that leads somewhere is listed. -/
theorem mem_paths {n m : Node} {p : List Nat} (h : n.descend? p = some m) : p ∈ n.paths := by
  induction p generalizing n with
  | nil =>
    obtain ⟨head, kids⟩ := n
    rw [paths]
    exact List.mem_cons_self
  | cons i p ih =>
    obtain ⟨head, kids⟩ := n
    rw [descend?_cons] at h
    obtain ⟨c, hc, hm⟩ := Option.bind_eq_some_iff.1 h
    rw [paths]
    have := @mem_pathsIn kids c p (ih hm) 0 i hc
    rw [Nat.zero_add] at this
    exact List.mem_cons_of_mem _ this

/-! ## The faults of a tree -/

mutual

/-- The search keeps the order of the nodes. -/
theorem faults_eq : ∀ n : Node, n.faults = n.nodes.filter isFault
  | .mk head kids => by
    rw [faults, nodes, List.filter_cons, faultsIn_eq kids]

theorem faultsIn_eq : ∀ ns : List Node, faultsIn ns = (nodesIn ns).filter isFault
  | [] => by rw [faultsIn, nodesIn]; rfl
  | n :: rest => by rw [faultsIn, nodesIn, List.filter_append, faults_eq n, faultsIn_eq rest]

end

/-- The paths are those to the nodes at which the front end gave up or which it made up, in
lexicographic order: a node comes before the nodes below it, and these from left to right. -/
structure FaultsAt (root : Node) (ps : List (List Nat)) : Prop where
  ascending : ps.Pairwise (· < ·)
  mem_iff : ∀ p, p ∈ ps ↔ ∃ m, root.descend? p = some m ∧ (m.label = .error ∨ m.head.missing)

theorem isFault_iff {n : Node} : n.isFault ↔ n.label = .error ∨ n.head.missing := by
  rw [isFault, Bool.or_eq_true, beq_iff_eq]

/-- **All faults are found**, each once and in order. -/
theorem exists_faultsAt (root : Node) :
    ∃ ps, root.FaultsAt ps ∧ ps.map root.descend? = root.faults.map some := by
  refine ⟨root.paths.filter (Option.any isFault ∘ root.descend?),
    ⟨root.pairwise_paths.filter _, fun p => ?_⟩, ?_⟩
  · rw [List.mem_filter, Function.comp_apply, Option.any_eq_true]
    constructor
    · rintro ⟨-, m, hm, hfault⟩
      exact ⟨m, hm, isFault_iff.1 hfault⟩
    · rintro ⟨m, hm, hfault⟩
      exact ⟨mem_paths hm, m, hm, isFault_iff.2 hfault⟩
  · rw [← List.filter_map, map_descend?_paths, List.filter_map, faults_eq]
    rfl

/-! ## The search with a stack -/

/-- The search looks at every node and keeps the faults. -/
def faultScan : Traversal (List Node) Empty where
  visit n found := .ok (if n.isFault then found ++ [n] else found)
  below _ _ := true

theorem next_faultScan (n : Node) : faultScan.next n = n.children :=
  List.filter_eq_self.2 fun _ _ => rfl

mutual

/-- Visiting with a stack finds the faults of a node behind those found already. -/
theorem walk_faultScan : ∀ (n : Node) (found : List Node),
    faultScan.walk n found = .ok (found ++ n.faults)
  | .mk head kids, found => by
    rw [Traversal.walk_eq, next_faultScan, faults]
    show faultScan.row kids _ = _
    rw [row_faultScan kids]
    split <;> simp

theorem row_faultScan : ∀ (ns : List Node) (found : List Node),
    faultScan.row ns found = .ok (found ++ faultsIn ns)
  | [], found => by rw [faultsIn, List.append_nil]; rfl
  | n :: rest, found => by
    rw [Traversal.row_cons, walk_faultScan n, faultsIn, ← List.append_assoc]
    exact row_faultScan rest _

end

/-- The search comes to its end with the faults of the tree. -/
theorem loop_faultScan (root : Node) {turns : Nat} (hturns : root.nodes.length ≤ turns) :
    faultScan.loop turns [root] [] = .ok ([], root.faults) := by
  have hstack : (nodesIn [root]).length ≤ turns := by
    rw [nodesIn, nodesIn, List.append_nil]
    exact hturns
  rw [faultScan.loop_eq hstack, List.reverse_singleton, row_faultScan, faultsIn, faultsIn,
    List.append_nil]
  rfl

/-- The place of a node in reports: its line, counted from one, and its column. -/
def place (n : Node) : Int × Int := (n.span.startRow + 1, n.span.startCol)

theorem faultPlaces_eq (root : Node) : root.faultPlaces = root.faults.map place := rfl

/-- A tree is faulty if the front end says so of the root, or some path leads to a fault. -/
theorem hasFault_iff {root : Node} :
    root.hasFault ↔ root.head.flagged ∨
      ∃ p m, root.descend? p = some m ∧ (m.label = .error ∨ m.head.missing) := by
  obtain ⟨ps, hps, hmap⟩ := root.exists_faultsAt
  have hempty : root.faults.isEmpty = ps.isEmpty := by
    rw [← List.isEmpty_map (f := some), ← hmap, List.isEmpty_map]
  rw [hasFault, Bool.or_eq_true, hempty]
  refine or_congr_right ?_
  rw [Bool.not_eq_true', List.isEmpty_eq_false_iff_exists_mem]
  exact exists_congr fun p => hps.mem_iff p

end Node

/-! ## Refused sources -/

namespace Source

/-- An analysis with another way to make a graph of the tree. -/
def analyseBy (builder : Source → Node → Outcome Build) (frontEnd : FrontEnd)
    (languages : Languages) (s : Source) : Outcome Build :=
  let parsed := s.parse frontEnd languages
  match parsed.result with
  | .error failure => ⟨parsed.events, .error failure⟩
  | .ok root =>
    let built := builder s root
    ⟨parsed.events ++ built.events, built.result⟩

theorem analyse_eq (frontEnd : FrontEnd) (languages : Languages) (s : Source) :
    s.analyse frontEnd languages = s.analyseBy buildGraph frontEnd languages := rfl

variable {frontEnd : FrontEnd} {languages : Languages} {s : Source} {bytes : List UInt8}

/-- What comes of a source in a known language whose content can be written down. -/
theorem parse_eq (hlanguage : languages.supports s.language) (hbytes : s.bytes = .ok bytes) :
    s.parse frontEnd languages =
      if (frontEnd bytes).hasFault then
        ⟨[.parseFailed s.file (frontEnd bytes).faultPlaces],
          .error (.unparsable s.file (frontEnd bytes).faultPlaces)⟩
      else ⟨[], .ok (frontEnd bytes)⟩ := by
  rw [parse, hlanguage, hbytes]
  rfl

/-- A refused source is refused before anything is made of its tree. -/
theorem analyseBy_of_error {failure : Failure} (builder : Source → Node → Outcome Build)
    (h : (s.parse frontEnd languages).result = .error failure) :
    s.analyseBy builder frontEnd languages
      = ⟨(s.parse frontEnd languages).events, .error failure⟩ := by
  rw [analyseBy, h]

/-- **Syntax faults are found completely and in order.** A source in a known language whose content
can be written down is refused if and only if the root of its tree is flagged or some node of the
tree is a fault. It is refused for the faults, by line and column, in the order of the paths to
them, and these are what the search with a stack ends with. Nothing is then made of the tree: of
whatever would build a graph from it, no event is reported. -/
theorem refused_iff_faults (hlanguage : languages.supports s.language)
    (hbytes : s.bytes = .ok bytes) :
    ((∃ failure, (s.parse frontEnd languages).result = .error failure) ↔
      (frontEnd bytes).head.flagged ∨
        ∃ p m, (frontEnd bytes).descend? p = some m ∧ (m.label = .error ∨ m.head.missing)) ∧
    ∀ failure, (s.parse frontEnd languages).result = .error failure →
      ∃ ps places, failure = .unparsable s.file places ∧ (frontEnd bytes).FaultsAt ps ∧
        ps.map (fun p => ((frontEnd bytes).descend? p).map Node.place) = places.map some ∧
        (∀ turns, (frontEnd bytes).nodes.length ≤ turns →
          ∃ found, Node.faultScan.loop turns [frontEnd bytes] [] = .ok ([], found) ∧
            found.map Node.place = places) ∧
        s.analyse frontEnd languages = ⟨[.parseFailed s.file places], .error failure⟩ ∧
        ∀ builder, s.analyseBy builder frontEnd languages
          = ⟨[.parseFailed s.file places], .error failure⟩ := by
  have hparse := @parse_eq frontEnd languages s bytes hlanguage hbytes
  rw [← Node.hasFault_iff]
  by_cases hfault : (frontEnd bytes).hasFault
  · rw [if_pos hfault] at hparse
    have hresult : (s.parse frontEnd languages).result
        = .error (.unparsable s.file (frontEnd bytes).faultPlaces) := by rw [hparse]
    refine ⟨⟨fun _ => hfault, fun _ => ⟨_, hresult⟩⟩, fun failure hfailure => ?_⟩
    have hrefused := fun builder => analyseBy_of_error builder hresult
    obtain rfl := Except.error.inj (hresult.symm.trans hfailure)
    rw [hparse] at hrefused
    -- the paths to the faults, in the order in which the search comes to them
    obtain ⟨ps, hps, hmap⟩ := (frontEnd bytes).exists_faultsAt
    refine ⟨ps, (frontEnd bytes).faultPlaces, rfl, hps, ?_, fun turns hturns => ?_,
      (analyse_eq frontEnd languages s).trans (hrefused buildGraph), hrefused⟩
    · have hplaces := congrArg (List.map (Option.map Node.place)) hmap
      rw [List.map_map, List.map_map] at hplaces
      rw [Node.faultPlaces_eq, List.map_map]
      exact hplaces
    · exact ⟨_, (frontEnd bytes).loop_faultScan hturns, rfl⟩
  · rw [if_neg hfault] at hparse
    have hresult : (s.parse frontEnd languages).result = .ok (frontEnd bytes) := by rw [hparse]
    have hnone : ∀ failure, (s.parse frontEnd languages).result ≠ .error failure := by
      rw [hresult]
      intro failure h
      cases h
    exact ⟨⟨fun ⟨failure, h⟩ => absurd h (hnone failure), fun h => absurd h hfault⟩,
      fun failure h => absurd h (hnone failure)⟩

/-- A source with three question marks where a declaration should be. -/
def questionMarks : Source := { content := "package main\n\n???\n" }

def questionBytes : List UInt8 :=
  [112, 97, 99, 107, 97, 103, 101, 32, 109, 97, 105, 110, 10, 10, 63, 63, 63, 10]

/-- Its tree: the question marks are a fault within a fault. -/
def questionTree : Node :=
  .mk { label := .other "source_file", span := { endRow := 3 }, flagged := true } [
    .mk { label := .other "package_clause", span := { endCol := 12 } } [
      .mk { label := .other "package", span := { endCol := 7 }, named := false } [],
      .mk { label := .other "package_identifier", span := { startCol := 8, endCol := 12 } } []],
    .mk { label := .error, span := { startRow := 2, endRow := 2, endCol := 3 } } [
      .mk { label := .error, span := { startRow := 2, endRow := 2, endCol := 3 } } []]]

/-- Both faults are reported, though at one place. -/
theorem refused_iff_faults_questionMarks :
    Languages.go.supports questionMarks.language ∧ questionMarks.bytes = .ok questionBytes ∧
      questionMarks.analyse (fun _ => questionTree) .go
        = ⟨[.parseFailed "<memory>" [(3, 0), (3, 0)]],
            .error (.unparsable "<memory>" [(3, 0), (3, 0)])⟩ ∧
      ∃ ps, questionTree.FaultsAt ps ∧
        ps.map (fun p => (questionTree.descend? p).map Node.place)
          = [some (3, 0), some (3, 0)] := by
  have hlanguage : Languages.go.supports questionMarks.language := by decide +kernel
  have hbytes : questionMarks.bytes = .ok questionBytes := rfl
  have hresult : (questionMarks.parse (fun _ => questionTree) .go).result
      = .error (.unparsable "<memory>" [(3, 0), (3, 0)]) := by
    rw [parse_eq hlanguage hbytes]
    rfl
  obtain ⟨ps, places, hfailure, hps, hmap, -, hanalyse, -⟩ :=
    (refused_iff_faults hlanguage hbytes).2 _ hresult
  cases hfailure
  exact ⟨hlanguage, hbytes, hanalyse, ps, hps, hmap⟩

end Source

end GoFlow
