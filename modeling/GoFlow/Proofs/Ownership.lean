import GoFlow.Proofs.Accounts
import GoFlow.Proofs.Modularity

/-!
# Ownership of lines

In a file whose declarations stand side by side, each on lines of its own, the lines of a
declaration belong to it. While it is walked, nothing else is touched, and in the end the blocks on
its lines, and no others, are filed under its name.

- `Change.Within`: a change between two lines, at both ends of the edge if it is one.
- `Visits.within_function`: the walk over a declaration keeps within its lines.
- `Visits.names_of_flat`: where declarations hold no others, a visit files all blocks under the
  declaration it goes to, or under no name.
-/

namespace GoFlow

/-- The change concerns lines between the bounds only: the line that it registers, or both ends of
the edge that it adds. -/
def Change.Within (lo hi : Int) : Change → Prop
  | .register l _ _ => lo ≤ l ∧ l ≤ hi
  | .link s t => (lo ≤ s ∧ s ≤ hi) ∧ lo ≤ t ∧ t ≤ hi

/-- Edges lead to lines that are registered by then. -/
theorem Graph.AdmitsAll.mem_of_link {cs : List Change} (h : ({} : Graph).AdmitsAll cs) {s t : Int}
    (hlink : .link s t ∈ cs) : t ∈ registeredBy cs := by
  obtain ⟨pre, post, rfl⟩ := List.append_of_mem hlink
  obtain ⟨-, ⟨-, htarget⟩, -⟩ := (Graph.admitsAll_append _ _ _).1 h
  rw [registeredBy_append]
  exact List.mem_append_left _ (Graph.contains_replay_empty.1 htarget)

namespace Visits

variable {ε : Type} {decode : List UInt8 → Except ε String} {w w' : Walk} {cs : List Change}
variable {n : Node}

/-- **The walk over a declaration keeps within its lines**: the edges that it adds start and end
there, too. -/
theorem within_function (h : Visits decode (.node n) w cs w') (hn : n.label.isFunction)
    (hnested : n.nested) (hw : w.graph.Sound) : ∀ c ∈ cs, c.Within n.startLine n.endLine := by
  have hconfined := h.confined_function hn hnested
  -- taken from scratch, the walk has no lines to lead to but its own
  obtain ⟨u, hfresh⟩ := h.function_fresh hn hw
  have hadmits := (hfresh.admitted (Walk.anchored_start {})).1
  intro c hc
  cases c with
  | register l kind owner => exact hconfined _ hc
  | link s t => exact ⟨hconfined _ hc, hconfined.registered (hadmits.mem_of_link hc)⟩

/-- Outside declarations, a visit to a node that holds none files all blocks under the node, if it
is a declaration itself, or else under no name. -/
theorem names_of_flat (h : Visits decode (.node n) w cs w')
    (hflat : ∀ m ∈ Node.nodesIn n.children, m.label.isFunction = false)
    (hw : w.scope.FilesUnder decode none) {l : Int} {kind : BlockKind} {name : String}
    (hreg : .register l kind name ∈ cs) : Names decode (n.owner none) name := by
  have hsurveys : Surveys fun d m => d = n.owner none ∧
      ∀ k ∈ Node.nodesIn m.children, k.label.isFunction = false := by
    constructor
    case child =>
      rintro d m c ⟨rfl, hm⟩ hc
      refine ⟨Node.owner_of_plain (hm c (Node.mem_nodesIn_of_mem hc)), fun k hk => hm k ?_⟩
      exact Node.mem_nodesIn.2 ⟨c, hc, Node.mem_nodes_of_below hk⟩
    case body =>
      rintro d m ⟨-, hm⟩ - c hc
      exact hm c (Node.mem_nodesIn_of_mem (Node.child?_mem hc))
    case ifPart =>
      rintro d m ⟨-, hm⟩ - f - c hc
      exact hm c (Node.mem_nodesIn_of_mem (Node.child?_mem hc))
  obtain ⟨d, m, ⟨rfl, -⟩, hnames, -⟩ := @accounted _ _ _ hsurveys _ _ _ _ h _ _ _ none
    ⟨rfl, hflat⟩ hw hreg
  exact hnames

/-- The node of a row whose visit makes a change. -/
theorem exists_node_of_change {ns : List Node} (h : Visits decode (.nodes ns) w cs w')
    {d : Option Node} (hw : w.scope.FilesUnder decode d) {c : Change} (hc : c ∈ cs) :
    ∃ m ∈ ns, ∃ u ds u', Visits decode (.node m) u ds u' ∧ u.scope.FilesUnder decode d ∧
      c ∈ ds := by
  induction ns generalizing w cs with
  | nil =>
    cases h
    cases hc
  | cons n ns ih =>
    cases h with
    | cons first rest =>
      rcases List.mem_append.1 hc with hc | hc
      · exact ⟨n, List.mem_cons_self, _, _, _, first, hw, hc⟩
      · obtain ⟨m, hm, hvisit⟩ := ih rest (first.filesUnder hw) hc
        exact ⟨m, List.mem_cons_of_mem n hm, hvisit⟩

end Visits

/-- A block whose line is registered in a stretch of the changes, and not after it, has its kind
and owner from there. -/
theorem Build.Finishes.register_mem_middle {b : Build} {before own after : List Change}
    {ls : List Int} (h : b.Finishes (({} : Graph).replay (before ++ (own ++ after))) ls)
    (hcs : ({} : Graph).AdmitsAll (before ++ (own ++ after))) {x : Block} (hx : x ∈ b.blocks)
    (hown : x.endLine ∈ registeredBy own) (hafter : x.endLine ∉ registeredBy after) :
    .register x.endLine x.kind x.owner ∈ own := by
  obtain ⟨-, hget⟩ := h.mem_blocks hx
  obtain ⟨pre, kind, owner, post, rfl, hpost⟩ := exists_last_register hown
  have hcut : before ++ (pre ++ .register x.endLine kind owner :: post ++ after)
      = (before ++ pre) ++ .register x.endLine kind owner :: (post ++ after) := by simp
  rw [hcut] at h hcs
  have hlast : x.endLine ∉ registeredBy (post ++ after) := by simp [hpost, hafter]
  obtain ⟨hkind, howner, -⟩ := h.of_last_register Graph.sound_empty hcs hlast hget
  rw [hkind, howner]
  exact List.mem_append_right _ List.mem_cons_self

section

variable {ε : Type} {decode : List UInt8 → Except ε String} {root n : Node} {b : Build}

theorem Node.Layered.nested_of_named (hroot : root.Layered) (hn : n ∈ root.named) : n.nested :=
  ((Node.between_self hroot.nested).child (List.mem_filter.1 hn).1).nested

/-- The walk over a file, stopped in front of a declaration and behind it. -/
theorem exists_within (hroot : root.Layered) (hb : build decode root {} = .ok b)
    {above below : List Node} (hnamed : root.named = above ++ n :: below)
    (hfunction : n.label.isFunction) :
    ∃ cs u own u' ds w, Visits decode (.nodes above) {} cs u ∧ Visits decode (.node n) u own u' ∧
      Visits decode (.nodes below) u' ds w ∧ b = w.finish ∧
      ∀ c ∈ own, c.Within n.startLine n.endLine := by
  have hn : n ∈ root.named := by simp [hnamed]
  obtain ⟨cs, w, hvisit, rfl⟩ := build_eq_ok_iff.1 hb
  rw [hnamed] at hvisit
  obtain ⟨cs, u, ds, habove, hrest, rfl⟩ := hvisit.nodes_append
  cases hrest with
  | cons first rest =>
    have hsound : u.graph.Sound := by
      rw [habove.graph_eq]
      exact Graph.sound_empty.replay (habove.admitted (Walk.anchored_start {})).1
    exact ⟨_, u, _, _, _, _, habove, first, rest, rfl,
      first.within_function hfunction (hroot.nested_of_named hn) hsound⟩

/-- The blocks on the lines of a declaration carry its name. -/
theorem names_on_lines (hroot : root.Layered) (hb : build decode root {} = .ok b)
    (hn : n ∈ root.named) (hfunction : n.label.isFunction)
    (hflat : ∀ m ∈ Node.nodesIn n.children, m.label.isFunction = false) {x : Block}
    (hx : x ∈ b.blocks) (hfirst : n.startLine ≤ x.endLine) (hlast : x.endLine ≤ n.endLine) :
    Names decode (some n) x.owner := by
  obtain ⟨cs, w, ls, hvisit, hadmits, hfinish⟩ := finishes_of_build Graph.sound_empty hb
  -- what comes before may reach the first line, but the declaration registers it again
  obtain ⟨before, own, after, hstretch⟩ := exists_stretch hroot hvisit hn hfunction
  obtain ⟨u, halone⟩ := hstretch.alone
  have hregistered := Graph.contains_replay_empty.1
    ((hfinish.mem_lines _).1 (hfinish.mem_blocks hx).1)
  have hown := (hstretch.mem_own_iff hfunction).2 ⟨hregistered, hfirst, hlast⟩
  have hafter : x.endLine ∉ registeredBy after := fun hmem => by
    obtain ⟨kind, owner, hreg⟩ := mem_registeredBy.1 hmem
    have hgt : n.endLine < x.endLine := hstretch.after_gt _ hreg
    omega
  obtain rfl := hstretch.eq
  have hnames := halone.names_of_flat hflat ⟨rfl, rfl⟩
    (hfinish.register_mem_middle hadmits hx hown hafter)
  rwa [Node.owner_of_isFunction hfunction] at hnames

/-- The blocks on lines of no declaration carry no name. -/
theorem owner_off_lines (hroot : root.Layered) (hb : build decode root {} = .ok b)
    (hflat : ∀ n ∈ root.named, ∀ m ∈ Node.nodesIn n.children, m.label.isFunction = false)
    {x : Block} (hx : x ∈ b.blocks)
    (hoff : ∀ n ∈ root.named, n.label.isFunction →
      ¬ (n.startLine ≤ x.endLine ∧ x.endLine ≤ n.endLine)) : x.owner = "" := by
  obtain ⟨cs, w, ls, hvisit, hadmits, hfinish⟩ := finishes_of_build Graph.sound_empty hb
  have hstart : ({} : Walk).scope.FilesUnder decode none := ⟨rfl, rfl⟩
  obtain ⟨m, hm, u, ds, u', hvisit, hw, hreg⟩ :=
    hvisit.exists_node_of_change hstart (hfinish.register_mem hadmits hx)
  have hplain : m.label.isFunction = false := by
    rw [Bool.eq_false_iff]
    exact fun hfunction => hoff m hm hfunction
      (hvisit.confined_function hfunction (hroot.nested_of_named hm) _ hreg)
  have hnames := hvisit.names_of_flat (hflat m hm) hw hreg
  rwa [Node.owner_of_plain hplain] at hnames

/-- **Line confinement and ownership.** Take a file whose rows are nested, whose children lie on
lines of their own, and whose declarations hold no others. While a declaration is walked, all lines
that are registered and both ends of all edges that are added lie within its lines. In the finished
graph, the blocks on these lines are filed under its name, and the blocks on lines of no
declaration under none. -/
theorem owned_of_build (hroot : root.Layered)
    (hflat : ∀ n ∈ root.named, ∀ m ∈ Node.nodesIn n.children, m.label.isFunction = false)
    (hb : build decode root {} = .ok b) :
    (∀ above n below, root.named = above ++ n :: below → n.label.isFunction →
      ∃ cs u own u' ds w, Visits decode (.nodes above) {} cs u ∧ Visits decode (.node n) u own u' ∧
        Visits decode (.nodes below) u' ds w ∧ b = w.finish ∧
        ∀ c ∈ own, c.Within n.startLine n.endLine) ∧
      ∀ x ∈ b.blocks,
        (∀ n ∈ root.named, n.label.isFunction → n.startLine ≤ x.endLine → x.endLine ≤ n.endLine →
          Names decode (some n) x.owner) ∧
        ((∀ n ∈ root.named, n.label.isFunction →
          ¬ (n.startLine ≤ x.endLine ∧ x.endLine ≤ n.endLine)) → x.owner = "") :=
  ⟨fun _ _ _ hnamed hfunction => exists_within hroot hb hnamed hfunction,
    fun _ hx => ⟨fun n hn hfunction => names_on_lines hroot hb hn hfunction (hflat n hn) hx,
      owner_off_lines hroot hb hflat hx⟩⟩

end

/-- A function on lines 3 to 6, with a loop. -/
def ownedFunction : Node :=
  .mk { label := .functionDeclaration, span := { startRow := 2, endRow := 5 } } [
    .mk { label := .other "identifier", span := { startRow := 2, endRow := 2 },
          field := some .name, text := some [102] } [],
    .mk { label := .block, span := { startRow := 2, endRow := 5 }, field := some .body } [
      .mk { label := .forStatement, span := { startRow := 3, endRow := 4 } } [
        .mk { label := .block, span := { startRow := 3, endRow := 4 }, field := some .body } []]]]

/-- The function, between a variable whose if reaches down to its first line and a method, with a
comment inside, and a variable with a go statement below. -/
def ownedFile : Node :=
  .mk { label := .other "source_file", span := { startRow := 0, endRow := 8 } } [
    .mk { label := .other "var_declaration", span := { startRow := 0, endRow := 1 } } [
      .mk { label := .ifStatement, span := { startRow := 0, endRow := 1 } } [
        .mk { label := .block, span := { startRow := 0, endRow := 1 }, field := some .consequence }
          []]],
    ownedFunction,
    .mk { label := .comment, span := { startRow := 4, endRow := 4 } } [],
    .mk { label := .methodDeclaration, span := { startRow := 6, endRow := 7 } } [
      .mk { label := .other "field_identifier", span := { startRow := 6, endRow := 6 },
            field := some .name, text := some [103] } [],
      .mk { label := .block, span := { startRow := 6, endRow := 7 }, field := some .body } []],
    .mk { label := .other "var_declaration", span := { startRow := 8, endRow := 8 } } [
      .mk { label := .goStatement, span := { startRow := 8, endRow := 8 } } []]]

theorem owned_of_build_ownedFile :
    ownedFile.Layered ∧
      (∀ n ∈ ownedFile.named, ∀ m ∈ Node.nodesIn n.children, m.label.isFunction = false) ∧
      ∃ b, build spell ownedFile {} = .ok b ∧
        b.blocks.map (fun x => (x.endLine, x.owner)) = [(1, ""), (2, ""), (3, "f"), (4, "f"),
          (5, "f"), (6, "f"), (7, "g"), (8, "g"), (9, "")] ∧
        (∃ u own u', Visits spell (.node ownedFunction) u own u' ∧ ∀ c ∈ own, c.Within 3 6) ∧
        ∀ x ∈ b.blocks, 3 ≤ x.endLine → x.endLine ≤ 6 →
          Names spell (some ownedFunction) x.owner := by
  have hlayered : ownedFile.Layered := ⟨by decide, by decide⟩
  have hflat : ∀ n ∈ ownedFile.named, ∀ m ∈ Node.nodesIn n.children,
      m.label.isFunction = false := by decide
  refine ⟨hlayered, hflat, _, rfl, by decide, ?_, fun x hx => ?_⟩
  · obtain ⟨-, u, own, u', -, -, -, hvisit, -, -, hwithin⟩ :=
      (@owned_of_build Empty spell ownedFile _ hlayered hflat rfl).1 [_] ownedFunction _ rfl rfl
    exact ⟨u, own, u', hvisit, hwithin⟩
  · exact ((owned_of_build hlayered hflat rfl).2 x hx).1 ownedFunction (.tail _ (.head _)) rfl

end GoFlow
