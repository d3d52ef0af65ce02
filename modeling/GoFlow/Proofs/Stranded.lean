import GoFlow.Proofs.StatementBlocks
import Mathlib.Data.Int.LeastGreatest

/-!
# Which blocks the entry of a function leads to

In a function whose body does not return, every statement can be executed, but not every block can
be reached along the edges of the graph: the blocks of a false path and of a clause go to the return
target and do not fall through, so that a statement behind them may be left without an edge that
leads to it.

- `Build.Entered`: the lines that an edge leads to from further up.
- `Build.Stranded`: the blocks that are not entered, below a block that does not fall through.
- `Build.Walked.exists_root`: every block is reached from the entry or from a stranded block.
- `Build.Walked.not_reaches_stranded`: the entry leads to no stranded block.
- `Stretch.agrees`: a function has the blocks and edges in its file that it has alone.
-/

namespace GoFlow

/-! ## Lines that are entered -/

/-- A clause of the function has its block on the line. -/
def Node.ClauseOn (d : Node) (l : Int) : Prop :=
  ∃ n ∈ nodesIn d.children, ∃ form ∈ n.label.choice?, ∃ k ∈ n.clauses,
    (Outline.clauseEntry form k).1 = l

instance (d : Node) (l : Int) : Decidable (d.ClauseOn l) :=
  inferInstanceAs (Decidable (∃ n ∈ _, _))

instance (b : Build) (s t : Int) : Decidable (b.Leads s t) :=
  inferInstanceAs (Decidable (_ ∈ _))

namespace Build

/-- The lines of a function that are entered from further up. -/
inductive Entered (b : Build) (d : Node) : Int → Prop where
  /-- All paths leave by the last line. -/
  | last : Entered b d d.endLine
  /-- The line on which the false path of an if ends. -/
  | falsePath {n : Node} (hn : n ∈ Node.nodesIn d.children) (label : n.label = .ifStatement) :
      Entered b d (Context.elseEnd { function := some d } n)
  /-- The block of a clause. -/
  | clause {l : Int} (hl : d.ClauseOn l) : Entered b d l
  /-- A switch or select in a loop. -/
  | inLoop {n m : Node} {form : Choice} (hm : m ∈ Node.nodesIn d.children)
      (loop : m.label = .forStatement) (hn : n ∈ Node.nodesIn m.children)
      (label : n.label.choice? = some form) : Entered b d n.startLine
  /-- A loop that goes back to its header from the block of a clause. -/
  | tail {m : Node} (hm : m ∈ Node.nodesIn d.children) (loop : m.label = .forStatement)
      (hend : d.ClauseOn m.endLine) (back : b.Leads m.endLine m.startLine) :
      Entered b d m.startLine

/-- A block is entered behind the declaration, at a clause, or at the end of a false path. -/
theorem entered_iff {b : Build} {d : Node} {l : Int} : b.Entered d l ↔
    d.endLine = l ∨ d.ClauseOn l ∨ ∃ n ∈ Node.nodesIn d.children,
      n.label = .ifStatement ∧ Context.elseEnd { function := some d } n = l ∨
      n.label = .forStatement ∧ (n.startLine = l ∧ d.ClauseOn n.endLine ∧
          b.Leads n.endLine n.startLine ∨
        ∃ m ∈ Node.nodesIn n.children, m.label.choice?.isSome ∧ m.startLine = l) := by
  constructor
  · intro h
    cases h with
    | last => exact .inl rfl
    | falsePath hn label => exact .inr (.inr ⟨_, hn, .inl ⟨label, rfl⟩⟩)
    | clause hl => exact .inr (.inl hl)
    | inLoop hm loop hn label =>
      exact .inr (.inr ⟨_, hm, .inr ⟨loop, .inr ⟨_, hn, by rw [label]; rfl, rfl⟩⟩⟩)
    | tail hm loop hend back => exact .inr (.inr ⟨_, hm, .inr ⟨loop, .inl ⟨rfl, hend, back⟩⟩⟩)
  · rintro (rfl | hl | ⟨n, hn, ⟨label, rfl⟩ | ⟨loop, ⟨rfl, hend, back⟩ | ⟨m, hm, label, rfl⟩⟩⟩)
    · exact .last
    · exact .clause hl
    · exact .falsePath hn label
    · exact .tail hn loop hend back
    · obtain ⟨form, label⟩ := Option.isSome_iff_exists.1 label
      exact .inLoop hn loop hm label

instance (b : Build) (d : Node) (l : Int) : Decidable (b.Entered d l) :=
  decidable_of_iff _ entered_iff.symm

/-- Whether a line is entered hangs on the edges from the last line of a loop to the first alone. -/
theorem Entered.mono {b b' : Build} {d : Node} {l : Int} (h : b.Entered d l)
    (hback : ∀ m ∈ Node.nodesIn d.children, b.Leads m.endLine m.startLine →
      b'.Leads m.endLine m.startLine) : b'.Entered d l := by
  cases h with
  | last => exact .last
  | falsePath hn label => exact .falsePath hn label
  | clause hl => exact .clause hl
  | inLoop hm loop hn label => exact .inLoop hm loop hn label
  | tail hm loop hend back => exact .tail hm loop hend (hback _ hm back)

/-- A line of the function, below the first, that is not entered. The block above it does not fall
through. -/
structure Stranded (b : Build) (d : Node) (l : Int) : Prop where
  first_lt : d.startLine < l
  le_last : l ≤ d.endLine
  not_entered : ¬ b.Entered d l
  stops : ∃ p, [.line p, .line l] <:+: b.listing ∧
    (b.graph.kind? (.line p)).any BlockKind.fallsThrough = false

end Build

/-- Both ends of a default edge are in the listing. -/
theorem mem_of_following {ls : List Int} {s t : Int} (h : following ls s = some t) :
    s ∈ ls ∧ t ∈ ls :=
  ⟨(following_eq_some h).subset (by simp), (following_eq_some h).subset (by simp)⟩

/-- The block above a line. -/
theorem Build.Finishes.exists_preceding {b : Build} {g : Graph} {ls : List Int}
    (h : b.Finishes g ls) {s t : Int} (hs : s ∈ ls) (ht : t ∈ ls) (hst : s < t) :
    ∃ p ∈ ls, s ≤ p ∧ p < t ∧ following ls p = some t := by
  obtain ⟨p, ⟨hp, hpt⟩, hgreatest⟩ := Int.exists_greatest_of_bdd
    ⟨t, fun p (hp : p ∈ ls ∧ p < t) => Int.le_of_lt hp.2⟩ ⟨s, hs, hst⟩
  obtain ⟨m, hm⟩ := h.exists_following hp ht hpt
  have hpm := following_lt h.ascending hm
  have hmt := following_le h.ascending hm ht hpt
  have hm' := (mem_of_following hm).2
  refine ⟨p, hp, hgreatest s ⟨hs, hst⟩, hpt, ?_⟩
  rcases Int.lt_or_eq_of_le hmt with hlt | rfl
  · have := hgreatest m ⟨hm', hlt⟩
    omega
  · exact hm

section

variable {ε : Type} {decode : List UInt8 → Except ε String} {root d n : Node}

/-! ## What the entry leads to -/

namespace Build.Walked

variable {b : Build} {cs : List Change} {ls : List Int} {l s t : Int}

/-- The last line is entered from an outermost loop, or else from the block above it. -/
theorem exists_source_last (h : b.Walked decode root cs ls) (hroot : root.Solo d)
    (hlast : d.endLine ∈ ls) : ∃ s < d.endLine, b.Leads s d.endLine := by
  have hinside := fun {m : Node} hm (hlabel : m.label = .forStatement) =>
    @Node.Unbroken.inside_function root d m hroot.toUnbroken hm (by rw [hlabel]; rfl)
  -- the first of all loops is an outermost one
  by_cases hloop : ∃ s, ∃ m ∈ Node.nodesIn d.children, m.label = .forStatement ∧ m.startLine = s
  · obtain ⟨_, ⟨m, hm, hlabel, rfl⟩, hleast⟩ := Int.exists_least_of_bdd
      ⟨d.startLine, by
        rintro _ ⟨m, hm, hlabel, rfl⟩
        exact Int.le_of_lt (hinside hm hlabel).1⟩ hloop
    have hle := hroot.startLine_le hm
    have hlt := hinside hm hlabel
    refine ⟨m.startLine, by omega, h.leads_out hroot hm hlabel fun f hf hf' hmf => ?_⟩
    have hfm := (hroot.inside_for (Node.mem_nodes_of_below hf) hf' hmf (by rw [hlabel]; rfl)).1
    have := hleast f.startLine ⟨f, hf, hf', rfl⟩
    omega
  · obtain ⟨p, hp, -, hlt, hnext⟩ :=
      h.finishes.exists_preceding (h.kind_first hroot).1 hlast hroot.first_lt_last
    refine ⟨p, hlt, ?_⟩
    by_cases hfalls : (b.graph.kind? (.line p)).any BlockKind.fallsThrough
    · exact h.finishes.mem_successors_iff.2
        (.inr ⟨hfalls, h.finishes.infix_listing_iff.2 hnext⟩)
    obtain ⟨t, ht⟩ := h.exists_leads hroot hp (by omega) (by simpa using hfalls)
    -- without loops, the edges that do not leave the function start on first lines of statements
    rcases h.leads_cases hroot ht with hdrawn | ⟨hfalls', -⟩
    · cases hdrawn with
      | out => exact ht
      | back hm hlabel => exact absurd ⟨_, _, hm, hlabel, rfl⟩ hloop
      | @skip n hn hlabel =>
        have hhead : n.label.headKind? = some .ifCondition := by rw [hlabel]; rfl
        exact absurd (h.fallsThrough_head hroot hn hhead) hfalls
      | branch hn hlabel =>
        exact absurd (h.fallsThrough_head hroot hn (Label.headKind?_of_choice hlabel)) hfalls
      | enter hm hlabel => exact absurd ⟨_, _, hm, hlabel, rfl⟩ hloop
    · exact absurd hfalls' hfalls

/-- The nearest loop leads to a switch or select. -/
theorem exists_source_inLoop (h : b.Walked decode root cs ls) (hroot : root.Solo d) {m : Node}
    (hm : m ∈ Node.nodesIn d.children) (loop : m.label = .forStatement)
    (hn : n ∈ Node.nodesIn m.children) {form : Choice} (label : n.label.choice? = some form) :
    ∃ s < n.startLine, b.Leads s n.startLine := by
  have hconstruct := Label.isConstruct_of_choice label
  have hfirst := fun {f : Node} hf hf' hnf =>
    (@Node.Unbroken.inside_for root d f n hroot.toUnbroken (Node.mem_nodes_of_below hf) hf' hnf
      hconstruct).1
  -- of the loops around it, the nearest one starts last
  obtain ⟨_, ⟨f, hf, hf', hnf, rfl⟩, hgreatest⟩ := Int.exists_greatest_of_bdd
    (P := fun s => ∃ f ∈ Node.nodesIn d.children, f.label = .forStatement ∧
      n ∈ Node.nodesIn f.children ∧ f.startLine = s)
    ⟨n.startLine, by
      rintro _ ⟨f, hf, hf', hnf, rfl⟩
      exact Int.le_of_lt (hfirst hf hf' hnf)⟩ ⟨_, m, hm, loop, hn, rfl⟩
  refine ⟨f.startLine, hfirst hf hf' hnf, h.leads_enter hroot hf hf' hnf label ?_⟩
  intro g hg hg' hng
  have hg'' := (Node.hereditary_nodesIn d.children).nodes hf (Node.mem_nodes_of_below hg)
  have hle := hgreatest g.startLine ⟨g, hg'', hg', hng, rfl⟩
  have hlt := (hroot.inside_for (Node.mem_nodes_of_below hf) hf' hg (by rw [hg']; rfl)).1
  omega

/-- **Entered lines** are reached from lines further up. -/
theorem exists_source (h : b.Walked decode root cs ls) (hroot : root.Solo d) (hl : l ∈ ls)
    (hentered : b.Entered d l) : ∃ s < l, Relation.TransGen b.Leads s l := by
  cases hentered with
  | last =>
    obtain ⟨s, hs, hleads⟩ := h.exists_source_last hroot hl
    exact ⟨s, hs, .single hleads⟩
  | @falsePath n hn label =>
    exact ⟨n.startLine, (hroot.elseEnd_bounds hn label).1, .single (h.leads_skip hroot hn label)⟩
  | clause hclause =>
    obtain ⟨n, hn, form, label, k, hk, rfl⟩ := hclause
    exact ⟨n.startLine, (hroot.clauseEntry_bounds (Node.mem_nodes_of_below hn) label hk).1,
      .single (h.leads_branch hroot hn label hk)⟩
  | inLoop hm loop hn label =>
    obtain ⟨s, hs, hleads⟩ := h.exists_source_inLoop hroot hm loop hn label
    exact ⟨s, hs, .single hleads⟩
  | @tail m hm loop hend back =>
    obtain ⟨n, hn, form, label, k, hk, hline⟩ := hend
    have hbounds := hroot.clauseEntry_bounds (Node.mem_nodes_of_below hn) label hk
    have hlead := h.leads_branch hroot hn label hk
    rw [hline] at hlead hbounds
    refine ⟨n.startLine, ?_, .tail (.single hlead) back⟩
    -- the loop stands in the switch, whose lines reach down to its end
    have hn' := Label.isConstruct_of_choice label
    have hm' : m.label.isConstruct := by rw [loop]; rfl
    have hne : m ≠ n := by
      rintro rfl
      rw [loop] at label
      cases label
    have hoff : n ∉ Node.nodesIn m.children := fun hnm => by
      have := hroot.inside_for (Node.mem_nodes_of_below hm) loop hnm hn'
      omega
    have hline' := (hroot.loopBody m (hroot.mem_root (Node.mem_nodes_of_below hm)) loop).1
    have hn'' := Node.mem_constructs_of_below hn hn'
    have hmn := hroot.below_of_shared (Node.mem_constructs_of_below hm hm') hn'' hne hoff hline'
      (by omega) hbounds.1 hbounds.2
    exact (hroot.startLine_lt_of_below hn'' hmn hm').1

/-- **Every block is reached from the entry or from a stranded block.** -/
theorem exists_root (h : b.Walked decode root cs ls) (hroot : root.Solo d) (hl : l ∈ ls) :
    ∃ s, (s = d.startLine ∨ b.Stranded d s) ∧ Relation.ReflTransGen b.Leads s l := by
  -- up the lines: a block that is not stranded is entered from above, or fallen into, or the entry
  induction hsize : (l - d.startLine).toNat using Nat.strongRecOn generalizing l with
  | ind _ ih =>
    subst hsize
    have hup : ∀ {s}, s < l → Relation.TransGen b.Leads s l →
        ∃ r, (r = d.startLine ∨ b.Stranded d r) ∧ Relation.ReflTransGen b.Leads r l := by
      intro s hs hsl
      obtain ⟨t, hst, -⟩ := Relation.TransGen.head'_iff.1 hsl
      have hmem := h.finishes.mem_of_leads hst
      have hfirst := (h.bounds hroot hmem).1
      obtain ⟨r, hr, hrs⟩ := ih _ (by omega) hmem rfl
      exact ⟨r, hr, hrs.trans hsl.to_reflTransGen⟩
    by_cases hentered : b.Entered d l
    · obtain ⟨s, hs, hsl⟩ := h.exists_source hroot hl hentered
      exact hup hs hsl
    obtain ⟨hfirst, hlast⟩ := h.bounds hroot hl
    rcases Int.lt_or_eq_of_le hfirst with hlt | rfl
    · obtain ⟨p, -, -, hpl, hnext⟩ := h.finishes.exists_preceding (h.kind_first hroot).1 hl hlt
      have hneighbours := h.finishes.infix_listing_iff.2 hnext
      by_cases hfalls : (b.graph.kind? (.line p)).any BlockKind.fallsThrough
      · exact hup hpl (.single (h.finishes.mem_successors_iff.2 (.inr ⟨hfalls, hneighbours⟩)))
      · exact ⟨l, .inr ⟨hlt, hlast, hentered, p, hneighbours, by simpa using hfalls⟩, .refl⟩
    · exact ⟨_, .inl rfl, .refl⟩

end Build.Walked

/-! ## What the entry does not lead to -/

/-- The lines from which a stranded line may be reached: the line itself, and the lines of a loop
that starts there, but for a last line on which a clause has its block. -/
def Node.Approach (d : Node) (l t : Int) : Prop :=
  t = l ∨ ∃ f ∈ nodesIn d.children, f.label = .forStatement ∧ f.startLine = l ∧ l < t ∧
    t ≤ f.endLine ∧ (t = f.endLine → ¬ d.ClauseOn t)

/-- All lines of what stands inside the loop are among them. -/
theorem Node.Unbroken.approach_of_inside (hroot : root.Unbroken d) {f : Node}
    (hf : f ∈ nodesIn d.children) (loop : f.label = .forStatement) (hn : n ∈ nodesIn f.children)
    (hconstruct : n.label.isConstruct) {s : Int} (hfirst : n.startLine ≤ s)
    (hlast : s ≤ n.endLine) : d.Approach f.startLine s := by
  have hinside := hroot.inside_for (mem_nodes_of_below hf) loop hn hconstruct
  exact .inr ⟨f, hf, loop, rfl, by omega, by omega, by omega⟩

/-- No edge that the walk draws leads there from elsewhere. -/
theorem Drawn.approach (hroot : root.Unbroken d) {b : Build} {l s t : Int} (h : Drawn d s t)
    (hentered : ¬ b.Entered d l) (hst : b.Leads s t) (ht : d.Approach l t) : d.Approach l s := by
  have hmem := fun {x : Node} => @Node.mem_constructs_of_below d x
  cases h with
  | out =>
    rcases ht with rfl | ⟨f, hf, hf', -, -, hle, -⟩
    · exact absurd .last hentered
    · have := hroot.inside_function hf (by rw [hf']; rfl)
      omega
  | @back m _ hm label first last =>
    rcases ht with rfl | ⟨f, hf, hf', rfl, hlt, hle, -⟩
    · rcases Int.lt_or_eq_of_le first with hlt | rfl
      · refine .inr ⟨m, hm, label, rfl, hlt, last, ?_⟩
        rintro rfl hclause
        exact hentered (.tail hm label hclause hst)
      · exact .inl rfl
    · -- the loop that the edge goes back to is inside the stranded one
      have hm' : m.label.isConstruct := by rw [label]; rfl
      have hmf := hroot.below_of_startLine (hmem hf (by rw [hf']; rfl)) (hmem hm hm') hlt hle
      exact hroot.approach_of_inside hf hf' hmf hm' first last
  | @skip n hn label =>
    rcases ht with rfl | ⟨f, hf, hf', rfl, hlt, hle, -⟩
    · exact absurd (.falsePath hn label) hentered
    · have hn' : n.label.isConstruct := by rw [label]; rfl
      have hf'' : f.label.isConstruct := by rw [hf']; rfl
      have hne : n ≠ f := by
        rintro rfl
        rw [hf'] at label
        cases label
      have hbounds := hroot.elseEnd_bounds hn label
      -- what stands inside the if ends above the end of the false path
      have hoff : f ∉ Node.nodesIn n.children := fun hfn => by
        have := hroot.lt_elseEnd hn label hfn hf'' (by rw [hf']; decide)
        omega
      have hnf := hroot.below_of_shared (hmem hn hn') (hmem hf hf'') hne hoff (by omega) (by omega)
        hlt hle
      exact hroot.approach_of_inside hf hf' hnf hn' (Int.le_refl _) (hroot.startLine_le hn)
  | @branch n k form hn label hk =>
    have hclause : d.ClauseOn (Outline.clauseEntry form k).1 := ⟨n, hn, form, label, k, hk, rfl⟩
    rcases ht with rfl | ⟨f, hf, hf', rfl, hlt, hle, hend⟩
    · exact absurd (.clause hclause) hentered
    · have hlast : (Outline.clauseEntry form k).1 ≠ f.endLine := fun heq => hend heq hclause
      have hn' := Label.isConstruct_of_choice label
      have hf'' : f.label.isConstruct := by rw [hf']; rfl
      have hne : n ≠ f := by
        rintro rfl
        rw [hf'] at label
        cases label
      have hbounds := hroot.clauseEntry_bounds (Node.mem_nodes_of_below hn) label hk
      have hoff : f ∉ Node.nodesIn n.children := fun hfn => by
        have := hroot.clauseEntry_off hn label hk hfn hf''
        omega
      have hnf := hroot.below_of_shared (hmem hn hn') (hmem hf hf'') hne hoff (by omega) (by omega)
        hlt hle
      exact hroot.approach_of_inside hf hf' hnf hn' (Int.le_refl _) (hroot.startLine_le hn)
  | @enter n m form hm loop hnm label nearest =>
    have hn' := Label.isConstruct_of_choice label
    have hn := (Node.hereditary_nodesIn d.children).nodes hm (Node.mem_nodes_of_below hnm)
    have hfirst := (hroot.inside_for (Node.mem_nodes_of_below hm) loop hnm hn').1
    rcases ht with rfl | ⟨f, hf, hf', rfl, hlt, hle, -⟩
    · exact absurd (.inLoop hm loop hnm label) hentered
    · have hnf := hroot.below_of_startLine (hmem hf (by rw [hf']; rfl)) (hmem hn hn') hlt hle
      rcases Int.lt_or_eq_of_le (nearest f (Node.mem_nodes_of_below hf) hf' hnf) with hfm | hfm
      · exact .inr ⟨f, hf, hf', rfl, hfm, by omega, by omega⟩
      · exact .inl hfm.symm

namespace Build.Walked

variable {b : Build} {cs : List Change} {ls : List Int} {l s t : Int}

/-- **No edge leads to a stranded line from elsewhere.** -/
theorem approach_of_leads (h : b.Walked decode root cs ls) (hroot : root.Solo d)
    (hstranded : b.Stranded d l) (hst : b.Leads s t) (ht : d.Approach l t) : d.Approach l s := by
  obtain ⟨-, -, hentered, p, hpl, hstops⟩ := hstranded
  rcases h.leads_cases hroot hst with hdrawn | ⟨hfalls, hnext⟩
  · exact hdrawn.approach hroot.toUnbroken hentered hst ht
  have hpl := h.finishes.infix_listing_iff.1 hpl
  have hascending := h.finishes.ascending
  have hlt := following_lt hascending hnext
  rcases ht with rfl | ⟨f, hf, hf', rfl, hft, hle, -⟩
  · -- only the block above falls into the line
    exfalso
    have hplt := following_lt hascending hpl
    have hps : p = s := by
      rcases Int.lt_trichotomy p s with hlt' | heq | hlt'
      · have := following_le hascending hpl (mem_of_following hnext).1 hlt'
        omega
      · exact heq
      · have := following_le hascending hnext (mem_of_following hpl).1 hlt'
        omega
    rw [hps, hfalls] at hstops
    cases hstops
  · by_cases hs : s < f.startLine
    · have := following_le hascending hnext (mem_of_following hpl).2 hs
      omega
    · rcases Int.lt_or_eq_of_le (Int.not_lt.1 hs) with hfs | hfs
      · exact .inr ⟨f, hf, hf', rfl, hfs, by omega, by omega⟩
      · exact .inl hfs.symm

/-- **The entry leads to no stranded block.** -/
theorem not_reaches_stranded (h : b.Walked decode root cs ls) (hroot : root.Solo d)
    (hstranded : b.Stranded d l) : ¬ Relation.ReflTransGen b.Leads d.startLine l := by
  intro hreach
  have hfirst := hstranded.first_lt
  -- paths to the stranded line keep to its approach, and the entry is above all of that
  have happroach : ∀ {s}, Relation.ReflTransGen b.Leads s l → d.Approach l s := by
    intro s hs
    induction hs using Relation.ReflTransGen.head_induction_on with
    | refl => exact .inl rfl
    | head hst _ ih => exact h.approach_of_leads hroot hstranded hst ih
  rcases happroach hreach with heq | ⟨f, -, -, -, hlt, -⟩
  · omega
  · omega

end Build.Walked

end

/-! ## A function in its file -/

/-- Two graphs with the same blocks and edges on the lines of a function, from which no edge leads
elsewhere. -/
structure Build.Agrees (b solo : Build) (d : Node) : Prop where
  kind?_eq : ∀ {l}, .line l ∈ solo.listing →
    b.graph.kind? (.line l) = solo.graph.kind? (.line l)
  infix_iff : ∀ {p l}, d.startLine < l → l ≤ d.endLine →
    ([.line p, .line l] <:+: b.listing ↔ [.line p, .line l] <:+: solo.listing)
  leads_iff : ∀ {s t}, d.startLine ≤ s → s ≤ d.endLine → (b.Leads s t ↔ solo.Leads s t)
  inside : ∀ {s t}, solo.Leads s t →
    (d.startLine ≤ s ∧ s ≤ d.endLine) ∧ d.startLine ≤ t ∧ t ≤ d.endLine

namespace Build.Agrees

variable {b solo : Build} {d : Node} {l s : Int}

theorem entered_iff (h : b.Agrees solo d) (hd : d.nested) : b.Entered d l ↔ solo.Entered d l := by
  have hback : ∀ m ∈ Node.nodesIn d.children,
      (b.Leads m.endLine m.startLine ↔ solo.Leads m.endLine m.startLine) := by
    intro m hm
    have hlines := Node.nested_nodes hd (Node.mem_nodes_of_below hm)
    exact h.leads_iff (by omega) hlines.2.2.2
  exact ⟨fun hl => hl.mono fun m hm => (hback m hm).1, fun hl => hl.mono fun m hm => (hback m hm).2⟩

theorem stranded_iff (h : b.Agrees solo d) (hd : d.nested) :
    b.Stranded d l ↔ solo.Stranded d l := by
  constructor
  · rintro ⟨hfirst, hlast, hentered, p, hp, hfalls⟩
    have hp := (h.infix_iff hfirst hlast).1 hp
    rw [h.kind?_eq (hp.subset (by simp))] at hfalls
    exact ⟨hfirst, hlast, mt (h.entered_iff hd).2 hentered, p, hp, hfalls⟩
  · rintro ⟨hfirst, hlast, hentered, p, hp, hfalls⟩
    rw [← h.kind?_eq (hp.subset (by simp))] at hfalls
    exact ⟨hfirst, hlast, mt (h.entered_iff hd).1 hentered, p,
      (h.infix_iff hfirst hlast).2 hp, hfalls⟩

/-- Paths from the function do not leave it. -/
theorem reaches_iff (h : b.Agrees solo d) (hs : d.startLine ≤ s) (hs' : s ≤ d.endLine) :
    Relation.ReflTransGen b.Leads s l ↔ Relation.ReflTransGen solo.Leads s l := by
  constructor
  · intro hreach
    have hboth : Relation.ReflTransGen solo.Leads s l ∧ d.startLine ≤ l ∧ l ≤ d.endLine := by
      induction hreach with
      | refl => exact ⟨.refl, hs, hs'⟩
      | tail _ hst ih =>
        obtain ⟨hreach, hfirst, hlast⟩ := ih
        have hst := (h.leads_iff hfirst hlast).1 hst
        exact ⟨hreach.tail hst, (h.inside hst).2⟩
    exact hboth.1
  · intro hreach
    refine Relation.ReflTransGen.mono (fun t t' hst => ?_) _ _ hreach
    obtain ⟨⟨hfirst, hlast⟩, -⟩ := h.inside hst
    exact (h.leads_iff hfirst hlast).2 hst

end Build.Agrees

section

variable {ε : Type} {decode : List UInt8 → Except ε String} {root d : Node}
variable {cs before own after : List Change} {b solo : Build} {ls ms : List Int} {l p : Int}

namespace Stretch

theorem mem_solo_iff (h : Stretch decode d cs before own after) (hd : d.label.isFunction)
    (hb : b.Finishes (({} : Graph).replay cs) ls)
    (hsolo : solo.Finishes (({} : Graph).replay own) ms) :
    l ∈ ms ↔ l ∈ ls ∧ d.startLine ≤ l ∧ l ≤ d.endLine := by
  rw [hsolo.mem_lines, hb.mem_lines, Graph.contains_replay_empty, Graph.contains_replay_empty,
    h.mem_own_iff hd]

/-- A line of the function, below the first, has the same line above it in the file and alone. -/
theorem following_iff (h : Stretch decode d cs before own after) (hd : d.label.isFunction)
    (hb : b.Finishes (({} : Graph).replay cs) ls)
    (hsolo : solo.Finishes (({} : Graph).replay own) ms) (hfirst : d.startLine < l)
    (hlast : l ≤ d.endLine) : following ls p = some l ↔ following ms p = some l := by
  have hmem : ∀ {k}, k ∈ ms ↔ k ∈ ls ∧ d.startLine ≤ k ∧ k ≤ d.endLine :=
    h.mem_solo_iff hd hb hsolo
  have hstart : d.startLine ∈ ls := (hmem.1 ((hsolo.mem_lines _).2
    (Graph.contains_replay_empty.2 (h.startLine_mem hd)))).1
  have hmiddle : ∀ {k}, k ∈ ms → following ls k
      = if ms.getLast? = some k then (ls.filter (d.endLine < ·)).head? else following ms k := by
    intro k hk
    have hlines := h.lines_eq hd hb hsolo
    have hnodup := hb.ascending.nodup
    rw [hlines] at hnodup
    rw [← following_middle hnodup hk, ← hlines]
  constructor
  · intro hnext
    have hlt := following_lt hb.ascending hnext
    have hp := (mem_of_following hnext).1
    have hle : d.startLine ≤ p := by
      by_contra hlt
      have := following_le hb.ascending hnext hstart (by omega)
      omega
    rw [hmiddle (hmem.2 ⟨hp, hle, by omega⟩)] at hnext
    split at hnext
    · -- behind the last line of the function, the next one is below it
      have hbelow := List.mem_filter.1 (List.mem_of_mem_head? hnext)
      simp only [decide_eq_true_eq] at hbelow
      omega
    · exact hnext
  · intro hnext
    rw [hmiddle (mem_of_following hnext).1, if_neg, hnext]
    intro hgetLast
    rw [following_of_getLast? hsolo.ascending.nodup hgetLast] at hnext
    cases hnext

/-- The last line of a function that does not return early is a return. -/
theorem stops_endLine (h : Stretch decode d cs before own after) (hroot : root.Unbroken d)
    (hsolo : solo.Finishes (({} : Graph).replay own) ms) :
    d.endLine ∈ ms ∧ (solo.graph.kind? (.line d.endLine)).any BlockKind.fallsThrough = false := by
  obtain ⟨body, hbody⟩ := Option.isSome_iff_exists.1 hroot.hasBody
  have hreturns : Outline.returnLines body = [] := by
    rw [Outline.returnLines, List.map_eq_nil_iff, List.filter_eq_nil_iff]
    intro r hr hlabel
    refine hroot.returnless r ?_ (by simpa using hlabel)
    exact Node.mem_nodes_of_child (Node.child?_mem hbody) (Node.mem_nodes_of_statements hr)
  obtain ⟨hend, hkind⟩ := h.kind_endLine hroot.function hbody hreturns
  have hmem := (hsolo.mem_lines _).2 (Graph.contains_replay_empty.2 hend)
  obtain ⟨x, hx, hy⟩ := hsolo.exists_block hmem
  refine ⟨hmem, ?_⟩
  rw [Graph.kind?, hy]
  simp [hkind x hx, BlockKind.fallsThrough]

theorem kind?_eq (h : Stretch decode d cs before own after) (hcs : ({} : Graph).AdmitsAll cs)
    (hb : b.Finishes (({} : Graph).replay cs) ls)
    (hsolo : solo.Finishes (({} : Graph).replay own) ms) (hl : l ∈ ms) :
    b.graph.kind? (.line l) = solo.graph.kind? (.line l) := by
  obtain ⟨z, -, hz, hz'⟩ := h.exists_block hcs hb hsolo hl
  simp [Graph.kind?, hz, hz']

/-- The lines of the function have the same edges in the file and alone. -/
theorem leads_iff (h : Stretch decode d cs before own after) (hroot : root.Unbroken d)
    (hcs : ({} : Graph).AdmitsAll cs) (hb : b.Finishes (({} : Graph).replay cs) ls)
    (hsolo : solo.Finishes (({} : Graph).replay own) ms) {s t : Int} (hs : s ∈ ms) :
    b.Leads s t ↔ solo.Leads s t := by
  have hd := hroot.function
  have hmem : ∀ {k}, k ∈ ms ↔ k ∈ ls ∧ d.startLine ≤ k ∧ k ≤ d.endLine :=
    h.mem_solo_iff hd hb hsolo
  have hs' := hmem.1 hs
  have hown := Graph.contains_replay_empty.1 ((hsolo.mem_lines s).1 hs)
  refine hb.mem_successors_iff.trans (.trans ?_ hsolo.mem_successors_iff.symm)
  rw [h.get?_eq hcs hown, h.kind?_eq hcs hb hsolo hs, hb.infix_listing_iff,
    hsolo.infix_listing_iff]
  -- what the walk drew is the same, which leaves the default edges
  refine or_congr_right (and_congr_right fun hfalls => ?_)
  constructor
  · intro hnext
    have hlt := following_lt hb.ascending hnext
    -- the last line stops, so that `s` is above it, and so is what comes next
    obtain ⟨hend, hstops⟩ := h.stops_endLine hroot hsolo
    have hne : s ≠ d.endLine := by
      rintro rfl
      rw [hstops] at hfalls
      cases hfalls
    have hle := following_le hb.ascending hnext (hmem.1 hend).1 (by omega)
    exact (h.following_iff hd hb hsolo (by omega) hle).1 hnext
  · intro hnext
    have hlt := following_lt hsolo.ascending hnext
    have ht := (hmem.1 (mem_of_following hnext).2).2
    exact (h.following_iff hd hb hsolo (by omega) ht.2).2 hnext

/-- **A function that does not return early** has the blocks and edges in its file that it has
alone. -/
theorem agrees (h : Stretch decode d cs before own after) (hroot : root.Unbroken d)
    (hcs : ({} : Graph).AdmitsAll cs) (hb : b.Finishes (({} : Graph).replay cs) ls)
    (hsolo : solo.Finishes (({} : Graph).replay own) ms) : b.Agrees solo d where
  kind?_eq hl := h.kind?_eq hcs hb hsolo (hsolo.mem_listing.1 hl)
  infix_iff hfirst hlast := by
    rw [hb.infix_listing_iff, hsolo.infix_listing_iff,
      h.following_iff hroot.function hb hsolo hfirst hlast]
  leads_iff {s t} hfirst hlast := by
    by_cases hs : s ∈ ms
    · exact h.leads_iff hroot hcs hb hsolo hs
    · have hs' : s ∉ ls := fun hs' =>
        hs ((h.mem_solo_iff hroot.function hb hsolo).2 ⟨hs', hfirst, hlast⟩)
      exact iff_of_false (mt hb.mem_of_leads hs') (mt hsolo.mem_of_leads hs)
  inside {s t} hst := by
    have hmem : ∀ {k}, k ∈ ms → d.startLine ≤ k ∧ k ≤ d.endLine := fun hk =>
      ((h.mem_solo_iff hroot.function hb hsolo).1 hk).2
    refine ⟨hmem (hsolo.mem_of_leads hst), ?_⟩
    rcases hsolo.mem_successors_iff.1 hst with ⟨x, hx, hleads⟩ | ⟨-, hnext⟩
    · exact h.edge_between hx hleads
    · exact hmem (mem_of_following (hsolo.infix_listing_iff.1 hnext)).2

end Stretch

end

/-- **Blocks of a file** lie on the lines of the function or belong to another declaration. -/
theorem Visits.function_or_other {ε : Type} {decode : List UInt8 → Except ε String} {d : Node}
    (hfunction : d.label.isFunction) {ns : List Node} {w w' : Walk} {cs : List Change}
    (h : Visits decode (.nodes ns) w cs w') (hns : ∀ n ∈ ns, n.nested) (hw : w.scope.Outside) :
    ∀ c ∈ cs, d.startLine ≤ c.line ∧ c.line ≤ d.endLine ∨
      ∃ n ∈ ns, n ≠ d ∧ n.holdsConstruct ∧ n.startLine ≤ c.line ∧ c.line ≤ n.endLine + 1 := by
  induction ns generalizing w cs with
  | nil =>
    cases h
    simp
  | cons n ns ih =>
    cases h with
    | @cons _ _ _ ds w₁ es _ first rest =>
      intro c hc
      rcases List.mem_append.1 hc with hc | hc
      · by_cases hnd : n = d
        · subst hnd
          exact .inl (first.confined_function hfunction (hns n List.mem_cons_self) c hc)
        · have hrow : Visits decode (.nodes [n]) w (ds ++ []) w₁ := .cons first .nil
          obtain ⟨m, hm, hline⟩ := hrow.confined_row (by simpa using hns n List.mem_cons_self) hw c
            (by simpa using hc)
          obtain rfl := List.mem_singleton.1 hm
          exact .inr ⟨m, List.mem_cons_self, hnd, hline⟩
      · refine (ih rest (fun m hm => hns m (List.mem_cons_of_mem n hm)) (first.outside hw) c
          hc).imp_right ?_
        rintro ⟨m, hm, hline⟩
        exact ⟨m, List.mem_cons_of_mem n hm, hline⟩

/-- **Live code**: in the graph of a function whose body does not return, with every statement and
every closing brace on a line of its own, each block is reached from the entry or from a stranded
block, and none that is stranded is reached from the entry. All other blocks of the file belong to
other declarations. -/
theorem live_of_build {ε : Type} {decode : List UInt8 → Except ε String} {root d : Node} {b : Build}
    (hroot : root.Unbroken d) (hlayered : root.Layered) (hb : build decode root {} = .ok b) :
    b.graph.kind? (.line d.startLine) = some .functionEntry ∧
      (∀ l, .line l ∈ b.listing →
        (∃ s, (s = d.startLine ∨ b.Stranded d s) ∧ Relation.ReflTransGen b.Leads s l) ∨
        ∃ n ∈ root.named, n ≠ d ∧ n.holdsConstruct ∧ n.startLine ≤ l ∧ l ≤ n.endLine + 1) ∧
      ∀ l, b.Stranded d l → ¬ Relation.ReflTransGen b.Leads d.startLine l := by
  obtain ⟨cs, w, ls, hvisit, hcs, hfinish⟩ := finishes_of_build Graph.sound_empty hb
  have hfunction := hroot.function
  have hsoloTree := hroot.solo
  have hnested := hroot.nested_of_mem (hroot.mem_root d.mem_nodes_self)
  have hd : d ∈ root.named := List.mem_filter.2 ⟨hroot.declared, hroot.head_named⟩
  -- what holds of the declaration on its own carries over to the file, in which it is one stretch
  obtain ⟨before, own, after, hstretch⟩ := exists_stretch hlayered hvisit hd hfunction
  obtain ⟨u, hu⟩ := hstretch.alone
  have halone : Visits decode (.nodes (Node.mk root.head [d]).named) {} own u := by
    rw [hsoloTree.named_eq, ← List.append_nil own]
    exact .cons hu .nil
  obtain ⟨-, ms, hsolo⟩ := halone.finishes Graph.sound_empty
  have hwalked : u.finish.Walked decode (.mk root.head [d]) own ms :=
    ⟨⟨u, halone⟩, hstretch.admitted, hsolo⟩
  have hagrees := hstretch.agrees hroot hcs hfinish hsolo
  have hlines := Node.startLine_le_endLine hnested
  refine ⟨?_, fun l hl => ?_, fun l hl => ?_⟩
  · obtain ⟨hfirst, hkind⟩ := hwalked.kind_first hsoloTree
    obtain ⟨x, hx⟩ := hwalked.exists_block hfirst
    rw [hagrees.kind?_eq (hsolo.mem_listing.2 hfirst), hwalked.kind?_eq hx, hkind x hx]
  · have hl := hfinish.mem_listing.1 hl
    obtain ⟨kind, owner, hreg⟩ := mem_registeredBy.1
      (Graph.contains_replay_empty.1 ((hfinish.mem_lines l).1 hl))
    have hrow : ∀ n ∈ root.named, n.nested := fun n hn =>
      ((Node.between_self hlayered.nested).child (List.mem_filter.1 hn).1).nested
    refine (hvisit.function_or_other hfunction hrow ⟨rfl, rfl, rfl⟩ _ hreg).imp_left fun hline => ?_
    obtain ⟨s, hs, hreach⟩ := hwalked.exists_root hsoloTree
      ((hstretch.mem_solo_iff hfunction hfinish hsolo).2 ⟨hl, hline⟩)
    have hs' : d.startLine ≤ s ∧ s ≤ d.endLine := by
      rcases hs with rfl | hs
      · exact ⟨Int.le_refl _, hlines⟩
      · exact ⟨Int.le_of_lt hs.first_lt, hs.le_last⟩
    exact ⟨s, hs.imp_right (hagrees.stranded_iff hnested).2,
      (hagrees.reaches_iff hs'.1 hs'.2).2 hreach⟩
  · rw [hagrees.reaches_iff (Int.le_refl _) hlines]
    exact hwalked.not_reaches_stranded hsoloTree ((hagrees.stranded_iff hnested).1 hl)

/-- A function with a switch in a loop, and with a go statement behind an else and behind an if. -/
def relayFunction : Node :=
  .mk { label := .functionDeclaration, span := { startRow := 6, endRow := 20 } } [
    .mk { label := .block, span := { startRow := 6, endRow := 20 }, field := some .body } [
      .mk { label := .statementList, span := { startRow := 7, endRow := 19 } } [
        .mk { label := .forStatement, span := { startRow := 7, endRow := 12 } } [
          .mk { label := .block, span := { startRow := 7, endRow := 12 }, field := some .body } [
            .mk { label := .statementList, span := { startRow := 8, endRow := 11 } } [
              .mk { label := .expressionSwitch,
                    span := { startRow := 8, endRow := 11 } } [
                .mk { label := .expressionCase, span := { startRow := 9, endRow := 10 } } [
                  .mk { label := .colon, span := { startRow := 9, endRow := 9 },
                        named := false } [],
                  .mk { label := .statementList, span := { startRow := 10, endRow := 10 } } [
                    .mk { label := .goStatement,
                          span := { startRow := 10, endRow := 10 } } []]]]]]],
        .mk { label := .ifStatement, span := { startRow := 13, endRow := 17 } } [
          .mk { label := .other "identifier", span := { startRow := 13, endRow := 13 },
                field := some .condition } [],
          .mk { label := .block, span := { startRow := 13, endRow := 15 },
                field := some .consequence } [],
          .mk { label := .block, span := { startRow := 15, endRow := 17 },
                field := some .alternative } [
            .mk { label := .statementList, span := { startRow := 16, endRow := 16 } } [
              .mk { label := .goStatement, span := { startRow := 16, endRow := 16 } } []]]],
        .mk { label := .goStatement, span := { startRow := 19, endRow := 19 } } []]]]

/-- The function below a variable that holds a function literal. -/
def relayTree : Node :=
  .mk { label := .other "source_file", span := { startRow := 0, endRow := 21 } } [
    .mk { label := .other "var_declaration", span := { startRow := 2, endRow := 4 } } [
      .mk { label := .other "func_literal", span := { startRow := 2, endRow := 4 } } [
        .mk { label := .block, span := { startRow := 2, endRow := 4 }, field := some .body } [
          .mk { label := .goStatement, span := { startRow := 3, endRow := 3 } } []]]],
    relayFunction]

/-- The lines 17 and 20 are stranded. All others are reached from the entry on line 7, but for line
4, which is the variable's. -/
theorem live_of_build_relayTree :
    relayTree.Unbroken relayFunction ∧ relayTree.Layered ∧
      ∃ b, build (fun _ => (.ok "" : Except Empty String)) relayTree {} = .ok b ∧
        b.listing = [4, 7, 8, 9, 11, 14, 16, 17, 18, 20, 21].map .line ∧
        (∀ l, .line l ∈ b.listing →
          (∃ s, (s = 7 ∨ b.Stranded relayFunction s) ∧ Relation.ReflTransGen b.Leads s l) ∨
          ∃ n ∈ relayTree.named, n ≠ relayFunction ∧ n.holdsConstruct ∧ n.startLine ≤ l ∧
            l ≤ n.endLine + 1) ∧
        ∀ l ∈ [17, 20], ¬ Relation.ReflTransGen b.Leads 7 l := by
  have hroot : relayTree.Unbroken relayFunction :=
    { root_plain := rfl, top := by decide, leaf := by decide, fields := by decide,
      body := by decide, cond := by decide, loop := by decide, choice := by decide,
      nested := rfl, ordered := by decide, apart := by decide, braces := by decide,
      alternative := by decide, clause := by decide, loopBody := by decide,
      declared := .tail _ (.head _), function := rfl, hasBody := rfl, partFields := by decide,
      returnless := by decide,
      bare := fun n hn c hc => List.isEmpty_iff.1 ((by decide : ∀ n ∈ relayFunction.nodes,
        ∀ c ∈ n.aside, c.constructs.isEmpty) n hn c hc),
      first_lt_last := by decide, consequence := by decide, elsePart := by decide,
      clauseBelow := by decide }
  have hlayered : relayTree.Layered := ⟨by decide, by decide⟩
  have hbuild : ∃ b, build (fun _ => (.ok "" : Except Empty String)) relayTree {} = .ok b ∧
      b.listing = [4, 7, 8, 9, 11, 14, 16, 17, 18, 20, 21].map .line ∧
      b.Stranded relayFunction 17 ∧ b.Stranded relayFunction 20 :=
    ⟨_, rfl, rfl,
      ⟨by decide, by decide, by decide +kernel, 16, by decide +kernel, by decide +kernel⟩,
      ⟨by decide, by decide, by decide +kernel, 18, by decide +kernel, by decide +kernel⟩⟩
  obtain ⟨b, hb, hlisting, helse, hbehind⟩ := hbuild
  obtain ⟨-, hlive, hstranded⟩ := live_of_build hroot hlayered hb
  refine ⟨hroot, hlayered, b, hb, hlisting, hlive, fun l hl => ?_⟩
  rcases List.mem_cons.1 hl with rfl | hl
  · exact hstranded 17 helse
  · obtain rfl := List.mem_singleton.1 hl
    exact hstranded 20 hbehind

/-- Lines that no edge leaves. -/
theorem not_reaches_of_closed {b : Build} {s l : Int} {ts : List Int} (hs : s ∈ ts) (hl : l ∉ ts)
    (hts : ∀ t ∈ ts, b.graph.successors (.line t) ⊆ ts.map .line) :
    ¬ Relation.ReflTransGen b.Leads s l := by
  have hall : ∀ t, Relation.ReflTransGen b.Leads s t → t ∈ ts := by
    intro t ht
    induction ht with
    | refl => exact hs
    | tail _ hleads ih =>
      obtain ⟨u, hu, heq⟩ := List.mem_map.1 (hts _ ih hleads)
      exact Handle.line.inj heq ▸ hu
  exact fun hreach => hl (hall l hreach)

/-- A function with an if, a call, and a go statement. -/
def guardFunction : Node :=
  .mk { label := .functionDeclaration, span := { startRow := 2, endRow := 8 } } [
    .mk { label := .block, span := { startRow := 2, endRow := 8 }, field := some .body } [
      .mk { label := .statementList, span := { startRow := 3, endRow := 7 } } [
        .mk { label := .ifStatement, span := { startRow := 3, endRow := 5 } } [
          .mk { label := .other "identifier", span := { startRow := 3, endRow := 3 },
                field := some .condition } [],
          .mk { label := .block, span := { startRow := 3, endRow := 5 },
                field := some .consequence } [
            .mk { label := .statementList, span := { startRow := 4, endRow := 4 } } [
              .mk { label := .other "expression_statement",
                    span := { startRow := 4, endRow := 4 } } []]]],
        .mk { label := .other "expression_statement", span := { startRow := 6, endRow := 6 } } [],
        .mk { label := .goStatement, span := { startRow := 7, endRow := 7 } } []]]]

def guardTree : Node :=
  .mk { label := .other "source_file", span := { startRow := 0, endRow := 9 } } [
    .mk { label := .other "package_clause", span := { startRow := 0, endRow := 0 } } [],
    guardFunction]

/-- The if on line 4 leads to the ends of its paths on lines 6 and 7, and both of these to the
return on line 9: nothing leads to the go statement on line 8. -/
theorem not_reaches_guardTree :
    guardTree.Unbroken guardFunction ∧ guardTree.Layered ∧ guardTree.hasFault = false ∧
      (∀ n ∈ guardTree.nodes, n.label ∉ [.returnStatement, .other "break_statement",
        .other "continue_statement", .other "goto_statement", .other "fallthrough_statement",
        .other "func_literal"]) ∧
      ∃ b, build (fun _ => (.ok "" : Except Empty String)) guardTree {} = .ok b ∧
        b.graph.kind? (.line 3) = some .functionEntry ∧
        b.graph.kind? (.line 8) = some .goStatement ∧
        ¬ Relation.ReflTransGen b.Leads 3 8 := by
  have hroot : guardTree.Unbroken guardFunction :=
    { root_plain := rfl, top := by decide, leaf := by decide, fields := by decide,
      body := by decide, cond := by decide, loop := by decide, choice := by decide,
      nested := rfl, ordered := by decide, apart := by decide, braces := by decide,
      alternative := by decide, clause := by decide, loopBody := by decide,
      declared := .tail _ (.head _), function := rfl, hasBody := rfl, partFields := by decide,
      returnless := by decide,
      bare := fun n hn c hc => List.isEmpty_iff.1 ((by decide : ∀ n ∈ guardFunction.nodes,
        ∀ c ∈ n.aside, c.constructs.isEmpty) n hn c hc),
      first_lt_last := by decide, consequence := by decide, elsePart := by decide,
      clauseBelow := by decide }
  refine ⟨hroot, ⟨by decide, by decide⟩, rfl, by decide, _, rfl, by decide, by decide, ?_⟩
  exact @not_reaches_of_closed _ 3 8 [3, 4, 6, 7, 9] (by decide) (by decide) (by decide)

end GoFlow
