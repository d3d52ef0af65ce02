import GoFlow.Proofs.Integrity
import GoFlow.Proofs.Occurrence
import GoFlow.Proofs.Settled

/-!
# The edges that a kind owes

A line may be taken over any number of times, and every time its edges are gone. Still, whichever
construct took a line over last has added its own edges since: the kind that a block is left with
says which edges it has.

- `Owed`: the edges that the kind of a block promises.
- `Settled`: in a list of changes, the last registration of each line is followed by the edges that
  its kind owes.
- `Scope.Follows`: the scope refers to the function and the loop that the tree has around a node.
- `Visit.Settles`, `Visits.settled`: a visit in its own context settles, construct by construct.
-/

namespace GoFlow

/-! ## What is owed -/

namespace Context

/-- The line on which the false path of an if ends: the last line of its alternative, or else the
line after its consequence, but not behind the end of the function. -/
def elseEnd (ctx : Context) (n : Node) : Int :=
  match n.child? .alternative with
  | some a => a.endLine
  | none => ctx.function.elim (((n.child? .consequence).getD n).endLine + 1) fun f =>
      min (((n.child? .consequence).getD n).endLine + 1) f.endLine

/-- The lines that a path may leave to: a return of the same function and loop, the header of the
loop around, or, outside loops, the last line of a function that has no return among its
statements. -/
def ExitsTo (root : Node) (ctx : Context) (t : Int) : Prop :=
  (∃ r, (ctx, r) ∈ root.occurrences ∧ r.label = .returnStatement ∧ r.startLine = t) ∨
    (∃ n ∈ ctx.loop, n.startLine = t) ∨
    (ctx.loop = none ∧ ∃ f ∈ ctx.function, ∃ body ∈ f.child? .body,
      Outline.returnLines body = [] ∧ f.endLine = t)

end Context

/-- The lines that a switch or select leads to: its clauses, the returns among their statements,
and the loop around it. -/
structure Branches (form : Choice) (ctx : Context) (n : Node) (has : Int → Prop) : Prop where
  clauses : ∀ k ∈ n.clauses, has (Outline.clauseEntry form k).1
  returns : ∀ k ∈ n.clauses, ∀ s ∈ k.clauseBody, s.label = .returnStatement → has s.startLine
  loop : ∀ f ∈ ctx.loop, has f.startLine

/-- What the kind of the block on a line promises about the lines `has` that the block leads to. -/
def Owed (root : Node) (kind : BlockKind) (l : Int) (has : Int → Prop) : Prop :=
  match kind with
  | .ifCondition => ∃ o ∈ root.occurrences, o.2.label = .ifStatement ∧ o.2.startLine = l ∧
      has (o.1.elseEnd o.2)
  | .switchStatement | .selectStatement => ∃ o ∈ root.occurrences, ∃ form,
      o.2.label.choice? = some form ∧ form.kind = kind ∧ o.2.startLine = l ∧
      Branches form o.1 o.2 has
  | .forStatement => ∃ o ∈ root.occurrences, o.2.label = .forStatement ∧ o.2.startLine = l ∧
      ∃ t, o.1.ExitsTo root t ∧ has t
  | _ => True

/-- A switch that branches into its clauses does so with more edges, too. -/
theorem Branches.mono {form : Choice} {ctx : Context} {n : Node} {has has' : Int → Prop}
    (h : Branches form ctx n has) (hhas : ∀ t, has t → has' t) : Branches form ctx n has' :=
  ⟨fun k hk => hhas _ (h.clauses k hk), fun k hk s hs hr => hhas _ (h.returns k hk s hs hr),
    fun f hf => hhas _ (h.loop f hf)⟩

/-- What is owed is paid with more edges, too. -/
theorem Owed.mono {root : Node} {kind : BlockKind} {l : Int} {has has' : Int → Prop}
    (h : Owed root kind l has) (hhas : ∀ t, has t → has' t) : Owed root kind l has' := by
  unfold Owed at h ⊢
  split at h
  · obtain ⟨o, ho, hlabel, hl, h⟩ := h
    exact ⟨o, ho, hlabel, hl, hhas _ h⟩
  · obtain ⟨o, ho, form, hform, hkind, hl, h⟩ := h
    exact ⟨o, ho, form, hform, hkind, hl, h.mono hhas⟩
  · obtain ⟨o, ho, form, hform, hkind, hl, h⟩ := h
    exact ⟨o, ho, form, hform, hkind, hl, h.mono hhas⟩
  · obtain ⟨o, ho, hlabel, hl, t, ht, h⟩ := h
    exact ⟨o, ho, hlabel, hl, t, ht, hhas t h⟩
  · trivial

/-- The promise that every block has the edges of its kind. -/
def owedPromise (root : Node) : Promise := ⟨Owed root, Owed.mono⟩

/-- Behind every registration in the list, unless the line is registered again, come the edges that
the kind owes. -/
abbrev Settled (root : Node) : List Change → Prop := (owedPromise root).Kept

/-! ## Members of a visit -/

namespace Visits

variable {ε : Type} {decode : List UInt8 → Except ε String}
variable {w w' : Walk} {cs : List Change}

/-- A return leads from the switch around it. -/
theorem link_of_return {n : Node} (h : Visits decode (.node n) w cs w')
    (hn : n.label = .returnStatement) {l : Int} (hl : w.scope.switchHeader = some l) :
    .link l n.startLine ∈ cs := by
  cases h with
  | ret => simp [Walk.returnChanges, mem_linksFrom, hl]
  | other label => rw [hn] at label; cases label
  | prototype label => rw [hn] at label; cases label
  | function label => rw [hn] at label; cases label
  | spawn label => rw [hn] at label; cases label
  | cond label => rw [hn] at label; cases label
  | loop label => rw [hn] at label; cases label
  | choice label => rw [hn] at label; cases label

/-- A visit to the clauses of a switch leads from the switch to each of them, and to the returns
among their statements. -/
theorem link_of_clause {form : Choice} {ks : List Node}
    (h : Visits decode (.clauses form ks) w cs w') {l : Int}
    (hl : w.scope.switchHeader = some l) {k : Node} (hk : k ∈ ks) :
    .link l (Outline.clauseEntry form k).1 ∈ cs ∧
      ∀ s ∈ k.clauseBody, s.label = .returnStatement → .link l s.startLine ∈ cs := by
  induction ks generalizing w cs with
  | nil => cases hk
  | cons k' ks ih =>
    cases h with
    | clause body rest =>
      rcases List.mem_cons.1 hk with rfl | hk
      · constructor
        · simp [Walk.clauseChanges, mem_linksFrom, hl]
        · intro s hs hlabel
          obtain ⟨u, ds, u', hu, hds, hscope⟩ := body.node_of_mem hs
          have hlink := hu.link_of_return hlabel (hscope.trans (by simpa using hl))
          simp [hds hlink]
      · obtain ⟨hentry, hreturns⟩ := ih rest (by simpa using hl) hk
        exact ⟨by simp [hentry], fun s hs hlabel => by simp [hreturns s hs hlabel]⟩

end Visits

/-! ## Scopes follow contexts -/

/-- The scope of a walk refers to what the tree has around a node. -/
structure Scope.Follows (root : Node) (ctx : Context) (s : Scope) : Prop where
  functionEnd : s.functionEnd = ctx.function.map Node.endLine
  loopHeader : s.loopHeader = ctx.loop.map Node.startLine
  returnTarget : ctx.function.isSome → ∃ t, s.returnTarget = some t ∧ ctx.ExitsTo root t

/-- Where the function ends is all that the end of a false path takes from the context. -/
theorem Scope.elseEnd_of_functionEnd {s : Scope} {ctx : Context}
    (h : s.functionEnd = ctx.function.map Node.endLine) (n : Node) :
    s.elseEnd n = ctx.elseEnd n := by
  rw [Scope.elseEnd, Context.elseEnd, Outline.falsePath]
  cases n.child? .alternative with
  | some a => rfl
  | none =>
    show Walk.falseEnd s _ none = _
    rw [Walk.falseEnd, h]
    cases ctx.function with
    | none => rfl
    | some f =>
      generalize ((n.child? .consequence).getD n).endLine + 1 = after
      show (if after > f.endLine then f.endLine else after) = min after f.endLine
      omega

namespace Scope.Follows

variable {root : Node} {ctx : Context} {s : Scope}

/-- A scope that follows the context ends false paths where the context does. -/
theorem elseEnd_eq (h : s.Follows root ctx) (n : Node) : s.elseEnd n = ctx.elseEnd n :=
  Scope.elseEnd_of_functionEnd h.functionEnd n

/-- A return that the walk passes becomes the return target. -/
theorem aimAt (h : s.Follows root ctx) {t : Int} (ht : ctx.ExitsTo root t) :
    Scope.Follows root ctx { s with returnTarget := some t } :=
  ⟨h.functionEnd, h.loopHeader, fun _ => ⟨t, rfl, ht⟩⟩

/-- The scope in the body of a loop. -/
theorem enterLoop (h : s.Follows root ctx) {n : Node} (hn : n.label = .forStatement) :
    Scope.Follows root (ctx.inside n)
      { s with returnTarget := some n.startLine, loopHeader := some n.startLine } := by
  have hinside : ctx.inside n = { ctx with loop := some n } := by
    simp [Context.inside, hn, Label.isFunction]
  rw [hinside]
  exact ⟨h.functionEnd, rfl, fun _ => ⟨_, rfl, .inr (.inl ⟨n, rfl, rfl⟩)⟩⟩

/-- The scope in the body of a function: it ends where the last return among its statements begins,
or on the last line. -/
theorem enterFunction {n body : Node} (hn : n.label.isFunction) (hbody : n.child? .body = some body)
    (hstatements : ∀ r ∈ body.statements, (ctx.inside n, r) ∈ root.occurrences) (name : String) :
    Scope.Follows root (ctx.inside n)
      { function := name, functionEnd := some n.endLine,
        returnTarget := some ((Outline.returnLines body).getLast?.getD n.endLine) } := by
  have hinside : ctx.inside n = { function := some n } := by simp [Context.inside, hn]
  refine ⟨by rw [hinside]; rfl, by rw [hinside]; rfl, fun _ => ⟨_, rfl, ?_⟩⟩
  cases hlast : (Outline.returnLines body).getLast? with
  | none =>
    rw [hinside]
    exact .inr (.inr ⟨rfl, n, rfl, body, hbody, List.getLast?_eq_none_iff.1 hlast, rfl⟩)
  | some t =>
    obtain ⟨r, hr, rfl⟩ := List.mem_map.1 (List.mem_of_getLast? hlast)
    obtain ⟨hr, hlabel⟩ := List.mem_filter.1 hr
    exact .inl ⟨r, hstatements r hr, by simpa using hlabel, rfl⟩

end Scope.Follows

/-- Whether the nodes that a visit goes to occur in the context. -/
def Visit.Within (root : Node) (ctx : Context) : Visit → Prop
  | .node n => (ctx, n) ∈ root.occurrences
  | .nodes ns => ∀ n ∈ ns, (ctx, n) ∈ root.occurrences
  | .clauses _ ks => ∀ k ∈ ks, ∀ s ∈ k.clauseBody, (ctx, s) ∈ root.occurrences

namespace Node.Placed

variable {root n : Node} {ctx : Context}

/-- The root is no loop either, as a loop stands in a function. -/
theorem root_opens (hroot : root.Placed) : root.label.opens = false := by
  have hloop : root.label ≠ .forStatement := by
    intro hlabel
    have hfunction := hroot.inFunction _ (Node.mem_occurrencesFrom_self {} root)
      (by rw [hlabel]; rfl) (by rw [hlabel]; rfl)
    cases hfunction
  simp [Label.opens, hroot.root_plain, hloop]

/-- The statements of a part of an if occur in the context of the if. -/
theorem statementsUnder_within (hroot : root.Placed) (hn : (ctx, n) ∈ root.occurrences)
    (hlabel : n.label = .ifStatement) :
    Visit.Within root ctx (.nodes (n.statementsUnder .consequence)) := by
  intro s hs
  obtain ⟨c, hc, hs⟩ := Node.mem_statementsUnder hs
  have hplain : c.label.opens = false := hroot.ifPart _ hn hlabel .consequence (by simp) c hc
  have hc' := Node.occurrences_plain hn (by rw [hlabel]; rfl) (Node.child?_mem hc)
  exact Node.occurrences_listed hc' hplain (Node.mem_statements hs)

/-- So do the named children of its initializer and of its condition. -/
theorem header_within (hroot : root.Placed) (hn : (ctx, n) ∈ root.occurrences)
    (hlabel : n.label = .ifStatement) :
    Visit.Within root ctx (.nodes (n.namedUnder .initializer ++ n.namedUnder .condition)) := by
  have hpart : ∀ f ∈ [Field.consequence, .initializer, .condition], ∀ s ∈ n.namedUnder f,
      (ctx, s) ∈ root.occurrences := by
    intro f hf s hs
    obtain ⟨c, hc, hs⟩ := Node.mem_namedUnder hs
    have hc' := Node.occurrences_plain hn (by rw [hlabel]; rfl) (Node.child?_mem hc)
    exact Node.occurrences_plain hc' (hroot.ifPart _ hn hlabel f hf c hc) hs
  intro s hs
  rcases List.mem_append.1 hs with hs | hs
  · exact hpart .initializer (by simp) s hs
  · exact hpart .condition (by simp) s hs

/-- The header of a loop occurs in the context of the loop, since the body is a block. -/
theorem loopHeader_within (hroot : root.Placed) (hn : (ctx, n) ∈ root.occurrences)
    (hlabel : n.label = .forStatement) : Visit.Within root ctx (.nodes n.headerParts) := by
  intro s hs
  obtain ⟨hs, hpart⟩ := List.mem_filter.1 hs
  refine Node.occurrences_child hn hs fun hbody => ?_
  have hblock : s.label = .block := hroot.loopBody _ hn hlabel s hbody
  simp [Outline.isHeaderPart, hblock] at hpart

/-- The statements of the body occur in the context of the body. -/
theorem loopBody_within (hroot : root.Placed) (hn : (ctx, n) ∈ root.occurrences)
    (hlabel : n.label = .forStatement) :
    Visit.Within root (ctx.inside n) (.nodes (n.statementsUnder .body)) := by
  intro s hs
  obtain ⟨c, hc, hs⟩ := Node.mem_statementsUnder hs
  have hblock : c.label = .block := hroot.loopBody _ hn hlabel c hc
  exact Node.occurrences_listed (Node.occurrences_body hn hc) (by rw [hblock]; rfl)
    (Node.mem_statements hs)

/-- The statements of a function occur in the context of its body. -/
theorem functionBody_within (hroot : root.Placed) (hn : (ctx, n) ∈ root.occurrences)
    (hlabel : n.label.isFunction) {body : Node} (hbody : n.child? .body = some body) :
    Visit.Within root (ctx.inside n) (.nodes body.statements) := by
  intro s hs
  exact Node.occurrences_listed (Node.occurrences_body hn hbody)
    (hroot.functionBody _ hn hlabel body hbody) (Node.mem_statements hs)

end Node.Placed

/-- The statements of the clauses of a switch occur in the context of the switch. -/
theorem clauses_within {root n : Node} {ctx : Context} (hn : (ctx, n) ∈ root.occurrences)
    (hopens : n.label.opens = false) (form : Choice) :
    Visit.Within root ctx (.clauses form n.clauses) := by
  intro k hk s hs
  obtain ⟨hk, hclause⟩ := List.mem_filter.1 hk
  have hplain : k.label.opens = false := by
    simp only [Node.isClause, Bool.and_eq_true] at hclause
    cases hlabel : k.label <;> simp_all [Label.isClause, Label.opens, Label.isFunction]
  exact Node.occurrences_listed (Node.occurrences_plain hn hopens hk) hplain
    (Node.mem_clauseBody hs)

/-- What a node that opens nothing holds stands in the context of the node. -/
theorem named_within {root n : Node} {ctx : Context} (hn : (ctx, n) ∈ root.occurrences)
    (hopens : n.label.opens = false) : Visit.Within root ctx (.nodes n.named) :=
  fun _ hs => Node.occurrences_plain hn hopens (List.mem_filter.1 hs).1

theorem opens_of_not_construct {l : Label} (h : l.isConstruct = false) : l.opens = false := by
  cases l <;> first | rfl | cases h

theorem opens_of_choice {l : Label} {form : Choice} (h : l.choice? = some form) :
    l.opens = false := by
  cases l <;> first | rfl | cases h

/-! ## Visits settle -/

/-- In its own context, the visit leaves every line that it registered with the edges that the line
owes, and the scope goes on following the context. -/
def Visit.Settles (root : Node) (v : Visit) (w : Walk) (cs : List Change) (w' : Walk) : Prop :=
  ∀ {ctx : Context}, v.Within root ctx → w.scope.Follows root ctx →
    Settled root cs ∧ w'.scope.Follows root ctx

namespace Visits

variable {ε : Type} {decode : List UInt8 → Except ε String} {root : Node}
variable {v : Visit} {w w' : Walk} {cs : List Change}

/-- The blocks of an if and of what it holds. Of its three blocks only the first owes an edge, and
gets it at once. -/
theorem settles_cond {n : Node} {w₁ w₂ w₃ : Walk} {cs ds es : List Change} (hroot : root.Placed)
    (label : n.label = .ifStatement)
    (ih₁ : (Visit.nodes (n.statementsUnder .consequence)).Settles root
      (w.enterCond n.startLine (Outline.falsePath n).1 (w.scope.elseEnd n)) cs w₁)
    (ih₂ : (Visit.nodes (n.namedUnder .initializer ++ n.namedUnder .condition)).Settles root
      (w₁.leaveCond (Outline.falsePath n).1 (w.scope.elseEnd n)) ds w₂)
    (ih₃ : (Visit.nodes (n.child? .alternative).toList).Settles root w₂ es w₃) :
    (Visit.node n).Settles root w
      (Walk.condChanges w.scope n.startLine (Outline.falsePath n).1 (w.scope.elseEnd n)
        ++ (cs ++ (Walk.falsePathChanges w₁.scope (Outline.falsePath n).1 (w.scope.elseEnd n)
          ++ (ds ++ es)))) w₃ := by
  intro ctx hn hs
  have halternative : Visit.Within root ctx (.nodes (n.child? .alternative).toList) := fun a ha =>
    Node.occurrences_plain hn (by rw [label]; rfl) (Node.child?_mem (Option.mem_toList.1 ha))
  obtain ⟨hcs, hs₁⟩ := ih₁ (hroot.statementsUnder_within hn label) hs
  obtain ⟨hds, hs₂⟩ := ih₂ (hroot.header_within hn label) (by
    rw [Walk.scope_leaveCond]
    exact hs₁)
  obtain ⟨hes, hs₃⟩ := ih₃ halternative hs₂
  have hcond : Settled root (Walk.condChanges w.scope n.startLine (Outline.falsePath n).1
      (w.scope.elseEnd n)) := by
    refine ⟨fun _ => ⟨(ctx, n), hn, label, rfl, ?_⟩, fun _ => trivial, fun _ => trivial, trivial⟩
    rw [← hs.elseEnd_eq]
    simp
  have hfalse : Settled root
      (Walk.falsePathChanges w₁.scope (Outline.falsePath n).1 (w.scope.elseEnd n)) :=
    Promise.kept_of_links (by simp [Walk.falsePathChanges])
  exact ⟨hcond.append (hcs.append (hfalse.append (hds.append hes))), hs₃⟩

/-- The blocks of a loop and of what it holds. It leaves to the return target of the scope around
it. -/
theorem settles_loop {n : Node} {w₁ w₂ : Walk} {cs ds : List Change} (hroot : root.Placed)
    (label : n.label = .forStatement) (header : Visits decode (.nodes n.headerParts) w cs w₁)
    (body : Visits decode (.nodes (n.statementsUnder .body))
      ((w₁.aimAt w.scope.returnTarget).enterLoop n.startLine) ds w₂)
    (ih₁ : (Visit.nodes n.headerParts).Settles root w cs w₁)
    (ih₂ : (Visit.nodes (n.statementsUnder .body)).Settles root
      ((w₁.aimAt w.scope.returnTarget).enterLoop n.startLine) ds w₂) :
    (Visit.node n).Settles root w
      (cs ++ (Walk.loopChanges w.scope n.startLine
        ++ (ds ++ w₂.loopEndChanges n.startLine n.endLine)))
      (w₂.leaveLoop n.startLine n.endLine w.scope) := by
  intro ctx hn hs
  have hfunction : ctx.function.isSome :=
    hroot.inFunction _ hn (by rw [label]; rfl) (by rw [label]; rfl)
  obtain ⟨t, ht, hexit⟩ := hs.returnTarget hfunction
  obtain ⟨hcs, -⟩ := ih₁ (hroot.loopHeader_within hn label) hs
  obtain ⟨hds, -⟩ := ih₂ (hroot.loopBody_within hn label) (by
    rw [Walk.scope_enterLoop, header.scope_aimAt]
    exact hs.enterLoop label)
  have hloop : Settled root (Walk.loopChanges w.scope n.startLine) := by
    refine ⟨fun _ => ⟨(ctx, n), hn, label, rfl, t, hexit, ?_⟩,
      Promise.kept_of_links (registeredBy_linksTo _ _)⟩
    exact mem_linksTo.2 ⟨t, ht, rfl⟩
  refine ⟨hcs.append (hloop.append (hds.append (Promise.kept_loopEnd _ trivial))), ?_⟩
  rw [header.scope_afterLoop body]
  exact hs

/-- What a switch or select owes, once its clauses are visited: the edge to the loop comes with the
block, the others with the clauses. -/
theorem branches_of_clauses {n : Node} {form : Choice} {ctx : Context} {s : Scope} {u u' : Walk}
    {ds : List Change} (hs : s.Follows root ctx)
    (parts : Visits decode (.clauses form n.clauses) u ds u')
    (hswitch : u.scope.switchHeader = some n.startLine) :
    Branches form ctx n fun t => .link n.startLine t ∈
      (linksFrom s.loopHeader n.startLine ++ linksTo n.startLine s.loopHeader
        ++ if form.linksReturn then linksTo n.startLine s.returnTarget else []) ++ ds := by
  refine ⟨fun k hk => ?_, fun k hk x hx hret => ?_, fun f hf => ?_⟩
  · exact List.mem_append_right _ (parts.link_of_clause hswitch hk).1
  · exact List.mem_append_right _ ((parts.link_of_clause hswitch hk).2 x hx hret)
  · have hheader : s.loopHeader = some f.startLine := by
      rw [hs.loopHeader, hf]
      rfl
    simp [mem_linksTo, hheader]

/-- The blocks of a switch or select and of what it holds. -/
theorem settles_choice {n : Node} {form : Choice} {w₁ w₂ : Walk} {cs ds : List Change}
    (label : n.label.choice? = some form)
    (header : Visits decode (.nodes n.headerParts) w cs w₁)
    (parts : Visits decode (.clauses form n.clauses)
      ((w₁.aimAt w.scope.returnTarget).enterChoice form n.startLine) ds w₂)
    (ih₁ : (Visit.nodes n.headerParts).Settles root w cs w₁)
    (ih₂ : (Visit.clauses form n.clauses).Settles root
      ((w₁.aimAt w.scope.returnTarget).enterChoice form n.startLine) ds w₂) :
    (Visit.node n).Settles root w (cs ++ (Walk.choiceChanges w.scope form n.startLine ++ ds))
      { w₂ with scope := { w₂.scope with switchHeader := w.scope.switchHeader } } := by
  intro ctx hn hs
  have hopens := opens_of_choice label
  have hheader : Visit.Within root ctx (.nodes n.headerParts) := fun c hc =>
    Node.occurrences_plain hn hopens (List.mem_filter.1 hc).1
  have hscope : ((w₁.aimAt w.scope.returnTarget).enterChoice form n.startLine).scope
      = { w.scope with switchHeader := some n.startLine } := by
    rw [Walk.scope_enterChoice, header.scope_aimAt]
  obtain ⟨hcs, -⟩ := ih₁ hheader hs
  obtain ⟨hds, hs₂⟩ := ih₂ (clauses_within hn hopens form) (by
    rw [hscope]
    exact ⟨hs.functionEnd, hs.loopHeader, hs.returnTarget⟩)
  refine ⟨hcs.append ?_, ⟨hs₂.functionEnd, hs₂.loopHeader, hs₂.returnTarget⟩⟩
  refine ⟨fun _ => ?_,
    Promise.Kept.append (Promise.kept_of_links (Walk.registeredBy_choiceLinks _ _ _)) hds⟩
  have hbranches := branches_of_clauses hs parts (by rw [hscope])
  have howed : form.kind = .switchStatement ∨ form.kind = .selectStatement := by
    cases form <;> simp [Choice.kind]
  rcases howed with hkind | hkind
  all_goals
    rw [hkind]
    exact ⟨(ctx, n), hn, form, label, hkind, rfl, hbranches⟩

/-- The block of a clause owes nothing, or is registered again by a statement of the clause when the
walk gets there. -/
theorem owed_clauseEntry {form : Choice} {k : Node} {u u' : Walk} {cs rest : List Change}
    {has : Int → Prop} (body : Visits decode (.nodes k.clauseBody) u cs u')
    (hsub : registeredBy cs ⊆ registeredBy rest)
    (hl : (Outline.clauseEntry form k).1 ∉ registeredBy rest) :
    (owedPromise root).owes (Outline.clauseEntry form k).2 (Outline.clauseEntry form k).1 has := by
  rcases clauseEntry_cases form k with ⟨s, hmem, hkind, hline⟩ | hentry
  · have hconstruct : s.label.isConstruct := by
      unfold Outline.lentKind? at hkind
      split at hkind <;> simp_all [Label.isConstruct, Label.isFunction, Label.choice?]
    refine absurd (hsub ?_) hl
    rw [hline]
    exact body.startLine_mem_of_mem hmem hconstruct
  · rw [hentry]
    cases form <;> exact trivial

/-- The blocks of clauses and of what they hold. -/
theorem settles_clause {form : Choice} {k : Node} {ks : List Node} {w₁ w₂ : Walk}
    {cs ds : List Change}
    (body : Visits decode (.nodes k.clauseBody)
      (w.enterClause (Outline.clauseEntry form k).1 (Outline.clauseEntry form k).2) cs w₁)
    (ih₁ : (Visit.nodes k.clauseBody).Settles root
      (w.enterClause (Outline.clauseEntry form k).1 (Outline.clauseEntry form k).2) cs w₁)
    (ih₂ : (Visit.clauses form ks).Settles root
      (w₁.leaveClause (Outline.clauseEntry form k).1 w.scope) ds w₂) :
    (Visit.clauses form (k :: ks)).Settles root w
      (Walk.clauseChanges w.scope (Outline.clauseEntry form k).1 (Outline.clauseEntry form k).2
        ++ (cs ++ (w₁.clauseEndChanges (Outline.clauseEntry form k).1 w.scope ++ ds))) w₂ := by
  intro ctx hks hs
  obtain ⟨hcs, hs₁⟩ := ih₁ (hks k List.mem_cons_self) (by
    rw [Walk.scope_enterClause]
    exact hs)
  obtain ⟨hds, hs₂⟩ := ih₂ (fun m hm => hks m (List.mem_cons_of_mem k hm)) (by
    rw [Walk.scope_leaveClause]
    exact ⟨hs₁.functionEnd, hs₁.loopHeader, hs.returnTarget⟩)
  refine ⟨⟨fun hl => ?_, ?_⟩, hs₂⟩
  · exact owed_clauseEntry body (fun l hmem => by simp [hmem]) hl
  · exact Promise.Kept.append (Promise.kept_of_links (by simp)) (hcs.append
      (Promise.Kept.append (Promise.kept_of_links (registeredBy_clauseEnd _ _ _)) hds))

/-- **Visits settle**: in its own context, a visit leaves every line that it registered with the
edges that the line owes, and the scope goes on following the context. -/
theorem settled (hroot : root.Placed) (h : Visits decode v w cs w') : v.Settles root w cs w' := by
  induction h with
  | other label _ ih =>
    intro ctx hn hs
    exact ih (named_within hn (opens_of_not_construct label)) hs
  | prototype =>
    intro ctx hn hs
    exact ⟨⟨fun _ => trivial, trivial⟩, hs⟩
  | @function n w body name cs w' label hbody _ _ ih =>
    intro ctx hn hs
    have hwithin := hroot.functionBody_within hn label hbody
    have hfollows := Scope.Follows.enterFunction label hbody hwithin name
    obtain ⟨hcs, -⟩ := ih hwithin (by rw [Walk.scope_foresee]; exact hfollows)
    refine ⟨⟨fun _ => trivial, ?_⟩, hs⟩
    exact (Promise.kept_foresee (fun _ _ => trivial) _ _ _).append
      (hcs.append (Promise.kept_close (fun _ _ => trivial) _ _ _))
  | @ret n w cs w' label _ ih =>
    intro ctx hn hs
    -- the return becomes the way out for the statements behind it
    have hexit : ctx.ExitsTo root n.startLine := .inl ⟨n, hn, label, rfl⟩
    obtain ⟨hcs, hs'⟩ := ih (named_within hn (by rw [label]; rfl))
      (by rw [Walk.scope_enterReturn]; exact hs.aimAt hexit)
    have hret : Settled root (Walk.returnChanges w.scope n.startLine) :=
      ⟨fun _ => trivial, Promise.kept_of_links (registeredBy_linksFrom _ _)⟩
    exact ⟨hret.append hcs, hs'⟩
  | spawn label _ ih =>
    intro ctx hn hs
    obtain ⟨hcs, hs'⟩ := ih (named_within hn (by rw [label]; rfl)) hs
    exact ⟨⟨fun _ => trivial, hcs⟩, hs'⟩
  | cond label _ _ _ ih₁ ih₂ ih₃ => exact settles_cond hroot label ih₁ ih₂ ih₃
  | loop label header body ih₁ ih₂ => exact settles_loop hroot label header body ih₁ ih₂
  | choice label header parts ih₁ ih₂ => exact settles_choice label header parts ih₁ ih₂
  | nil => exact fun _ hs => ⟨trivial, hs⟩
  | cons _ _ ih₁ ih₂ =>
    intro ctx hns hs
    obtain ⟨hcs, hs₁⟩ := ih₁ (hns _ List.mem_cons_self) hs
    obtain ⟨hds, hs₂⟩ := ih₂ (fun n hn => hns n (List.mem_cons_of_mem _ hn)) hs₁
    exact ⟨hcs.append hds, hs₂⟩
  | noClause => exact fun _ hs => ⟨trivial, hs⟩
  | clause body _ ih₁ ih₂ => exact settles_clause body ih₁ ih₂

end Visits

/-- **Edges owed by a surviving kind**: in a graph built from scratch, of a tree whose statements
stand in functions, every block that is left as an if leads past it; one that is left as a switch
or select leads to each of its clauses, to the returns among their statements and back to the loop
around it; and one that is left as a loop has a way out. -/
theorem owed_of_build {ε : Type} {decode : List UInt8 → Except ε String} {root : Node} {b : Build}
    (hroot : root.Placed) (hb : build decode root {} = .ok b) {l : Int} {x : Block}
    (hx : b.graph.get? (.line l) = some x) :
    Owed root x.kind l fun t => .line t ∈ b.graph.successors (.line l) := by
  obtain ⟨cs, w, ls, hvisit, hcs, hfinish⟩ := finishes_of_build Graph.sound_empty hb
  have hstart : Scope.Follows root {} {} := ⟨rfl, rfl, fun h => by cases h⟩
  obtain ⟨hsettled, -⟩ := hvisit.settled hroot
    (named_within (Node.mem_occurrencesFrom_self {} root) hroot.root_opens) hstart
  have hl : l ∈ ls := hfinish.contains_iff.1 (Graph.contains_iff.2 ⟨x, hx⟩)
  have hreg : l ∈ registeredBy cs := Graph.contains_replay_empty.1 ((hfinish.mem_lines l).1 hl)
  obtain ⟨y, hy, hy'⟩ := hfinish.exists_block hl
  obtain rfl := Option.some.inj (hy'.symm.trans hx)
  rw [Block.kind_fallInto]
  refine (hsettled.owed Graph.sound_empty hcs hreg hy).mono fun t ht => ?_
  exact hfinish.mem_successors_iff.2 (.inl ⟨y, hy, ht⟩)

/-- A function with a loop on lines 2 to 8 that holds a switch, one clause of which returns, and an
if with a loop of its own. -/
def sortingTree : Node :=
  .mk { label := .other "source_file" } [
    .mk { label := .functionDeclaration, span := { startRow := 0, endRow := 9 } } [
      .mk { label := .block, span := { startRow := 0, endRow := 9 }, field := some .body } [
        .mk { label := .forStatement, span := { startRow := 1, endRow := 7 } } [
          .mk { label := .block, span := { startRow := 1, endRow := 7 }, field := some .body } [
            .mk { label := .expressionSwitch, span := { startRow := 2, endRow := 4 } } [
              .mk { label := .expressionCase, span := { startRow := 3, endRow := 3 } } [
                .mk { label := .colon, span := { startRow := 3, endRow := 3 }, named := false } [],
                .mk { label := .returnStatement, span := { startRow := 3, endRow := 3 } } []],
              .mk { label := .defaultCase, span := { startRow := 4, endRow := 4 } } [
                .mk { label := .colon, span := { startRow := 4, endRow := 4 }, named := false }
                  []]],
            .mk { label := .ifStatement, span := { startRow := 5, endRow := 6 } } [
              .mk { label := .block, span := { startRow := 5, endRow := 6 },
                    field := some .consequence } [
                .mk { label := .forStatement, span := { startRow := 6, endRow := 6 } } []]]]]]]]

/-- The switch of the tree is left as one, so it has its edges. -/
theorem owed_of_build_sorting :
    sortingTree.Placed ∧
      ∃ b x, build (fun _ => (.ok "" : Except Empty String)) sortingTree {} = .ok b ∧
        b.graph.get? (.line 3) = some x ∧ x.kind = .switchStatement ∧
        Owed sortingTree x.kind 3 fun t => .line t ∈ b.graph.successors (.line 3) := by
  have hplaced : sortingTree.Placed :=
    ⟨⟨by decide, by decide⟩, by decide, by decide, by decide⟩
  have hbuild : ∃ b x, build (fun _ => (.ok "" : Except Empty String)) sortingTree {} = .ok b ∧
      b.graph.get? (.line 3) = some x ∧ x.kind = .switchStatement := ⟨_, _, rfl, rfl, rfl⟩
  obtain ⟨b, x, hb, hx, hkind⟩ := hbuild
  exact ⟨hplaced, b, x, hb, hx, hkind, owed_of_build hplaced hb hx⟩

/-- A function with an if whose consequence is itself a loop, with a switch in its body. -/
def loopAsBranch : Node :=
  .mk { label := .other "source_file" } [
    .mk { label := .functionDeclaration, span := { startRow := 0, endRow := 5 } } [
      .mk { label := .block, span := { startRow := 0, endRow := 5 }, field := some .body } [
        .mk { label := .ifStatement, span := { startRow := 1, endRow := 4 } } [
          .mk { label := .forStatement, span := { startRow := 1, endRow := 4 },
                field := some .consequence } [
            .mk { label := .block, span := { startRow := 1, endRow := 4 }, field := some .body } [
              .mk { label := .expressionSwitch, span := { startRow := 2, endRow := 3 } } []]]]]]]

/-- The walk goes past a loop that stands for a branch, so that its header is not known inside: the
switch is left without the edge back to the loop. -/
theorem not_owed_loopAsBranch :
    loopAsBranch.InFunctions ∧
      ∃ b x, build (fun _ => (.ok "" : Except Empty String)) loopAsBranch {} = .ok b ∧
        b.graph.get? (.line 3) = some x ∧ x.kind = .switchStatement ∧
        ¬ Owed loopAsBranch x.kind 3 fun t => .line t ∈ b.graph.successors (.line 3) := by
  have hloop : ∀ o ∈ loopAsBranch.occurrences, o.2.label.choice?.isSome →
      o.1.loop.map Node.startLine = some 2 := by decide
  refine ⟨⟨by decide, by decide⟩, _, _, rfl, rfl, rfl, ?_⟩
  rintro ⟨o, ho, form, hform, -, -, hbranches⟩
  obtain ⟨f, hf, hline⟩ := Option.map_eq_some_iff.1 (hloop o ho (by rw [hform]; rfl))
  have hback := hbranches.loop f hf
  rw [hline] at hback
  exact absurd hback (by decide)

end GoFlow
