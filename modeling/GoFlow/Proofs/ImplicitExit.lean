import GoFlow.Proofs.Ownership
import GoFlow.Proofs.Paths

/-!
# The implicit exit

A function without a return among its statements is left on its last line. The line is registered
before the body is walked, so that the statements of the body can lead to it. They may also take it
over: the false path of an if ends there, or a loop, or a clause. Behind the body it is registered
once more, which drops what the line leads to, but not what leads to the line.

- `Build.ExitsBy`: the block by which a declaration is left.
-/

namespace GoFlow

section

variable {ε : Type} {decode : List UInt8 → Except ε String} {root n body : Node} {b : Build}

/-- The declaration `n` is left by the block `x`: a return on the last line of the declaration, the
last of all blocks on its lines. -/
structure Build.ExitsBy (decode : List UInt8 → Except ε String) (b : Build) (n : Node) (x : Block) :
    Prop where
  mem : x ∈ b.blocks
  endLine : x.endLine = n.endLine
  kind : x.kind = .returnStatement
  named : Names decode (some n) x.owner
  edges : x.edges = []
  last : ∀ y ∈ b.blocks, n.startLine ≤ y.endLine → y.endLine ≤ n.endLine →
    y = x ∨ y.endLine < x.endLine

/-- The block on the last line of a function without returns. -/
theorem Stretch.exists_exitsBy {cs before own after : List Change} {ls : List Int}
    (h : Stretch decode n cs before own after) (hfinish : b.Finishes (({} : Graph).replay cs) ls)
    (hcs : ({} : Graph).AdmitsAll cs) (hfunction : n.label.isFunction)
    (hbody : n.child? .body = some body) (hreturns : Outline.returnLines body = []) :
    ∃ x, b.ExitsBy decode n x := by
  obtain ⟨pre, name, rfl, hname⟩ := h.exists_close hfunction hbody hreturns
  obtain rfl : cs = (before ++ pre) ++ .register n.endLine .returnStatement name :: after := by
    simp [h.eq]
  -- what comes behind the declaration keeps off its last line
  have hoff : ∀ c ∈ after, c.line ≠ n.endLine := fun c hc => by
    have hgt := h.after_gt c hc
    omega
  have hafter : n.endLine ∉ registeredBy after := fun hmem => by
    obtain ⟨kind, owner, hreg⟩ := mem_registeredBy.1 hmem
    exact hoff _ hreg rfl
  obtain ⟨x, hx, hline⟩ := hfinish.exists_of_registered (show n.endLine ∈ registeredBy _ by simp)
  have hget : b.graph.get? (.line n.endLine) = some x := by
    rw [← hline]
    exact (hfinish.mem_blocks hx).2
  obtain ⟨hkind, howner, hleads⟩ := hfinish.of_last_register Graph.sound_empty hcs hafter hget
  refine ⟨x, hx, hline, hkind, ?_, ?_, fun y hy _ hle => ?_⟩
  · rw [howner]
    exact hname
  · by_contra hedges
    obtain ⟨t, ht⟩ := (hfinish.sound.block hget).exists_leadsTo hedges
    rcases (hleads t).1 ht with ⟨hfalls, -⟩ | hlink
    · cases hfalls
    · exact hoff _ hlink rfl
  · rcases Int.lt_or_eq_of_le hle with hlt | heq
    · exact .inr (hline ▸ hlt)
    · have hget' := (hfinish.mem_blocks hy).2
      rw [heq, hget] at hget'
      exact .inl (Option.some.inj hget').symm

/-- **The implicit exit survives.** Take a file whose rows are nested and whose children lie on
lines of their own. A function or method with a body that has no return among its statements is
left, in the finished graph, by a return on its last line, which carries its name, leads nowhere,
and is the last block on its lines. Whatever was given an edge to that line during the walk, and was
not registered afterwards, still leads to it. -/
theorem exitsBy_of_build (hroot : root.Layered) (hb : build decode root {} = .ok b)
    (hn : n ∈ root.named) (hfunction : n.label.isFunction) (hbody : n.child? .body = some body)
    (hopen : ∀ s ∈ body.statements, s.label ≠ .returnStatement) :
    (∃ x, b.ExitsBy decode n x) ∧
      ∀ cs w, Visits decode (.nodes root.named) {} cs w →
        b = w.finish ∧ ∀ s, Draws cs s n.endLine → b.Leads s n.endLine := by
  have hreturns : Outline.returnLines body = [] := by
    simpa [Outline.returnLines] using hopen
  constructor
  · obtain ⟨cs, w, ls, hvisit, hcs, hfinish⟩ := finishes_of_build Graph.sound_empty hb
    obtain ⟨before, own, after, hstretch⟩ := exists_stretch hroot hvisit hn hfunction
    exact hstretch.exists_exitsBy hfinish hcs hfunction hbody hreturns
  · intro cs w hvisit
    obtain rfl : w.finish = b :=
      Except.ok.inj ((build_eq_ok_iff.2 ⟨cs, w, hvisit, rfl⟩).symm.trans hb)
    obtain ⟨hcs, ls, hfinish⟩ := hvisit.finishes Graph.sound_empty
    exact ⟨rfl, fun s => hfinish.leads_of_draws hcs⟩

/-- A function on lines 3 to 8 that ends with an if, so that the false path lands on line 8. -/
def trailingIf : Node :=
  .mk { label := .functionDeclaration, span := { startRow := 2, endRow := 7 } } [
    .mk { label := .other "identifier", span := { startRow := 2, endRow := 2 },
          field := some .name, text := some [102] } [],
    .mk { label := .block, span := { startRow := 2, endRow := 7 }, field := some .body } [
      .mk { label := .ifStatement, span := { startRow := 4, endRow := 6 } } [
        .mk { label := .block, span := { startRow := 4, endRow := 6 },
              field := some .consequence } []]]]

/-- The function, with a comment on its last line, above a method. -/
def trailingFile : Node :=
  .mk { label := .other "source_file", span := { startRow := 0, endRow := 10 } } [
    trailingIf,
    .mk { label := .comment, span := { startRow := 7, endRow := 7 } } [],
    .mk { label := .methodDeclaration, span := { startRow := 8, endRow := 9 } } [
      .mk { label := .block, span := { startRow := 8, endRow := 9 }, field := some .body } []]]

/-- The if and its false path lead to line 8, which the false path had taken over. -/
theorem exitsBy_of_build_trailingFile :
    trailingFile.Layered ∧ trailingIf ∈ trailingFile.named ∧
      (∃ body, trailingIf.child? .body = some body ∧
        ∀ s ∈ body.statements, s.label ≠ .returnStatement) ∧
      ∃ b, build spell trailingFile {} = .ok b ∧
        (∃ x, b.ExitsBy spell trailingIf x) ∧ b.Leads 5 8 ∧ b.Leads 7 8 ∧
        ∀ cs w, Visits spell (.nodes trailingFile.named) {} cs w →
          b = w.finish ∧ ∀ s, Draws cs s 8 → b.Leads s 8 := by
  have hlayered : trailingFile.Layered := ⟨by decide, by decide⟩
  have hbuild : ∃ b, build spell trailingFile {} = .ok b ∧
      .line 8 ∈ b.graph.successors (.line 5) ∧ .line 8 ∈ b.graph.successors (.line 7) :=
    ⟨_, rfl, by decide, by decide⟩
  obtain ⟨b, hb, hcond, hpath⟩ := hbuild
  obtain ⟨hexit, hkept⟩ :=
    exitsBy_of_build hlayered hb (.head _ : trailingIf ∈ trailingFile.named) rfl rfl (by decide)
  exact ⟨hlayered, .head _, ⟨_, rfl, by decide⟩, b, hb, hexit, hcond, hpath, hkept⟩

end

end GoFlow
