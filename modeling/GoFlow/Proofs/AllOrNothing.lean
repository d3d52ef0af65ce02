import GoFlow.Proofs.Running

/-!
# All or nothing

Graphs are printed once every file has one, and not before.

- `Graph.escapeChar_not_mem_render`: the lines on a graph hold no escape sequences, so that printing
  leaves them as they are.
- `Invocation.Reaches.run_of_all`, `Invocation.Reaches.run_of_exists`: what a run comes to if every
  file has a graph, and if some file has none.
- `World.AllOrNothing`: what holds of the end of a run.
-/

namespace GoFlow

/-! ## The lines on a graph -/

theorem escapeChar_not_mem_toString (n : Int) : escapeChar ∉ (toString n).toList :=
  not_mem_toString (by decide) (by decide) n

/-- Behind its kind, a block is printed as digits and brackets, with nothing to escape. -/
theorem Block.escapeChar_not_mem_renderTail (b : Block) : escapeChar ∉ b.renderTail.toList := by
  have hname : escapeChar ∉ b.kind.name.toList := by
    cases b.kind <;> decide
  have hline := escapeChar_not_mem_toString b.endLine
  have hkey := escapeChar_not_mem_toString b.key
  unfold Block.renderTail Block.uid
  simp only [String.toList_append, List.mem_append, hname, hline, hkey, or_false, false_or]
  decide

/-- No line on a graph holds an escape sequence. -/
theorem Graph.escapeChar_not_mem_render {g : Graph} {hs : List Handle} {l : String}
    (hl : l ∈ g.render hs) : escapeChar ∉ l.toList := by
  obtain ⟨h, -, hl⟩ := List.mem_flatMap.1 hl
  rcases List.mem_append.1 hl with hl | hl
  · obtain ⟨b, -, rfl⟩ := Option.map_eq_some_iff.1 (Option.mem_toList.1 hl)
    have hnumber := escapeChar_not_mem_toString b.number
    have htail := b.escapeChar_not_mem_renderTail
    unfold Block.render
    simp only [String.toList_append, List.mem_append, hnumber, htail, or_false, false_or]
    decide
  · obtain ⟨t, -, hl⟩ := List.mem_filterMap.1 hl
    obtain ⟨b, -, rfl⟩ := Option.map_eq_some_iff.1 hl
    have hnumber := escapeChar_not_mem_toString b.number
    have htail := b.escapeChar_not_mem_renderTail
    unfold Block.renderSuccessor
    simp only [String.toList_append, List.mem_append, hnumber, htail, or_false]
    decide

/-- So they are printed as they stand. -/
theorem Terminal.EchoesPlain.map_render {t : Terminal} (ht : t.EchoesPlain) (g : Graph)
    (hs : List Handle) : (g.render hs).map t.echo = g.render hs := by
  have hkeep : ∀ l ∈ g.render hs, t.echo l = id l :=
    fun l hl => ht l (Graph.escapeChar_not_mem_render hl)
  rw [List.map_congr_left hkeep, List.map_id]

/-! ## Printing -/

theorem joinLines_append (ls ms : List String) :
    joinLines (ls ++ ms) = joinLines ls ++ joinLines ms := by
  simp [joinLines, String.join_append]

/-- Texts that can be printed are printed one behind the other. -/
theorem printAll_map_ok {α : Type} (f : α → List String) (xs : List α) :
    printAll (xs.map fun x => .ok (f x)) = (joinLines (xs.flatMap f), none) := by
  induction xs with
  | nil => rfl
  | cons x xs ih => rw [List.map_cons, printAll, ih, List.flatMap_cons, joinLines_append]

/-- The graph that an analysis came to. What stands for one that it did not come to does not
matter. -/
def Outcome.built (o : Outcome Build) : Build := o.result.toOption.getD ⟨{}, [], []⟩

/-- An outcome that is a success is one with what was built. -/
theorem Outcome.result_eq_built {o : Outcome Build} (h : o.result.toBool = true) :
    o.result = .ok o.built := by
  unfold Outcome.built
  cases hresult : o.result with
  | ok b => rfl
  | error f =>
    rw [hresult] at h
    cases h

/-- What a `blocks` command prints on a file that has a graph: the path, if there are other files,
and the lines on the graph. -/
def blockLines (terminal : Terminal) (several : Bool) (p : Path) (b : Build) : List String :=
  (if several then [terminal.echo ("# " ++ p.render)] else []) ++ b.graph.render b.listing

/-- On a terminal that echoes plain text, a trial that succeeds prints the lines of its blocks. -/
theorem Trial.lines_blocks {terminal : Terminal} (hecho : terminal.EchoesPlain) {several : Bool}
    {t : Trial} {b : Build} (h : t.outcome.result = .ok b) :
    t.lines terminal .blocks several = .ok (blockLines terminal several t.path b) := by
  unfold Trial.lines blockLines
  rw [h]
  dsimp only
  rw [List.map_append, hecho.map_render]
  cases several with
  | true => rfl
  | false => rfl

/-! ## Runs -/

section

variable {i : Invocation} {w : World} {settings : Settings} {names : List String}

/-- If every file may be read and has a graph, all are printed. -/
theorem Invocation.Reaches.run_of_all (h : i.Reaches w settings names) (hw : w.Regular)
    (hecho : w.terminal.EchoesPlain) (hcommand : i.command = .blocks) {built : String → Build}
    (hbuilt : ∀ name ∈ names, w.mayRead name = true ∧
      (w.analyse settings (.ofString name)).result = .ok (built name)) :
    (i.run w).code = 0 ∧
      (i.run w).out = joinLines (names.flatMap fun name =>
        blockLines w.terminal (names.length > 1) (.ofString name) (built name)) := by
  have hopen : refusal? w.mayRead names = none := by
    -- a name with a zero in it has no graph
    refine refusal?_eq_none.2 fun name hname => ⟨?_, (hbuilt name hname).1⟩
    rw [Bool.eq_false_iff]
    intro hzero
    obtain ⟨f, hf⟩ := hw.exists_fault settings hzero
    cases hf.symm.trans (hbuilt name hname).2
  have hsucceeded : ∀ p ∈ names.map Path.ofString,
      (Trial.mk p (w.analyse settings p)).succeeded = true := by
    intro p hp
    obtain ⟨name, hname, rfl⟩ := List.mem_map.1 hp
    unfold Trial.succeeded
    rw [(hbuilt name hname).2]
    rfl
  have htrials : trials w.terminal (w.analyse settings) (names.map Path.ofString)
      = names.map fun name => ⟨.ofString name, w.analyse settings (.ofString name)⟩ := by
    rw [trials_eq_map fun p hp => Trial.stop?_of_succeeded (hsucceeded p hp), List.map_map]
    rfl
  have hlines : ∀ name ∈ names,
      (Trial.mk (.ofString name) (w.analyse settings (.ofString name))).lines w.terminal .blocks
          (names.length > 1)
        = .ok (blockLines w.terminal (names.length > 1) (.ofString name) (built name)) :=
    fun name hname => Trial.lines_blocks hecho (hbuilt name hname).2
  obtain ⟨style, -, hrun⟩ := h.run_eq hopen
  rw [hrun, Invocation.conclude, if_pos (all_succeeded_trials.2 hsucceeded), htrials, hcommand,
    List.map_map, Function.comp_def, List.map_congr_left hlines, printAll_map_ok]
  exact ⟨rfl, rfl⟩

/-- If every file may be read and some file has no graph, nothing is printed. -/
theorem Invocation.Reaches.run_of_exists (h : i.Reaches w settings names)
    (hread : ∀ name ∈ names, w.mayRead name = true)
    (hfailed : ∃ name ∈ names, ∃ f, (w.analyse settings (.ofString name)).result = .error f) :
    (i.run w).code = 1 ∧ (i.run w).out = "" := by
  cases hexit : refusal? w.mayRead names with
  | some exit =>
    -- of the two reasons to end the run at once there is the character zero only
    rw [h.run_of_refusal hexit]
    rcases refusal?_cases hexit with ⟨rfl, -⟩ | ⟨-, name, hname, hnot⟩
    · exact ⟨rfl, rfl⟩
    · rw [hread name hname] at hnot
      cases hnot
  | none =>
    have hnot : ¬ (trials w.terminal (w.analyse settings) (names.map Path.ofString)).all
        Trial.succeeded = true := by
      obtain ⟨name, hname, f, hf⟩ := hfailed
      intro hall
      have hsucceeded := all_succeeded_trials.1 hall _ (List.mem_map_of_mem hname)
      unfold Trial.succeeded at hsucceeded
      rw [hf] at hsucceeded
      cases hsucceeded
    obtain ⟨style, -, hrun⟩ := h.run_eq hexit
    rw [hrun, Invocation.conclude, if_neg hnot]
    exact ⟨rfl, rfl⟩

/-- A file that is there and may not be read ends the run before any file is tried. -/
theorem Invocation.Reaches.run_of_locked (h : i.Reaches w settings names) {name : String}
    (hname : name ∈ names) (hlocked : w.mayRead name = false) :
    (i.run w).code ≠ 0 ∧ (i.run w).out = "" ∧
      ((∀ name ∈ names, holdsZero name = false) → i.run w = .usage) := by
  cases hexit : refusal? w.mayRead names with
  | none =>
    have hread := (refusal?_eq_none.1 hexit name hname).2
    rw [hlocked] at hread
    cases hread
  | some exit =>
    rw [h.run_of_refusal hexit]
    rcases refusal?_cases hexit with ⟨rfl, other, hother, hzero⟩ | ⟨rfl, -⟩
    · refine ⟨by decide, rfl, fun hnone => ?_⟩
      rw [hnone other hother] at hzero
      cases hzero
    · exact ⟨by decide, rfl, fun _ => rfl⟩

/-- So the run fails and nothing is printed, unless every file may be read and has a graph. -/
theorem Invocation.Reaches.run_of_not_all (h : i.Reaches w settings names)
    (hnot : ¬ ∀ name ∈ names, w.mayRead name = true ∧
      ∃ b, (w.analyse settings (.ofString name)).result = .ok b) :
    (i.run w).code ≠ 0 ∧ (i.run w).out = "" := by
  by_cases hread : ∀ name ∈ names, w.mayRead name = true
  · have hfailed : ∃ name ∈ names, ∃ f,
        (w.analyse settings (.ofString name)).result = .error f := by
      by_contra hnone
      refine hnot fun name hname => ⟨hread name hname, ?_⟩
      cases hresult : (w.analyse settings (.ofString name)).result with
      | ok b => exact ⟨b, rfl⟩
      | error f => exact absurd ⟨name, hname, f, hresult⟩ hnone
    obtain ⟨hcode, hout⟩ := h.run_of_exists hread hfailed
    rw [hcode]
    exact ⟨by decide, hout⟩
  · simp only [not_forall] at hread
    obtain ⟨name, hname, hlocked⟩ := hread
    obtain ⟨hcode, hout, -⟩ := h.run_of_locked hname (Bool.eq_false_iff.2 hlocked)
    exact ⟨hcode, hout⟩

/-- What holds of the end of a `blocks` command on files with these names. -/
structure World.AllOrNothing (w : World) (settings : Settings) (names : List String)
    (exit : Exit) : Prop where
  /-- It succeeds exactly if every file may be read and has a graph. -/
  success : exit.code = 0 ↔ ∀ name ∈ names, w.mayRead name = true ∧
    ∃ b, (w.analyse settings (.ofString name)).result = .ok b
  /-- Then the graphs are printed in the order of the names, -/
  printed : ∀ built : String → Build,
    (∀ name ∈ names, w.mayRead name = true ∧
      (w.analyse settings (.ofString name)).result = .ok (built name)) →
    exit.out = joinLines (names.flatMap fun name =>
      blockLines w.terminal (names.length > 1) (.ofString name) (built name))
  /-- and otherwise nothing is. -/
  silent : exit.code ≠ 0 → exit.out = ""
  /-- A file that has no graph, for whatever reason, ends in status 1, -/
  failed : (∀ name ∈ names, w.mayRead name = true) →
    (∃ name ∈ names, ∃ f, (w.analyse settings (.ofString name)).result = .error f) → exit.code = 1
  /-- and one that is there and may not be read in status 2, before any file is tried. -/
  refused : (∀ name ∈ names, holdsZero name = false) →
    (∃ name ∈ names, w.mayRead name = false) → exit = .usage

/-- **All or nothing**: a `blocks` command that gets as far as its files succeeds exactly if every
file has a graph. Then it prints the graphs in the order of the arguments; otherwise it prints
nothing at all, whatever went wrong with however many of the files. -/
theorem runCommand_allOrNothing {words : List String}
    (hwords : Invocation.parse w.terminal words = some i) (hcommand : i.command = .blocks)
    (h : i.Reaches w settings names) (hw : w.Regular) (hecho : w.terminal.EchoesPlain) :
    w.AllOrNothing settings names (runCommand words w) := by
  have hrun : runCommand words w = i.run w := by
    unfold runCommand
    rw [hwords]
  have hsuccess : (∀ name ∈ names, w.mayRead name = true ∧
      ∃ b, (w.analyse settings (.ofString name)).result = .ok b) → (i.run w).code = 0 := by
    intro hall
    have hbuilt : ∀ name ∈ names, w.mayRead name = true ∧
        (w.analyse settings (.ofString name)).result
          = .ok (w.analyse settings (.ofString name)).built := by
      intro name hname
      obtain ⟨hread, b, hb⟩ := hall name hname
      exact ⟨hread, Outcome.result_eq_built (by rw [hb]; rfl)⟩
    exact (h.run_of_all hw hecho hcommand hbuilt).1
  rw [hrun]
  constructor
  case success =>
    refine ⟨fun hcode => ?_, hsuccess⟩
    by_contra hnot
    exact (h.run_of_not_all hnot).1 hcode
  case printed => exact fun built hbuilt => (h.run_of_all hw hecho hcommand hbuilt).2
  case silent => exact fun hcode => (h.run_of_not_all fun hall => hcode (hsuccess hall)).2
  case failed => exact fun hread hfailed => (h.run_of_exists hread hfailed).1
  case refused =>
    rintro hnone ⟨name, hname, hlocked⟩
    exact (h.run_of_locked hname hlocked).2.2 hnone

end

/-- Two files, each with one function. -/
def twoFiles : World :=
  .holding [("a.go", Utf8.encode "package p\n\nfunc f() \x7b\n\x7d\n".toList),
    ("b.go", Utf8.encode "package p\n\nfunc g() \x7b\n\tgo f()\n\x7d\n".toList)]

/-- Two small files, and what the command says of them. -/
theorem runCommand_allOrNothing_twoFiles :
    (runCommand ["blocks", "a.go", "./b.go"] twoFiles).code = 0 ∧
      (runCommand ["blocks", "a.go", "./b.go"] twoFiles).out
        = joinLines
          ["# a.go", "0) FUNCTION_ENTRY (EndLine: 3) \x7b3\x7d",
            "\t-> (1) RETURN_STMT (EndLine: 4) \x7b4\x7d", "1) RETURN_STMT (EndLine: 4) \x7b4\x7d",
            "# b.go", "0) FUNCTION_ENTRY (EndLine: 3) \x7b3\x7d",
            "\t-> (1) GO_STATEMENT (EndLine: 4) \x7b4\x7d",
            "1) GO_STATEMENT (EndLine: 4) \x7b4\x7d",
            "\t-> (2) RETURN_STMT (EndLine: 5) \x7b5\x7d",
            "2) RETURN_STMT (EndLine: 5) \x7b5\x7d"] := by
  have hwords : Invocation.parse (.ofWidth 400) ["blocks", "a.go", "./b.go"]
      = some { command := .blocks, arguments := ["a.go", "./b.go"] } := by decide +kernel
  have hreaches : Invocation.Reaches { command := .blocks, arguments := ["a.go", "./b.go"] }
      twoFiles {} ["a.go", "./b.go"] :=
    { load := load_over _, level := by decide +kernel, files := by decide +kernel }
  have hsucceeded : ∀ name ∈ ["a.go", "./b.go"], twoFiles.mayRead name = true ∧
      (twoFiles.analyse {} (.ofString name)).result.toBool = true := by decide +kernel
  have hbuilt : ∀ name ∈ ["a.go", "./b.go"], twoFiles.mayRead name = true ∧
      (twoFiles.analyse {} (.ofString name)).result
        = .ok (twoFiles.analyse {} (.ofString name)).built :=
    fun name hname => (hsucceeded name hname).imp_right Outcome.result_eq_built
  have hrun := runCommand_allOrNothing hwords rfl hreaches (World.regular_over _)
    (Terminal.echoesPlain_ofWidth 400)
  refine ⟨hrun.success.2 fun name hname => ?_, (hrun.printed _ hbuilt).trans ?_⟩
  · exact ⟨(hbuilt name hname).1, _, (hbuilt name hname).2⟩
  · decide +kernel

/-- A path may hold an escape sequence, which is not printed. -/
theorem runCommand_escapedPath :
    (Path.ofString "\x1b[0mb.go").render = "\x1b[0mb.go" ∧
      (runCommand ["blocks", "a.go", "\x1b[0mb.go"]
        (.holding [("a.go", Utf8.encode "package p\n".toList),
          ("\x1b[0mb.go", Utf8.encode "package p\n".toList)])).out = "# a.go\n# b.go\n" := by
  constructor <;> decide +kernel

/-- A file that may not be read ends the run, even behind one that is not there. -/
example : runCommand ["blocks", "b.go", "a.go"] (.over [(["a.go"], .locked 10)]) = .usage := by
  decide +kernel

end GoFlow
