import GoFlow.Analysis
import GoFlow.Proofs.Accounts
import GoFlow.Proofs.LineEndings

/-!
# Rows and lines

A front end counts rows, which nothing but a line feed ends, and the lines of blocks are counted
like that. A source that is asked for a line by its number counts all terminators. The two counts
come apart at the first terminator that is no line feed.

- `Source.rows`: the rows of a source.
- `Source.lineOfRow`: the line on which a row begins, and `Source.getLine_lineOfRow` what it shows.
  A carriage return at the end of a row (`chomp`) ends the same line as the line feed behind it.
- `one_le_endLine_of_build`: the blocks of any tree stand on lines from one on.
- `Source.Aligned`: where the lines of a source lie against its rows, and when the two agree.
-/

namespace GoFlow

/-- A row without the carriage return at its end, if there is one. -/
def chomp (row : List Char) : List Char :=
  if row.getLast? = some '\r' then row.dropLast else row

theorem mem_of_mem_chomp {c : Char} {row : List Char} (h : c ∈ chomp row) : c ∈ row := by
  unfold chomp at h
  split at h
  · exact List.dropLast_subset row h
  · exact h

theorem chomp_cons {c : Char} {row : List Char} (h : ¬ (c = '\r' ∧ row = [])) :
    chomp (c :: row) = c :: chomp row := by
  cases row with
  | nil =>
    have hc : c ≠ '\r' := fun hc => h ⟨hc, rfl⟩
    simp [chomp, hc]
  | cons d row =>
    rw [chomp, chomp, List.getLast?_cons_cons, List.dropLast_cons_of_ne_nil (by simp)]
    split <;> rfl

/-- What a row adds to the lines of a text: one for each terminator inside, and one for its end. By
induction on the row; a carriage return at its end makes one line with the line feed. -/
theorem exists_linesFrom_row {row : List Char} (hrow : '\n' ∉ row) (rest : List Char) :
    ∀ pending, ∃ ls, ls.length = (chomp row).countP isTerminator + 1 ∧
      linesFrom pending (row ++ '\n' :: rest) = ls ++ linesFrom [] rest := by
  induction row with
  | nil =>
    intro pending
    refine ⟨[⟨pending.reverse, ['\n']⟩], rfl, ?_⟩
    exact linesFrom_single (by decide) (by simp) pending
  | cons c row ih =>
    intro pending
    rw [List.mem_cons, not_or] at hrow
    by_cases hpair : c = '\r' ∧ row = []
    · obtain ⟨rfl, rfl⟩ := hpair
      exact ⟨[⟨pending.reverse, ['\r', '\n']⟩], rfl, linesFrom_pair pending rest⟩
    · -- a carriage return in front of a line feed is the last character of its row
      have halone : ¬ (c = '\r' ∧ (row ++ '\n' :: rest).head? = some '\n') := by
        rintro ⟨hc, hfeed⟩
        cases row with
        | nil => exact hpair ⟨hc, rfl⟩
        | cons d row => exact hrow.2 (List.mem_cons.2 (.inl (by simpa using hfeed.symm)))
      rw [chomp_cons hpair, List.countP_cons, List.cons_append]
      cases hc : isTerminator c with
      | true =>
        obtain ⟨ls, hlength, hls⟩ := ih hrow.2 []
        refine ⟨⟨pending.reverse, [c]⟩ :: ls, ?_, ?_⟩
        · rw [List.length_cons, hlength]
          rfl
        · rw [linesFrom_single hc halone, hls]
          rfl
      | false =>
        obtain ⟨ls, hlength, hls⟩ := ih hrow.2 (c :: pending)
        exact ⟨ls, hlength, (linesFrom_plain hc pending _).trans hls⟩

/-- The first line of a text goes up to its first terminator. -/
theorem head?_linesFrom (pending cs : List Char) :
    (linesFrom pending cs).head?.elim [] Line.text
      = pending.reverse ++ cs.takeWhile fun c => !isTerminator c := by
  fun_induction linesFrom pending cs with
  | case1 pending hempty => simp [List.isEmpty_iff.1 hempty]
  | case2 pending hempty => simp
  | case3 pending rest ih =>
    rw [List.takeWhile_cons_of_neg (by decide), List.append_nil]
    rfl
  | case4 pending c rest halone hc ih => simp [hc]
  | case5 pending c rest _ hc ih => simp [hc, ih]

/-! ## Rows -/

/-- The first row of a text, and the text behind it. -/
theorem splitOn_cases (cs : List Char) :
    ('\n' ∉ cs ∧ cs.splitOn '\n' = [cs]) ∨
      ∃ row rest, '\n' ∉ row ∧ cs = row ++ '\n' :: rest ∧
        cs.splitOn '\n' = row :: rest.splitOn '\n' := by
  by_cases hmem : '\n' ∈ cs
  · obtain ⟨row, rest, rfl, hrow⟩ := List.eq_append_cons_of_mem hmem
    exact .inr ⟨row, rest, hrow, rfl, List.splitOn_append_cons_self_of_not_mem hrow rest⟩
  · exact .inl ⟨hmem, List.splitOn_eq_singleton hmem⟩

/-- The rows hold all characters of a text but the line feeds. -/
theorem flatten_splitOn (cs : List Char) :
    (cs.splitOn '\n').flatten = cs.filter (· != '\n') := by
  induction cs with
  | nil => rfl
  | cons c cs ih =>
    obtain ⟨row, more, hrows⟩ := List.exists_cons_of_ne_nil (@List.splitOn_ne_nil _ _ '\n' cs)
    rw [hrows] at ih
    rw [List.splitOn_cons_eq_if_modifyHead, hrows]
    by_cases hc : c = '\n'
    · simp [hc, ← ih]
    · simp [hc, ← ih]

/-- **Where a row lies among the lines**: in front of it there is a line for each row above and for
each terminator inside these. By induction on the number of rows above. -/
theorem exists_linesFrom_rows {r : Nat} :
    ∀ {cs row : List Char}, (cs.splitOn '\n')[r]? = some row →
      ∃ ls rest, linesFrom [] cs = ls ++ linesFrom [] rest ∧
        ls.length = r + (((cs.splitOn '\n').take r).flatMap chomp).countP isTerminator ∧
        (rest.splitOn '\n').head? = some row := by
  induction r with
  | zero =>
    intro cs row hrow
    exact ⟨[], cs, rfl, rfl, by rw [List.head?_eq_getElem?, hrow]⟩
  | succ r ih =>
    intro cs row hrow
    rcases splitOn_cases cs with ⟨-, hrows⟩ | ⟨first, below, hfirst, rfl, hrows⟩
    · rw [hrows] at hrow
      cases hrow
    · rw [hrows, List.getElem?_cons_succ] at hrow
      obtain ⟨ls, rest, hls, hlength, hrest⟩ := ih hrow
      obtain ⟨ls', hlength', hls'⟩ := exists_linesFrom_row hfirst below []
      refine ⟨ls' ++ ls, rest, ?_, ?_, hrest⟩
      · rw [hls', hls, List.append_assoc]
      · rw [List.length_append, hlength', hlength, hrows, List.take_succ_cons, List.flatMap_cons,
          List.countP_append]
        omega

/-- A text begins like its first row. -/
theorem takeWhile_of_head?_splitOn {cs row : List Char}
    (h : (cs.splitOn '\n').head? = some row) :
    (cs.takeWhile fun c => !isTerminator c) = row.takeWhile fun c => !isTerminator c := by
  rcases splitOn_cases cs with ⟨-, hrows⟩ | ⟨first, below, -, rfl, hrows⟩
  · rw [hrows] at h
    cases h
    rfl
  · rw [hrows] at h
    cases h
    have hfeed : (('\n' :: below).takeWhile fun c => !isTerminator c) = [] :=
      List.takeWhile_cons_of_neg (by decide)
    rw [List.takeWhile_append, hfeed, List.append_nil]
    split
    · rename_i hall
      exact ((List.takeWhile_prefix _).eq_of_length hall).symm
    · rfl

namespace Source

/-- The rows of a source: what stands between its line feeds. -/
def rows (s : Source) : List (List Char) := s.content.toList.splitOn '\n'

/-- The number of the line on which a row begins: one more than its own for each line that ends
inside a row above. -/
def lineOfRow (s : Source) (r : Nat) : Nat :=
  r + ((s.rows.take r).flatMap chomp).countP isTerminator + 1

variable {s : Source} {r : Nat} {row : List Char}

/-- That line shows the row up to the first terminator. -/
theorem getLine_lineOfRow (hrow : s.rows[r]? = some row) :
    s.getLine (s.lineOfRow r) = String.ofList (row.takeWhile fun c => !isTerminator c) := by
  obtain ⟨ls, rest, hls, hlength, hrest⟩ := exists_linesFrom_rows hrow
  have hline : (splitLines s.content)[ls.length]? = (linesFrom [] rest).head? := by
    rw [splitLines, hls, List.getElem?_append_right (Nat.le_refl _), Nat.sub_self,
      List.head?_eq_getElem?]
  have hfirst := head?_linesFrom [] rest
  rw [List.reverse_nil, List.nil_append, takeWhile_of_head?_splitOn hrest] at hfirst
  rw [lineOfRow, rows, ← hlength, Int.natCast_add, Int.natCast_one, getLine_succ, hline, ← hfirst]
  cases (linesFrom [] rest).head? <;> rfl

/-- No line ends inside the row or inside a row above. -/
structure Whole (s : Source) (r : Nat) (row : List Char) : Prop where
  above : ∀ q ∈ s.rows.take r, ∀ c ∈ chomp q, isTerminator c = false
  plain : ∀ c ∈ row, isTerminator c = false

theorem getLine_of_whole (hrow : s.rows[r]? = some row) (h : s.Whole r row) :
    s.getLine (r + 1) = String.ofList row := by
  have hnone : ((s.rows.take r).flatMap chomp).countP isTerminator = 0 := by
    refine countP_of_plain fun c hc => ?_
    obtain ⟨q, hq, hc⟩ := List.mem_flatMap.1 hc
    exact h.above q hq c hc
  have hwhole : (row.takeWhile fun c => !isTerminator c) = row := by
    have := @List.takeWhile_append_of_pos _ (fun c => !isTerminator c) row [] fun c hc => by
      simp [h.plain c hc]
    simpa using this
  have hline := getLine_lineOfRow hrow
  rwa [lineOfRow, hnone, hwhole] at hline

/-- The characters of a row are those of the content that are no line feeds. -/
theorem mem_of_mem_rows (hrow : row ∈ s.rows) {c : Char} (hc : c ∈ row) :
    c ∈ s.content.toList ∧ c ≠ '\n' := by
  have hmem : c ∈ s.rows.flatten := List.mem_flatten.2 ⟨row, hrow, hc⟩
  rw [rows, flatten_splitOn, List.mem_filter] at hmem
  exact ⟨hmem.1, by simpa using hmem.2⟩

/-- The lines show their rows just if nothing but line feeds ends a line. If they do, a row is free
of terminators because its line is. -/
theorem getLine_eq_rows_iff :
    (∀ (r : Nat) row, s.rows[r]? = some row → s.getLine (r + 1) = String.ofList row) ↔
      ∀ c ∈ s.content.toList, isTerminator c → c = '\n' := by
  constructor
  · intro h c hc hterminator
    by_contra hfeed
    have hmem : c ∈ s.rows.flatten := by
      rw [rows, flatten_splitOn, List.mem_filter]
      exact ⟨hc, by simpa using hfeed⟩
    obtain ⟨row, hrow, hc⟩ := List.mem_flatten.1 hmem
    obtain ⟨r, hr⟩ := List.getElem?_of_mem hrow
    have hplain := s.getLine_plain (r + 1) c
    rw [h r row hr, String.toList_ofList] at hplain
    rw [hplain hc] at hterminator
    cases hterminator
  · intro h r row hrow
    have hplain : ∀ q ∈ s.rows, ∀ c ∈ q, isTerminator c = false := by
      intro q hq c hc
      obtain ⟨hc, hfeed⟩ := mem_of_mem_rows hq hc
      exact Bool.eq_false_iff.2 fun hterminator => hfeed (h c hc hterminator)
    refine getLine_of_whole hrow ⟨fun q hq c hc => ?_, hplain row (List.mem_of_getElem? hrow)⟩
    exact hplain q (List.mem_of_mem_take hq) c (mem_of_mem_chomp hc)

end Source

/-! ## The lines of blocks -/

/-- Lines are counted from one. -/
theorem Node.one_le_of_accounts {d : Option Node} {n : Node} {l : Int} {kind : BlockKind}
    (h : n.Accounts d l kind) : 1 ≤ l := by
  have hstart : ∀ m : Node, 1 ≤ m.startLine := by
    intro m
    show 1 ≤ (m.span.startRow : Int) + 1
    omega
  have hend : ∀ m : Node, 1 ≤ m.endLine := by
    intro m
    show 1 ≤ (m.span.endRow : Int) + 1
    omega
  cases kind with
  | functionEntry | goStatement | ifCondition | forStatement | switchStatement | selectStatement =>
    exact h.2 ▸ hstart n
  | forBody => exact h.2 ▸ hend n
  | returnStatement =>
    rcases h with ⟨-, rfl⟩ | ⟨-, rfl, -⟩
    · exact hstart n
    · exact hend n
  | elseCondition =>
    rw [← h.2, Node.elseStart]
    split
    · exact hstart _
    · exact hend _
  | elseBody =>
    rw [← h.2, Context.elseEnd]
    split
    · exact hend _
    · have hpart := hend ((n.child? .consequence).getD n)
      cases d with
      | none =>
        show 1 ≤ ((n.child? .consequence).getD n).endLine + 1
        omega
      | some f =>
        have hf := hend f
        show 1 ≤ min (((n.child? .consequence).getD n).endLine + 1) f.endLine
        omega
  | caseClause | commClause =>
    obtain ⟨-, k, -, -, rfl⟩ := h
    exact hend _
  | start | exit | unknown => exact h.elim

/-- The blocks of a tree stand on lines from one on, whatever the tree. -/
theorem one_le_endLine_of_build {ε : Type} {decode : List UInt8 → Except ε String} {root : Node}
    {b : Build} (hb : build decode root {} = .ok b) {x : Block} (hx : x ∈ b.blocks) :
    1 ≤ x.endLine := by
  obtain ⟨cs, w, ls, hvisit, hadmit, hfinish⟩ := finishes_of_build Graph.sound_empty hb
  -- nothing is asked of the nodes, since every line that a node accounts for will do
  have hledger : Ledger decode (fun _ _ => True) (fun _ => False) fun cs =>
      ∀ l ∈ registeredBy cs, 1 ≤ l := by
    constructor
    case append =>
      intro cs ds hcs hds l hl
      rw [registeredBy_append, List.mem_append] at hl
      exact hl.elim (hcs l) (hds l)
    case links =>
      intro cs hlinks l hl
      rw [hlinks] at hl
      cases hl
    case register =>
      intro d n l kind name _ _ hregisters m hm
      rw [registeredBy_register, registeredBy_nil, List.mem_singleton] at hm
      exact hm ▸ Node.one_le_of_accounts hregisters.1
    case overwrite => exact fun _ _ hskip => hskip.elim
  have hlines := hvisit.tally ⟨fun _ _ _ => trivial, fun _ _ _ _ => trivial⟩ hledger
    (fun _ hskip => hskip.elim) (d := none) (fun _ _ => trivial) ⟨rfl, rfl⟩
  exact hlines _ (mem_registeredBy.2 ⟨_, _, hfinish.register_mem hadmit hx⟩)

/-- How the lines of a source lie against its rows. -/
structure Source.Aligned (s : Source) : Prop where
  /-- A row begins on its own line, moved down by the lines that end inside the rows above. The line
  shows the row up to the first terminator in it. -/
  begins : ∀ r row, s.rows[r]? = some row →
    s.getLine (s.lineOfRow r) = String.ofList (row.takeWhile fun c => !isTerminator c)
  /-- So a line shows the row of its number if no line ends inside that row or those above, -/
  shows : ∀ (r : Nat) row, s.rows[r]? = some row → s.Whole r row →
    s.getLine (r + 1) = String.ofList row
  /-- and all lines do so just if nothing but line feeds ends a line. -/
  agrees_iff : (∀ (r : Nat) row, s.rows[r]? = some row → s.getLine (r + 1) = String.ofList row) ↔
    ∀ c ∈ s.content.toList, isTerminator c → c = '\n'
  /-- The line of a block is counted by rows, so that it shows the row of the block on the same
  condition. -/
  block : ∀ root b, (s.buildGraph root).result = .ok b → ∀ x ∈ b.blocks, ∃ r : Nat,
    x.endLine = r + 1 ∧ ∀ row, s.rows[r]? = some row → s.Whole r row →
      s.getLine x.endLine = String.ofList row

/-- **Lines and rows**: for every source, the line on which a row begins is known, and a line shows
the row of its number unless some other terminator than a line feed, or a carriage return in front
of one, stands above its end. -/
theorem aligned (s : Source) : s.Aligned where
  begins _ _ hrow := Source.getLine_lineOfRow hrow
  shows _ _ hrow h := Source.getLine_of_whole hrow h
  agrees_iff := Source.getLine_eq_rows_iff
  block root b hb x hx := by
    have hline := one_le_endLine_of_build (Source.buildGraph_eq_ok hb).1 hx
    obtain ⟨r, hr⟩ : ∃ r : Nat, x.endLine = r + 1 := ⟨(x.endLine - 1).toNat, by omega⟩
    refine ⟨r, hr, fun row hrow h => ?_⟩
    rw [hr]
    exact Source.getLine_of_whole hrow h

/-- A source with a form feed in a comment of its first row. -/
def pagedSource : Source := { content := "package p // a\x0cb\n\nfunc f() \x7b\n\x7d\n" }

/-- Its tree. -/
def pagedTree : Node :=
  .mk { label := .other "source_file", span := { endRow := 4 } } [
    .mk { label := .functionDeclaration, span := { startRow := 2, endRow := 3, endCol := 1 } } [
      .mk { label := .other "identifier", field := some .name, text := some [102] } [],
      .mk { label := .block, span := { startRow := 2, startCol := 9, endRow := 3, endCol := 1 },
            field := some .body } []]]

/-- The function begins in the third row and has its block on line 3, but the third line is the
empty one above. -/
theorem getLine_pagedSource :
    pagedSource.rows[2]? = some "func f() \x7b".toList ∧ pagedSource.getLine (2 + 1) = "" ∧
      ∃ b x, (pagedSource.buildGraph pagedTree).result = .ok b ∧ x ∈ b.blocks ∧
        x.kind = .functionEntry ∧ x.endLine = 3 := by
  exact ⟨by decide, by decide, _, _, rfl, List.mem_cons_self, rfl, rfl⟩

end GoFlow
