import GoFlow.Source

/-!
# Lines and their endings

A text falls into lines at its terminators, and nothing of it is lost: the lines of a source, each
with the terminator that ended it, are its content again.

- `terminators`: the characters that end a line. A carriage return and the line feed behind it end
  one line together, so that a text has fewer terminators than such characters
  (`terminatorCount`).
- `Divided`: how a text falls into lines, one rule for each way in which a line may end.
  `splitLines` divides a text like that (`divided_splitLines`).
- `Divided.joined`, `Divided.length_eq`: the lines of a text, joined and counted.
- `Source.Rebuilt`: what the lines of a source tell about its content.
-/

namespace GoFlow

/-- The characters that end a line. -/
def terminators : List Char :=
  ['\n', '\x0b', '\x0c', '\r', '\x1c', '\x1d', '\x1e', '\u0085', '\u2028', '\u2029']

theorem isTerminator_iff {c : Char} : isTerminator c ↔ c ∈ terminators := by
  have hchar : ∀ d : Char, c = d ↔ c.toNat = d.toNat :=
    fun d => ⟨congrArg _, fun h => Char.ext (UInt32.toNat_inj.1 h)⟩
  simp only [isTerminator, terminators, List.mem_cons, List.not_mem_nil, or_false, hchar,
    Bool.or_eq_true, Bool.and_eq_true, decide_eq_true_eq, beq_iff_eq]
  simp only [Char.reduceToNat]
  omega

/-- How many carriage returns have a line feed right behind them. -/
def pairCount (cs : List Char) : Nat := (cs.zip cs.tail).count ('\r', '\n')

/-- How many terminators a text holds: a carriage return and the line feed behind it are one. -/
def terminatorCount (cs : List Char) : Nat := cs.countP isTerminator - pairCount cs

/-! ## How a text falls into lines -/

/-- The characters of a line, with those that ended it. -/
def Line.chars (l : Line) : List Char := l.text ++ l.ending

/-- A text and its lines. No line holds a terminator, and each is ended by the next one of the text;
only what is behind the last terminator has no ending. -/
inductive Divided : List Char → List Line → Prop where
  | nil : Divided [] []
  /-- The text ends without a terminator. -/
  | last {text} (plain : ∀ c ∈ text, isTerminator c = false) (hne : text ≠ []) :
      Divided text [⟨text, []⟩]
  /-- A line ends in a carriage return and a line feed. -/
  | pair {text rest ls} (plain : ∀ c ∈ text, isTerminator c = false) (more : Divided rest ls) :
      Divided (text ++ '\r' :: '\n' :: rest) (⟨text, ['\r', '\n']⟩ :: ls)
  /-- A line ends in one character, which is no carriage return in front of a line feed. -/
  | single {text c rest ls} (plain : ∀ d ∈ text, isTerminator d = false) (hc : isTerminator c)
      (alone : ¬ (c = '\r' ∧ rest.head? = some '\n')) (more : Divided rest ls) :
      Divided (text ++ c :: rest) (⟨text, [c]⟩ :: ls)

/-- Splitting keeps what is pending in front of the next line. -/
theorem divided_linesFrom {pending cs : List Char}
    (hpending : ∀ c ∈ pending, isTerminator c = false) :
    Divided (pending.reverse ++ cs) (linesFrom pending cs) := by
  have hplain : ∀ {p : List Char}, (∀ c ∈ p, isTerminator c = false) →
      ∀ c ∈ p.reverse, isTerminator c = false := fun hp c hc => hp c (List.mem_reverse.1 hc)
  fun_induction linesFrom pending cs with
  | case1 pending hempty =>
    rw [List.isEmpty_iff.1 hempty]
    exact .nil
  | case2 pending hempty =>
    rw [List.append_nil]
    exact .last (hplain hpending) (by simpa using hempty)
  | case3 pending rest ih => exact .pair (hplain hpending) (ih (by simp))
  | case4 pending c rest halone hc ih =>
    -- the case of a pair comes first, so this terminator is none of its halves
    refine .single (hplain hpending) hc ?_ (ih (by simp))
    rintro ⟨hreturn, hfeed⟩
    obtain ⟨more, hmore⟩ := List.head?_eq_some_iff.1 hfeed
    exact halone more hreturn hmore
  | case5 pending c rest _ hc ih =>
    have := ih fun d hd => by
      rcases List.mem_cons.1 hd with rfl | hd
      · simpa using hc
      · exact hpending d hd
    simpa using this

/-- **Lines of a text**: `splitLines` divides a text at its terminators. -/
theorem divided_splitLines (s : String) : Divided s.toList (splitLines s) :=
  @divided_linesFrom [] _ fun _ h => by cases h

/-! The three steps of `linesFrom`, by what the text goes on with. -/

/-- A return and a feed end a line together. -/
theorem linesFrom_pair (pending rest : List Char) :
    linesFrom pending ('\r' :: '\n' :: rest)
      = ⟨pending.reverse, ['\r', '\n']⟩ :: linesFrom [] rest := by
  rw [linesFrom]

/-- Any other terminator ends one on its own. -/
theorem linesFrom_single {c : Char} {rest : List Char} (hc : isTerminator c)
    (alone : ¬ (c = '\r' ∧ rest.head? = some '\n')) (pending : List Char) :
    linesFrom pending (c :: rest) = ⟨pending.reverse, [c]⟩ :: linesFrom [] rest := by
  rw [linesFrom, if_pos hc]
  rintro more hreturn rfl
  exact alone ⟨hreturn, rfl⟩

/-- Characters that end no line are kept for the line that they stand in. -/
theorem linesFrom_plain {c : Char} (hc : isTerminator c = false) (pending rest : List Char) :
    linesFrom pending (c :: rest) = linesFrom (c :: pending) rest := by
  rw [linesFrom, if_neg (by simp [hc])]
  rintro more rfl
  exact absurd hc (by decide)

/-- Text without terminators is kept as a whole. -/
theorem linesFrom_append {text : List Char} (plain : ∀ c ∈ text, isTerminator c = false) :
    ∀ pending rest : List Char,
      linesFrom pending (text ++ rest) = linesFrom (text.reverse ++ pending) rest := by
  induction text with
  | nil => exact fun _ _ => rfl
  | cons c text ih =>
    intro pending rest
    rw [List.cons_append, linesFrom_plain (plain c List.mem_cons_self),
      ih fun d hd => plain d (List.mem_cons_of_mem c hd)]
    simp

namespace Divided

variable {cs : List Char} {ls : List Line}

/-- The texts of the lines hold no terminators. -/
theorem plain_of_mem (h : Divided cs ls) : ∀ l ∈ ls, ∀ c ∈ l.text, isTerminator c = false := by
  induction h with
  | nil => simp
  | last plain => simpa using plain
  | pair plain _ ih => simpa using ⟨plain, ih⟩
  | single plain _ _ _ ih => simpa using ⟨plain, ih⟩

/-- The lines with their endings are the text. -/
theorem joined (h : Divided cs ls) : ls.flatMap Line.chars = cs := by
  induction h with
  | nil => rfl
  | last => simp [Line.chars]
  | pair _ _ ih => simp [Line.chars, ih]
  | single _ _ _ _ ih => simp [Line.chars, ih]

/-- There is no other way to divide a text. -/
theorem eq_linesFrom (h : Divided cs ls) : ls = linesFrom [] cs := by
  induction h with
  | nil => rfl
  | @last text plain hne =>
    have hlines := linesFrom_append plain [] []
    rw [List.append_nil, List.append_nil] at hlines
    rw [hlines, linesFrom, if_neg (by simpa using hne), List.reverse_reverse]
  | pair plain _ ih =>
    rw [linesFrom_append plain, linesFrom_pair, ← ih, List.append_nil, List.reverse_reverse]
  | single plain hc alone _ ih =>
    rw [linesFrom_append plain, linesFrom_single hc alone, ← ih, List.append_nil,
      List.reverse_reverse]

end Divided

/-! ## Counting lines -/

section Neighbours

variable {α : Type} [DecidableEq α] (a b : α)

/-- One more item makes a pair with the first of the others. -/
theorem count_zip_tail_cons (c : α) (rest : List α) :
    ((c :: rest).zip rest).count (a, b)
      = (rest.zip rest.tail).count (a, b) + if c = a ∧ rest.head? = some b then 1 else 0 := by
  cases rest with
  | nil => simp
  | cons d rest =>
    simp only [List.tail_cons, List.zip_cons_cons, List.count_cons, List.head?_cons,
      Option.some.injEq, beq_iff_eq, Prod.mk.injEq]

/-- Items that are no first half make no pair. -/
theorem count_zip_tail_append {front : List α} (h : a ∉ front) (rest : List α) :
    ((front ++ rest).zip (front ++ rest).tail).count (a, b)
      = (rest.zip rest.tail).count (a, b) := by
  induction front with
  | nil => rfl
  | cons c front ih =>
    rw [List.mem_cons, not_or] at h
    rw [List.cons_append, List.tail_cons, count_zip_tail_cons, if_neg fun hc => h.1 hc.1.symm,
      ih h.2]
    rfl

end Neighbours

theorem pairCount_cons (c : Char) (rest : List Char) :
    pairCount (c :: rest)
      = pairCount rest + if c = '\r' ∧ rest.head? = some '\n' then 1 else 0 :=
  count_zip_tail_cons '\r' '\n' c rest

theorem pairCount_pair (rest : List Char) :
    pairCount ('\r' :: '\n' :: rest) = pairCount rest + 1 := by
  rw [pairCount_cons, if_pos ⟨rfl, rfl⟩, pairCount_cons, if_neg fun h => absurd h.1 (by decide)]

/-- Text without terminators has no pairs. -/
theorem pairCount_append_of_plain {text : List Char}
    (plain : ∀ c ∈ text, isTerminator c = false) (rest : List Char) :
    pairCount (text ++ rest) = pairCount rest := by
  refine count_zip_tail_append '\r' '\n' (fun h => ?_) rest
  exact absurd (plain _ h) (by decide)

theorem countP_of_plain {text : List Char} (plain : ∀ c ∈ text, isTerminator c = false) :
    text.countP isTerminator = 0 :=
  List.countP_eq_zero.2 fun c hc => by simp [plain c hc]

/-- Whether a text goes on behind its last terminator. -/
def isOpen (cs : List Char) : Bool := cs.getLast?.any fun c => !isTerminator c

/-- What is in front of a terminator does not count for the end of a text. -/
theorem isOpen_append {text rest : List Char} {c : Char} (hc : isTerminator c) :
    isOpen (text ++ c :: rest) = isOpen rest := by
  rw [isOpen, isOpen, List.getLast?_append, List.getLast?_cons]
  cases rest.getLast? with
  | none => simp [hc]
  | some d => rfl

/-- There is one line for each terminator, and one more if the text goes on behind the last. -/
theorem Divided.length_add {cs : List Char} {ls : List Line} (h : Divided cs ls) :
    ls.length + pairCount cs
      = cs.countP isTerminator + if isOpen cs then 1 else 0 := by
  induction h with
  | nil => rfl
  | @last text plain hne =>
    have hopen : isOpen text := by
      rw [isOpen, List.getLast?_eq_some_getLast hne, Option.any_some,
        plain _ (List.getLast_mem hne)]
      rfl
    have hpairs := pairCount_append_of_plain plain []
    rw [List.append_nil] at hpairs
    rw [hpairs, countP_of_plain plain, if_pos hopen]
    rfl
  | @pair text rest ls plain _ ih =>
    -- two terminators that end one line, which the pair makes up for
    have hopen : isOpen (text ++ '\r' :: '\n' :: rest) = isOpen rest := by
      rw [isOpen_append (by decide)]
      exact @isOpen_append [] rest '\n' (by decide)
    have hcount : ('\r' :: '\n' :: rest).countP isTerminator = rest.countP isTerminator + 2 := by
      rw [List.countP_cons_of_pos (by decide), List.countP_cons_of_pos (by decide)]
    rw [pairCount_append_of_plain plain, pairCount_pair, List.countP_append, countP_of_plain plain,
      hcount, hopen, List.length_cons]
    omega
  | @single text c rest ls plain hc alone _ ih =>
    rw [pairCount_append_of_plain plain, pairCount_cons, if_neg alone, List.countP_append,
      countP_of_plain plain, List.countP_cons, if_pos hc, isOpen_append hc, List.length_cons]
    omega

/-- A pair has a terminator. -/
theorem pairCount_le (cs : List Char) : pairCount cs ≤ cs.countP isTerminator := by
  induction cs with
  | nil => exact Nat.le_refl 0
  | cons c rest ih =>
    rw [pairCount_cons]
    by_cases h : c = '\r' ∧ rest.head? = some '\n'
    · rw [if_pos h, List.countP_cons_of_pos (by rw [h.1]; decide)]
      omega
    · rw [if_neg h, List.countP_cons]
      omega

/-- There are as many lines as there are terminators, and one more if the last is open. -/
theorem Divided.length_eq {cs : List Char} {ls : List Line} (h : Divided cs ls) :
    ls.length = terminatorCount cs + if isOpen cs then 1 else 0 := by
  have hadd := h.length_add
  have hle := pairCount_le cs
  rw [terminatorCount]
  omega

/-! ## The lines of a source -/

namespace Source

/-- Lines are counted from one. -/
theorem getLine_succ (s : Source) (i : Nat) :
    s.getLine (i + 1) = ((splitLines s.content)[i]?).elim "" fun l => String.ofList l.text := by
  have hpos : ¬ ((i : Int) + 1 < 1) := by omega
  have hindex : ((i : Int) + 1 - 1).toNat = i := by omega
  rw [getLine, if_neg hpos, hindex]

/-- A line by its number from one, as it is asked for, with an ending that is given. -/
def lineWith (s : Source) (i : Nat) (ending : List Char) : Line :=
  ⟨(s.getLine (i + 1)).toList, ending⟩

/-- All lines by their numbers. -/
def linesWith (s : Source) (ends : List (List Char)) : List Line :=
  (List.range s.lineCount).zipWith s.lineWith ends

/-- What the lines of a source and their endings tell about its content. -/
structure Rebuilt (s : Source) (ends : List (List Char)) : Prop where
  /-- No line holds a terminator. -/
  plain : ∀ i : Int, ∀ c ∈ (s.getLine i).toList, c ∉ terminators
  /-- Every line has the ending that it has in the content, which can be divided in no other way, -/
  length_ends : ends.length = s.lineCount
  divided : ∀ ls, Divided s.content.toList ls ↔ ls = s.linesWith ends
  /-- and the lines with their endings are the content. -/
  joined : (s.linesWith ends).flatMap Line.chars = s.content.toList
  /-- There is a line for each terminator, and one for what is behind the last. -/
  lineCount_eq : s.lineCount = terminatorCount s.content.toList +
    if s.content.toList.getLast?.any (· ∉ terminators) then 1 else 0
  /-- There are no other lines. -/
  outside : ∀ i : Int, i < 1 ∨ s.lineCount < i → s.getLine i = ""

/-- With the endings of the text, the lines are those of the text again. -/
theorem linesWith_endings (s : Source) :
    s.linesWith ((splitLines s.content).map Line.ending) = splitLines s.content := by
  refine List.ext_getElem (by simp [linesWith, lineCount]) fun i _ hi => ?_
  simp only [linesWith, lineWith, List.getElem_zipWith, List.getElem_range, List.getElem_map]
  rw [getLine_succ, List.getElem?_eq_getElem hi, Option.elim_some, String.toList_ofList]

/-- Outside the text there are empty lines. -/
theorem getLine_outside (s : Source) {i : Int} (h : i < 1 ∨ s.lineCount < i) :
    s.getLine i = "" := by
  by_cases hi : i < 1
  · rw [getLine, if_pos hi]
  · have hnone : (splitLines s.content)[(i - 1).toNat]? = none := by
      rw [List.getElem?_eq_none_iff]
      unfold lineCount at h
      omega
    rw [getLine, if_neg hi, hnone, Option.elim_none]

/-- No line holds a terminator. -/
theorem getLine_plain (s : Source) (i : Int) :
    ∀ c ∈ (s.getLine i).toList, isTerminator c = false := by
  by_cases hi : i < 1
  · rw [s.getLine_outside (.inl hi)]
    simp
  · obtain ⟨n, rfl⟩ : ∃ n : Nat, i = n + 1 := ⟨(i - 1).toNat, by omega⟩
    rw [getLine_succ]
    cases hline : (splitLines s.content)[n]? with
    | none => simp
    | some l =>
      rw [Option.elim_some, String.toList_ofList]
      exact (divided_splitLines s.content).plain_of_mem l (List.mem_of_getElem? hline)

end Source

/-- **The lines of a source rebuild its content**: no line holds a terminator; all lines, each with
the terminator that ended it, are the content; there is one line for each terminator, and one more
if the content goes on behind the last; and any other number gives an empty line. -/
theorem lines_rebuild (s : Source) : ∃ ends, s.Rebuilt ends := by
  have hdivided := divided_splitLines s.content
  have hmem : ∀ c, isTerminator c = false → c ∉ terminators := by
    intro c hc hmem
    rw [isTerminator_iff.2 hmem] at hc
    cases hc
  have hopen : isOpen s.content.toList
      = s.content.toList.getLast?.any (· ∉ terminators) := by
    unfold isOpen
    congr 1
    funext c
    simp [← isTerminator_iff]
  refine ⟨(splitLines s.content).map Line.ending, ?_, ?_, ?_, ?_, ?_, ?_⟩
  · exact fun i c hc => hmem c (s.getLine_plain i c hc)
  · exact List.length_map _
  · rw [s.linesWith_endings]
    exact fun ls => ⟨Divided.eq_linesFrom, fun h => h ▸ hdivided⟩
  · rw [s.linesWith_endings]
    exact hdivided.joined
  · rw [← hopen]
    exact hdivided.length_eq
  · exact fun i hi => s.getLine_outside hi

/-- A carriage return, one with a line feed behind it, and a separator at the end. -/
example :
    let s : Source := { content := "a\r\r\nb\u2028" }
    s.lineCount = 3 ∧ [1, 2, 3, 4].map s.getLine = ["a", "", "b", ""] ∧
      terminatorCount s.content.toList = 3 := by
  decide

end GoFlow
