import GoFlow.Go.FrontEnd
import GoFlow.Proofs.Characters
import GoFlow.Proofs.Terminals
import GoFlow.Proofs.Visits

/-!
# Running the program

- `Settings.isLevelName_of_load`: settings that were loaded make no trouble with the log.
- `World.Regular`: what holds of any place where files are looked up, such as a `Disk`.
- `refusal?_eq_none`, `refusal?_cases`: which names end a run before the first file is tried.
- `Invocation.Reaches`: the program gets as far as its files.
- `Invocation.Reaches.run_eq`: from there on, a run is the conclusion that is drawn from its trials.
- `all_succeeded_trials`, `trials_eq_map`: which files are tried.
-/

namespace GoFlow

/-! ## Settings that were read -/

section

variable {ε ε' α β γ : Type}

theorem mapError_eq_ok {x : Except ε α} {f : ε → ε'} {a : α} :
    x.mapError f = .ok a ↔ x = .ok a := by
  constructor
  · intro h
    cases x with
    | error e => cases h
    | ok b =>
      cases h
      rfl
  · rintro rfl
    rfl

/-- Two checks pass if each of them does. -/
theorem Checked.and_eq_ok {f : α → β → γ} {a : Checked α} {b : Checked β} {c : γ} :
    Checked.and f a b = .ok c ↔ ∃ x y, a = .ok x ∧ b = .ok y ∧ f x y = c := by
  cases a <;> cases b <;> simp [Checked.and]

/-- A field that was read holds the default or a value that passed the check. -/
theorem readField_eq_ok {fields : Fields} {name : String} {default a : α}
    {read : Value → Except SettingFault α} (h : readField fields name default read = .ok a) :
    a = default ∨ ∃ v, read v = .ok a := by
  unfold readField at h
  split at h
  · cases h
    exact .inl rfl
  · exact .inr ⟨_, mapError_eq_ok.1 h⟩

/-- A section that is read is the default one or comes from its entries. -/
theorem readSection_eq_ok {fields : Fields} {name typeName : String} {default a : α}
    {read : Fields → Checked α} (h : readSection fields name typeName default read = .ok a) :
    a = default ∨ ∃ entries, read entries = .ok a := by
  unfold readSection at h
  split at h
  · cases h
    exact .inl rfl
  · exact .inr ⟨_, mapError_eq_ok.1 h⟩
  · cases h

end

/-- A name of a level that passes the check. -/
def IsLevelName (name : String) : Prop :=
  name ∈ ["DEBUG", "INFO", "WARNING", "ERROR", "CRITICAL"]

/-- A level that is read from the settings is one of the known levels. -/
theorem isLevelName_of_readLevelSetting {v : Value} {name : String}
    (h : readLevelSetting v = .ok name) : IsLevelName name := by
  obtain ⟨text, -, h⟩ := bind_eq_ok.1 h
  dsimp only at h
  split at h
  next hname =>
    cases h
    exact List.contains_iff_mem.1 hname
  next => cases h

theorem LogSettings.isLevelName_of_ofFields {fields : Fields} {log : LogSettings}
    (h : LogSettings.ofFields fields = .ok log) : IsLevelName log.level := by
  obtain ⟨level, format, hlevel, -, rfl⟩ := Checked.and_eq_ok.1 h
  rcases readField_eq_ok hlevel with rfl | ⟨v, hv⟩
  · show IsLevelName "INFO"
    simp [IsLevelName]
  · exact isLevelName_of_readLevelSetting hv

/-- The level of settings that were loaded is one of the five. -/
theorem Settings.isLevelName_of_load {s : SettingsSources} {settings : Settings}
    (h : Settings.load s = .ok settings) : IsLevelName settings.log.level := by
  obtain ⟨fields, -, h⟩ := bind_eq_ok.1 h
  obtain ⟨log, parsing, hlog, -, rfl⟩ := Checked.and_eq_ok.1 (mapError_eq_ok.1 h)
  rcases readSection_eq_ok hlog with rfl | ⟨entries, hentries⟩
  · show IsLevelName "INFO"
    simp [IsLevelName]
  · exact LogSettings.isLevelName_of_ofFields hentries

/-- The log takes the level: none of the names is taken for something else. -/
def LogTakes (level : String) : Prop := (Level.threshold level).toBool = true

instance : DecidablePred LogTakes := fun _ => inferInstanceAs (Decidable (_ = true))

/-- The log takes every known level. -/
theorem logTakes_of_isLevelName {name : String} (h : IsLevelName name) : LogTakes name := by
  have hall : ∀ n ∈ ["DEBUG", "INFO", "WARNING", "ERROR", "CRITICAL"],
      (Level.threshold n).toBool = true := by decide +kernel
  exact hall name h

/-- Settings that were loaded leave the log with a style, unless the level that was asked for is
none. -/
theorem exists_logStyle {i : Invocation} {sources : SettingsSources} {settings : Settings}
    (hload : Settings.load sources = .ok settings) (hlevel : LogTakes i.options.level) :
    ∃ style, i.logStyle settings.log = .ok style := by
  -- the level of the settings was checked, and an option comes before it
  have hname : LogTakes
      (if i.options.level == "" then settings.log.level else i.options.level) := by
    split
    · exact logTakes_of_isLevelName (Settings.isLevelName_of_load hload)
    · exact hlevel
  unfold Invocation.logStyle LogStyle.ofNames
  unfold LogTakes at hname
  generalize Level.threshold _ = threshold at hname
  cases threshold with
  | error fault => cases hname
  | ok n => exact ⟨_, rfl⟩

/-! ## Files -/

/-- The fault names the path, if it names one. The words of the system are plain. -/
def FileFault.About (p : Path) : FileFault → Prop
  | .missing q | .notDirectory q | .isDirectory q | .denied q | .nameTooLong q => q = p
  | .other _ words q => q = p ∧ '[' ∉ words.toList
  | .zeroCharacter => True

/-- What holds of any place where files are looked up. -/
structure World.Regular (w : World) : Prop where
  /-- No file has a name with the character zero in it. -/
  zero : ∀ p, holdsZero p.render = true → ∃ fault, w.find p = .error fault
  /-- Whoever looks for a path is told about this path. -/
  about : ∀ p fault, w.find p = .error fault → fault.About p

/-- Nothing but the path that was asked for is named on the way. -/
theorem Disk.about_of_follow {d : Disk} {p : Path} {here steps : List String} {fault : FileFault}
    (h : d.follow p here steps = .error fault) : fault.About p := by
  fun_induction Disk.follow d p here steps with
  | case1 => cases h
  | case2 _ _ ih => exact ih h
  | case3 =>
    cases h
    exact rfl
  | case4 =>
    cases h
    exact rfl
  | case5 _ _ _ _ _ _ ih => exact ih h
  | case6 => cases h
  | case7 =>
    cases h
    exact rfl

/-- A directory with its files is such a place, whatever else there is in the world. -/
theorem World.regular_of_disk {w : World} {d : Disk} (h : w.find = d.find) : w.Regular where
  zero := by
    intro p hp
    rw [h]
    exact ⟨.zeroCharacter, if_pos hp⟩
  about := by
    intro p fault hfault
    rw [h] at hfault
    unfold Disk.find at hfault
    split at hfault
    · cases hfault
      trivial
    · split at hfault
      · cases hfault
        exact rfl
      · split at hfault
        · exact Disk.about_of_follow hfault
        · split at hfault
          · cases hfault
          · cases hfault
            split <;> exact rfl

/-- A place with a directory and nothing else, on a wide terminal, and with settings that nobody
changed. -/
def World.over (d : Disk) : World where
  frontEnd := Go.frontEnd
  terminal := .ofWidth 400
  find := d.find
  mayRead := isReadable d.find
  sources := {}
  time := "2026-01-01 00:00:00"
  elapsed := fun _ => .zero

/-- A directory with files, each by its name and bytes. -/
def World.holding (files : List (String × List UInt8)) : World :=
  .over (files.map fun f => ([f.1], .file f.2))

/-- The world over a disk is regular, with nothing asked of the disk. -/
theorem World.regular_over (d : Disk) : (World.over d).Regular := World.regular_of_disk rfl

/-- In the world over a disk, the settings are the defaults. -/
theorem load_over (d : Disk) : Settings.load (World.over d).sources = .ok {} := rfl

/-! ## Names -/

section

variable {mayRead : String → Bool} {names : List String}

/-- No name ends the run if none holds the character zero and every file may be read. -/
theorem refusal?_eq_none :
    refusal? mayRead names = none
      ↔ ∀ name ∈ names, holdsZero name = false ∧ mayRead name = true := by
  rw [refusal?, List.findSome?_eq_none_iff]
  refine forall_congr' fun name => imp_congr_right fun _ => ?_
  cases holdsZero name <;> cases mayRead name <;> simp

/-- A run that a name ended was stopped by the character zero, or by a file that may not be
read. -/
theorem refusal?_cases {exit : Exit} (h : refusal? mayRead names = some exit) :
    (exit = .stopped FileFault.zeroCharacter.kindName ∧ ∃ name ∈ names, holdsZero name = true) ∨
      (exit = .usage ∧ ∃ name ∈ names, mayRead name = false) := by
  obtain ⟨name, hname, h⟩ := List.exists_of_findSome?_eq_some h
  cases hzero : holdsZero name with
  | true =>
    rw [if_pos hzero] at h
    cases h
    exact .inl ⟨rfl, name, hname, hzero⟩
  | false =>
    rw [if_neg (by simp [hzero])] at h
    cases hread : mayRead name with
    | true =>
      rw [if_pos hread] at h
      cases h
    | false =>
      rw [if_neg (by simp [hread])] at h
      cases h
      exact .inr ⟨rfl, name, hname, hread⟩

end

/-! ## Trials -/

section

variable {terminal : Terminal} {analyse : Path → Outcome Build}

/-- A file that has a graph stops nothing. -/
theorem Trial.stop?_of_succeeded {t : Trial} (h : t.succeeded = true) :
    t.stop? terminal = none := by
  unfold Trial.succeeded at h
  unfold Trial.stop? Trial.report
  cases hresult : t.outcome.result with
  | ok b => rfl
  | error f =>
    rw [hresult] at h
    cases h

/-- If no file stops the program, all are tried. -/
theorem trials_eq_map {files : List Path}
    (h : ∀ p ∈ files, (Trial.mk p (analyse p)).stop? terminal = none) :
    trials terminal analyse files = files.map fun p => ⟨p, analyse p⟩ := by
  induction files with
  | nil => rfl
  | cons p rest ih =>
    unfold trials
    dsimp only
    rw [h p List.mem_cons_self, List.map_cons,
      ← ih fun q hq => h q (List.mem_cons_of_mem p hq)]
    rfl

/-- All files that are tried have graphs only if all files have: a file that keeps others from
being tried has none. -/
theorem all_succeeded_trials {files : List Path} :
    (trials terminal analyse files).all Trial.succeeded = true
      ↔ ∀ p ∈ files, (Trial.mk p (analyse p)).succeeded = true := by
  induction files with
  | nil => simp [trials]
  | cons p rest ih =>
    unfold trials
    rw [List.all_cons, Bool.and_eq_true, List.forall_mem_cons]
    -- a file that has a graph lets the next one be tried
    refine and_congr_right fun hp => ?_
    rw [Trial.stop?_of_succeeded hp]
    exact ih

end

/-! ## Runs -/

/-- The program gets as far as its files: there are settings, the level that was asked for is one,
and the arguments are names of files. -/
structure Invocation.Reaches (i : Invocation) (w : World) (settings : Settings)
    (names : List String) : Prop where
  load : Settings.load w.sources = .ok settings
  level : LogTakes i.options.level
  files : w.terminal.files i.arguments = some names

namespace Invocation.Reaches

variable {i : Invocation} {w : World} {settings : Settings} {names : List String}

/-- From its files on, a run is the conclusion that is drawn from the trials. -/
theorem run_eq (h : i.Reaches w settings names) (hopen : refusal? w.mayRead names = none) :
    ∃ style, i.logStyle settings.log = .ok style ∧
      i.run w = i.conclude w style (names.length > 1)
        (trials w.terminal (w.analyse settings) (names.map Path.ofString)) := by
  obtain ⟨style, hstyle⟩ := exists_logStyle h.load h.level
  refine ⟨style, hstyle, ?_⟩
  unfold Invocation.run
  simp only [h.load, hstyle, h.files, hopen]

/-- A name that ends the run does so before the first file is tried. -/
theorem run_of_refusal (h : i.Reaches w settings names) {exit : Exit}
    (hexit : refusal? w.mayRead names = some exit) : i.run w = exit := by
  obtain ⟨style, hstyle⟩ := exists_logStyle h.load h.level
  unfold Invocation.run
  simp only [h.load, hstyle, h.files, hexit]

end Invocation.Reaches

/-- No file has a name with the character zero in it. -/
theorem World.Regular.exists_fault {w : World} (hw : w.Regular) (settings : Settings)
    {name : String} (hzero : holdsZero name = true) :
    ∃ f, (w.analyse settings (.ofString name)).result = .error f := by
  have hrender := Path.mem_render_ofString (by decide) (by decide) (List.contains_iff_mem.1 hzero)
  obtain ⟨fault, hfault⟩ := hw.zero _ (List.contains_iff_mem.2 hrender)
  unfold World.analyse
  rw [hfault]
  exact ⟨_, rfl⟩

end GoFlow
