import GoFlow.Json
import GoFlow.Settings
import GoFlow.Settings.Dotenv
import GoFlow.Text.Codec

/-!
# Settings from the environment

A section may be given as a variable that holds JSON, and each of its settings as a variable of its
own. Settings that are passed in win over the environment, and the environment over a settings
file; sections are merged setting by setting.

- `Variables.sections`: the sections that variables describe.
- `Settings.load`: the settings from all sources.
-/

namespace GoFlow

/-- Named variables. One that only has a name has no value. -/
abbrev Variables := List (String × Option String)

/-! ## Merging -/

mutual

/-- A value over another: dictionaries are merged entry by entry, anything else wins. -/
def Value.overlay (base : Value) : Value → Value
  | .dict entries =>
    match base with
    | .dict below => .dict (Fields.overlay below entries)
    | _ => .dict entries
  | v => v

/-- Entries over others. -/
def Fields.overlay (base : List (String × Value)) : List (String × Value) → List (String × Value)
  | [] => base
  | (key, v) :: rest =>
    let merged := match Fields.get? base key with
      | some below => Value.overlay below v
      | none => v
    Fields.overlay (Fields.set base key merged) rest

end

/-! ## Variables -/

/-- The parts of a name between double underscores. `pending` holds the current part in
reverse. -/
def splitName (pending : List Char) : List Char → List String
  | '_' :: '_' :: rest => String.ofList pending.reverse :: splitName [] rest
  | c :: rest => splitName (c :: pending) rest
  | [] => [String.ofList pending.reverse]

/-- Sets the value at the end of a path of keys. Nothing is set below a value that is no
dictionary. -/
def Fields.setPath (fields : Fields) (v : Value) : List String → Fields
  | [] => fields
  | [key] => fields.set key v
  | key :: path =>
    match fields.get? key with
    | none => fields.set key (.dict (Fields.setPath [] v path))
    | some (.dict below) => fields.set key (.dict (Fields.setPath below v path))
    | some _ => fields

/-- The value of a variable. -/
def variableValue : Option String → Value
  | some s => .str s
  | none => .null

/-- A section of the settings and the names of its settings. -/
structure SectionNames where
  name : String
  settings : List String

/-- The sections of the settings. -/
def sectionNames : List SectionNames :=
  [⟨"log", ["level", "format"]⟩, ⟨"parsing", ["language", "encoding", "max_file_size_bytes"]⟩]

namespace Variables

/-- The variables with lower-case names. Of two with the same name the later one counts. -/
def lowered (vars : Variables) : Variables :=
  vars.foldl (fun done e => Dotenv.assign done e.1.toLower e.2) []

/-- The settings of a section that have a variable of their own. -/
def ownSettings (vars : Variables) (variableName : String) : Fields :=
  let start := variableName ++ "__"
  vars.foldl (fun fields (name, v) =>
    if name.startsWith start then
      fields.setPath (variableValue v) (splitName [] (name.toList.drop start.length))
    else fields) []

/-- Spells the names of a section as the settings are spelled; case does not count. -/
def spelled (names : List String) (fields : Fields) : Fields :=
  fields.foldl (fun done (name, v) =>
    done.set ((names.find? (· == name.toLower)).getD name) v) []

/-- What variables say about a section: nothing, or its value. Fails if a variable for the whole
section is not JSON. -/
def sectionValue? (vars : Variables) (s : SectionNames) : Except Unit (Option Value) :=
  let variableName := "gocfg_" ++ s.name
  let own := vars.ownSettings variableName
  match (vars.lookup variableName).bind id with
  | none => .ok (if own.isEmpty then none else some (.dict (spelled s.settings own)))
  | some text =>
    match Json.parse? text with
    | none => .error ()
    | some .null => .ok none
    | some (.dict entries) => .ok (some (.dict (spelled s.settings (Fields.overlay entries own))))
    | some v => .ok (some v)

end Variables

/-- Why there are no settings. -/
inductive SettingsFault where
  /-- The settings file cannot be decoded. -/
  | text (fault : TextFault)
  /-- A variable for a whole section is not JSON. -/
  | unreadable (name source : String)
  | invalid (problems : List SettingProblem)
deriving DecidableEq, Repr

namespace SettingsFault

/-- The name under which reports list the fault. -/
def kindName : SettingsFault → String
  | .text fault => fault.kindName
  | .unreadable .. => "SettingsError"
  | .invalid _ => "ValidationError"

/-- The fault in words. Settings that are wrong each have words of their own. -/
def message : SettingsFault → String
  | .text fault => fault.message
  | .unreadable name source =>
    "error parsing value for field \"" ++ name ++ "\" from source \"" ++ source ++ "\""
  | .invalid _ => ""

end SettingsFault

/-- The sections that variables describe. -/
def Variables.sections (source : String) (vars : Variables) : Except SettingsFault Fields :=
  sectionNames.foldlM (fun fields s =>
    match vars.lowered.sectionValue? s with
    | .error _ => .error (.unreadable s.name source)
    | .ok none => .ok fields
    | .ok (some v) => .ok (Fields.set fields s.name v)) []

/-- Where settings come from. -/
structure SettingsSources where
  /-- Sections that are passed in. -/
  given : Fields := []
  environment : List (String × String) := []
  /-- Bytes of the settings file. -/
  dotenv : Option (List UInt8) := none

namespace SettingsSources

/-- The variables of the settings file. -/
def fileVariables (s : SettingsSources) : Except SettingsFault Variables :=
  match s.dotenv with
  | none => .ok []
  | some bytes =>
    match decodeAs "utf-8" bytes with
    | .error fault => .error (.text fault)
    | .ok text => .ok (Dotenv.expand s.environment (Dotenv.read text))

/-- The sections of all sources, merged. The settings file is read first. -/
def merged (s : SettingsSources) : Except SettingsFault Fields := do
  let fileVariables ← s.fileVariables
  let environment ← Variables.sections "EnvSettingsSource"
    (s.environment.map fun (name, v) => (name, some v))
  let file ← Variables.sections "DotEnvSettingsSource" fileVariables
  return Fields.overlay file (Fields.overlay environment s.given)

end SettingsSources

/-- The settings from all sources. -/
def Settings.load (s : SettingsSources) : Except SettingsFault Settings := do
  (Settings.ofFields (← s.merged)).mapError .invalid

/-- Settings that are kept once they were loaded. -/
structure SettingsCache where
  kept : Option Settings := none
deriving DecidableEq, Repr

/-- The settings that are kept (`get_settings`). If there are none, those of the sources are loaded
first. -/
def SettingsCache.get (c : SettingsCache) (s : SettingsSources) :
    Except SettingsFault (Settings × SettingsCache) :=
  match c.kept with
  | some settings => .ok (settings, c)
  | none => do
    let settings ← Settings.load s
    return (settings, ⟨some settings⟩)

/-- What was got once is got again, whatever the sources say by then. -/
theorem SettingsCache.get_again {c kept : SettingsCache} {s : SettingsSources} {settings : Settings}
    (h : c.get s = .ok (settings, kept)) (later : SettingsSources) :
    kept.get later = .ok (settings, kept) := by
  unfold get at h
  split at h
  next hkept =>
    cases h
    unfold get
    rw [hkept]
  next =>
    cases hload : Settings.load s with
    | error fault =>
      rw [hload] at h
      cases h
    | ok loaded =>
      rw [hload] at h
      cases h
      rfl

/-- The settings from all sources, except that the front end is set up as given. -/
def Settings.loadFor (s : SettingsSources) (parsing : ParsingSettings) :
    Except SettingsFault Settings := do
  let log ← (readLogSection (← s.merged)).mapError .invalid
  return { log, parsing }

end GoFlow
