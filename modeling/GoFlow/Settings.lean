import GoFlow.Log.Level
import GoFlow.Text.Blank
import GoFlow.Value

/-!
# Settings

Settings come in two sections. A section is made from named values, each of which is checked; all
that is wrong is reported together, in the order of the settings.

- `LogSettings.ofFields`, `ParsingSettings.ofFields`: one section.
- `Settings.ofFields`: both.
-/

namespace GoFlow

/-- What is wrong with the value of a setting. -/
inductive SettingFault where
  | unknownLevel (name : String)
  | unknownFormat
  | notText
  /-- A text that no encoding can write. -/
  | tornText
  | notInteger
  | noIntegerText
  /-- A text or a number that is too large to look at. -/
  | hugeInteger
  | notFinite
  | fractional
  | below (least : Nat)
  | above (greatest : Nat)
  | notSection (name : String)
deriving DecidableEq, Repr

namespace SettingFault

/-- The short name of the fault. -/
def kindName : SettingFault → String
  | .unknownLevel _ => "value_error"
  | .unknownFormat => "literal_error"
  | .notText => "string_type"
  | .tornText => "string_unicode"
  | .notInteger => "int_type"
  | .noIntegerText => "int_parsing"
  | .hugeInteger => "int_parsing_size"
  | .notFinite => "finite_number"
  | .fractional => "int_from_float"
  | .below _ => "greater_than_equal"
  | .above _ => "less_than_equal"
  | .notSection _ => "model_type"

/-- The fault in words. -/
def message : SettingFault → String
  | .unknownLevel name => "Value error, Unknown log level: " ++ name
  | .unknownFormat => "Input should be 'console' or 'json'"
  | .notText => "Input should be a valid string"
  | .tornText =>
    "Input should be a valid string, unable to parse raw data as a unicode string"
  | .notInteger => "Input should be a valid integer"
  | .noIntegerText => "Input should be a valid integer, unable to parse string as an integer"
  | .hugeInteger => "Unable to parse input string as an integer, exceeded maximum size"
  | .notFinite => "Input should be a finite number"
  | .fractional => "Input should be a valid integer, got a number with a fractional part"
  | .below least => "Input should be greater than or equal to " ++ toString least
  | .above greatest => "Input should be less than or equal to " ++ toString greatest
  | .notSection name => "Input should be a valid dictionary or instance of " ++ name

end SettingFault

/-- A fault and the names that lead to its setting. -/
structure SettingProblem where
  place : List String
  fault : SettingFault
deriving DecidableEq, Repr

/-! ## Single values -/

/-- Any text. -/
def readTextSetting : Value → Except SettingFault String
  | .str s => .ok s
  | .torn => .error .tornText
  | _ => .error .notText

/-- The level of a log, in upper case (`_normalize_level`). -/
def readLevelSetting (v : Value) : Except SettingFault String := do
  let name := upperText (← readTextSetting v)
  if ["DEBUG", "INFO", "WARNING", "ERROR", "CRITICAL"].contains name then .ok name
  else .error (.unknownLevel name)

/-- The format of a log. -/
def readFormatSetting : Value → Except SettingFault String
  | .str "console" => .ok "console"
  | .str "json" => .ok "json"
  | _ => .error .unknownFormat

/-- The integer that digits without a leading zero stand for, perhaps with a minus in front. -/
def plainInteger? (s : List Char) : Option Int :=
  let (negative, digits) := match s with
    | '-' :: rest => (true, rest)
    | rest => (false, rest)
  let leadingZero := digits.length > 1 && digits.head? == some '0'
  if digits.isEmpty || leadingZero || !digits.all Char.isDigit then none
  else
    let n : Int := digits.foldl (fun n c => n * 10 + (c.toNat - '0'.toNat)) 0
    some (if negative then -n else n)

/-- What follows leading zeros, among which there may be underscores. `last` is the latest of them,
which stays if nothing or a point follows. -/
def behindZeros (last : Char) : List Char → Option (List Char)
  | [] => some [last]
  | c :: rest =>
    if c == '0' || c == '_' then behindZeros c rest
    else if c == '.' then some (last :: c :: rest)
    else if c.isDigit || c == '-' then some (c :: rest)
    else none

/-- A number without leading zeros; it starts with a digit or a minus. -/
def dropZeros : List Char → Option (List Char)
  | [] => none
  | c :: rest =>
    if c == '0' then behindZeros c rest
    else if c.isDigit || c == '-' then some (c :: rest)
    else none

/-- A number without a point that has nothing but zeros behind it, at least one. -/
def dropFraction (s : List Char) : List Char :=
  let fraction := (s.dropWhile (· != '.')).drop 1
  if !fraction.isEmpty && fraction.all (· == '0') then s.takeWhile (· != '.') else s

/-- A number without the underscores between its digits, as long as all are single and inside. -/
def dropUnderscores (s : List Char) : List Char :=
  let rec single : List Char → Bool
    | '_' :: '_' :: _ => false
    | _ :: rest => single rest
    | [] => true
  if s.head? != some '_' && s.getLast? != some '_' && single s then s.filter (· != '_') else s

/-- The integer that a text stands for: blanks around it, a plus, leading zeros, zeros behind a
point, and underscores between digits are all allowed. -/
def integerText? (s : List Char) : Option Int := do
  let body ← match trimBlanks s with
    | '+' :: '-' :: _ => none
    | '+' :: rest => some rest
    | rest => some rest
  plainInteger? (dropUnderscores (dropFraction (← dropZeros body)))

/-- Most bytes of a text that stands for an integer. -/
def longestIntegerText : Nat := 4300

/-- No binary number of this size or above stands for an integer. -/
def leastHugeNumber : Nat := Nat.pow 2 63

/-- Any integer. -/
def readIntegerSetting : Value → Except SettingFault Int
  | .int n => .ok n
  | .bool b => .ok (if b then 1 else 0)
  | .real x =>
    match x with
    | .finite .. =>
      match x.toInt? with
      | some n => if n.natAbs < leastHugeNumber then .ok n else .error .hugeInteger
      | none => .error .fractional
    | _ => .error .notFinite
  | .str s =>
    if s.utf8ByteSize > longestIntegerText then .error .hugeInteger
    else (integerText? s.toList).elim (.error .noIntegerText) .ok
  | .torn => .error .tornText
  | _ => .error .notInteger

/-- The least limit on the size of a file. -/
def leastFileSize : Nat := 1024

/-- The greatest limit on the size of a file. -/
def greatestFileSize : Nat := 100000000

/-- A limit on the size of a file. -/
def readSizeSetting (v : Value) : Except SettingFault Nat := do
  let n ← readIntegerSetting v
  if n < leastFileSize then .error (.below leastFileSize)
  else if n > greatestFileSize then .error (.above greatestFileSize)
  else .ok n.toNat

/-! ## Sections -/

/-- Settings of the log (`LogConfig`). -/
structure LogSettings where
  level : String := "INFO"
  format : String := "console"
deriving DecidableEq, Repr

/-- Settings of the front end (`ParsingConfig`). -/
structure ParsingSettings where
  language : String := "go"
  encoding : String := "utf-8"
  /-- Greatest size of a file in bytes. -/
  maxFileSize : Nat := 10000000
deriving DecidableEq, Repr

/-- All settings (`GoCfgSettings`). -/
structure Settings where
  log : LogSettings := {}
  parsing : ParsingSettings := {}
deriving DecidableEq, Repr

/-- A value that is read from a field, or the fault that was found, with its place. -/
abbrev Checked (α : Type) := Except (List SettingProblem) α

/-- Reads one field; a field that is not there has its default. -/
def readField {α : Type} (fields : Fields) (name : String) (default : α)
    (read : Value → Except SettingFault α) : Checked α :=
  match fields.get? name with
  | none => .ok default
  | some v => (read v).mapError fun fault => [⟨[name], fault⟩]

/-- Joins two checked parts. The faults of both are kept. -/
def Checked.and {α β γ : Type} (f : α → β → γ) (a : Checked α) (b : Checked β) : Checked γ :=
  match a, b with
  | .ok x, .ok y => .ok (f x y)
  | .ok _, .error e => .error e
  | .error e, .ok _ => .error e
  | .error e, .error e' => .error (e ++ e')

/-- The settings of the log from named values. Other names do not count. -/
def LogSettings.ofFields (fields : Fields) : Checked LogSettings :=
  Checked.and LogSettings.mk (readField fields "level" "INFO" readLevelSetting)
    (readField fields "format" "console" readFormatSetting)

/-- The settings of the front end from named values. Other names do not count. -/
def ParsingSettings.ofFields (fields : Fields) : Checked ParsingSettings :=
  Checked.and (fun (language, encoding) size => ⟨language, encoding, size⟩)
    (Checked.and Prod.mk (readField fields "language" "go" readTextSetting)
      (readField fields "encoding" "utf-8" readTextSetting))
    (readField fields "max_file_size_bytes" 10000000 readSizeSetting)

/-- Reads one section; a section that is not there has its defaults. -/
def readSection {α : Type} (fields : Fields) (name typeName : String) (default : α)
    (read : Fields → Checked α) : Checked α :=
  match fields.get? name with
  | none => .ok default
  | some (.dict entries) =>
    (read entries).mapError fun ps => ps.map fun p => { p with place := name :: p.place }
  | some _ => .error [⟨[name], .notSection typeName⟩]

/-- The section on the log. -/
def readLogSection (fields : Fields) : Checked LogSettings :=
  readSection fields "log" "LogConfig" {} LogSettings.ofFields

/-- The section on the front end. -/
def readParsingSection (fields : Fields) : Checked ParsingSettings :=
  readSection fields "parsing" "ParsingConfig" {} ParsingSettings.ofFields

/-- All settings from named sections. -/
def Settings.ofFields (fields : Fields) : Checked Settings :=
  Checked.and Settings.mk (readLogSection fields) (readParsingSection fields)

end GoFlow
