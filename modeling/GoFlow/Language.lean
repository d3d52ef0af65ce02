import GoFlow.Event
import GoFlow.Path

/-!
# Languages

The languages that there is a grammar for, and the language of a file by its name.
-/

namespace GoFlow

/-- The names of the languages whose grammar was loaded (`ParserRegistry`). -/
structure Languages where
  names : List String
deriving DecidableEq, Repr

namespace Languages

/-- Go and its other name. -/
def go : Languages := ⟨["go", "golang"]⟩

/-- Loads the grammar of Go, which may fail for some reason (`_register_language`). -/
def load (trouble : Option String) : Languages × Event :=
  match trouble with
  | none => (go, .languageLoaded "go" ["golang"])
  | some reason => (⟨[]⟩, .languageUnavailable "go" reason)

/-- Whether there is a grammar for the language (`supports_language`). Case does not count. -/
def supports (ls : Languages) (language : String) : Bool := ls.names.contains language.toLower

end Languages

/-- The parsers that were asked for, by the names of their languages, the latest first. -/
structure Parsers where
  languages : Languages
  made : List (String × Nat) := []
deriving DecidableEq, Repr

namespace Parsers

/-- The parser of a language, by the number of parsers made before it (`get_parser`). One that is
made is kept under the name that it was asked for by. -/
def get (ps : Parsers) (language : String) : Option Nat × Parsers :=
  match ps.made.lookup language.toLower with
  | some parser => (some parser, ps)
  | none =>
    if ps.languages.supports language then
      (some ps.made.length, { ps with made := (language.toLower, ps.made.length) :: ps.made })
    else (none, ps)

/-- Whoever asks again gets the same parser, and no new one is made. -/
theorem get_again {ps after : Parsers} {language : String} {parser : Option Nat}
    (h : ps.get language = (parser, after)) : after.get language = (parser, after) := by
  unfold get at h
  split at h
  next made hmade =>
    cases h
    unfold get
    rw [hmade]
  next hmade =>
    split at h
    next hname =>
      cases h
      unfold get
      dsimp only
      rw [List.lookup_cons_self]
    next hname =>
      cases h
      unfold get
      rw [hmade]
      exact if_neg hname

end Parsers

/-- The language of a file by the suffix of its name (`detect_language`). -/
def detectLanguage (p : Path) : Option String :=
  if p.suffix.toLower == ".go" then some "go" else none

end GoFlow
