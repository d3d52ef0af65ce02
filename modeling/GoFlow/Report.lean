import GoFlow.Value.Literal

/-!
# Reports

How a problem is reported: under a category, with a text, and with details that are shown behind
the text.
-/

namespace GoFlow

/-- The categories of reports, from the general to the special. -/
inductive Category where
  | general
  | validation
  | unsupportedLanguage
  | fileTooLarge
  | analysis
  | parsing
  | syntaxFault
deriving DecidableEq, Repr

namespace Category

/-- The name of the category. -/
def name : Category → String
  | .general => "GoCfgError"
  | .validation => "ValidationError"
  | .unsupportedLanguage => "UnsupportedLanguageError"
  | .fileTooLarge => "FileTooLargeError"
  | .analysis => "AnalysisError"
  | .parsing => "ParsingError"
  | .syntaxFault => "ParseFailure"

/-- All categories. -/
def all : List Category :=
  [.general, .validation, .unsupportedLanguage, .fileTooLarge, .analysis, .parsing, .syntaxFault]

/-- The category of the name. -/
def ofName? (s : String) : Option Category := all.find? (·.name == s)

/-- The more general categories, the nearest first. -/
def above : Category → List Category
  | .general => []
  | .validation | .analysis => [.general]
  | .unsupportedLanguage | .fileTooLarge => [.validation, .general]
  | .parsing => [.analysis, .general]
  | .syntaxFault => [.parsing, .analysis, .general]

/-- The names of the category and of all above it, up to the root of all errors. -/
def lineage (c : Category) : List String := (c :: c.above).map name ++ ["Exception"]

end Category

/-- A problem in words (`GoCfgError`). -/
structure Report where
  category : Category
  text : String
  details : Fields := []
deriving Repr

namespace Report

/-- The text with the details behind it. A syntax fault has them in its text already. -/
def message (r : Report) : String :=
  if r.category = .syntaxFault || r.details.isEmpty then r.text
  else r.text ++ " (details: " ++ (Value.dict r.details).literal ++ ")"

/-- Lines and columns, each as a pair. -/
def places (errors : List (Int × Int)) : Value :=
  .list (errors.map fun (line, col) => .tuple [.int line, .int col])

/-- The report on places that are no Go (`ParseFailure`). -/
def syntaxFault (file : String) (errors : List (Int × Int)) : Report where
  category := .syntaxFault
  text := "Failed to parse " ++ file ++ ": syntax error at "
    ++ ", ".intercalate (errors.map fun (line, col) => toString line ++ ":" ++ toString col)
  details := [("file_path", .str file), ("errors", places errors)]

end Report

end GoFlow
