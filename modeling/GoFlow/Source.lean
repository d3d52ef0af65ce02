import GoFlow.Language
import GoFlow.Source.Disk
import GoFlow.Text.Codec
import GoFlow.Text.Lines

/-!
# Sources

A source is the text of one compilation unit with its name, language and encoding.

- `Source.ofFile`: reading a file as a source.
- `Source.lineCount`, `Source.getLine`, `Source.byteSize`: what is asked of a source.
- `Failure`: why a source or a file has no graph.
-/

namespace GoFlow

/-- Why there is no graph. -/
inductive Failure where
  /-- There is no grammar for the language. -/
  | unsupported (language file : String)
  /-- The name of the file does not tell its language. -/
  | undetected (path : Path)
  | tooLarge (path : Path) (size limit : Nat)
  /-- The source is no Go in some places. -/
  | unparsable (file : String) (places : List (Int × Int))
  | text (fault : TextFault)
  | file (fault : FileFault)
deriving DecidableEq, Repr

namespace Failure

/-- The report on a failure that has one. -/
def report? : Failure → Option Report
  | .unsupported language name =>
    some ⟨.unsupportedLanguage, "Language not supported: " ++ language,
      [("file_path", .str name)]⟩
  | .undetected path =>
    some ⟨.unsupportedLanguage, "Could not detect language for: " ++ path.render,
      [("suffix", .str path.suffix)]⟩
  | .tooLarge path size limit =>
    some ⟨.fileTooLarge, "File too large to analyze: " ++ path.render,
      [("size", .int size), ("limit", .int limit)]⟩
  | .unparsable name places => some (.syntaxFault name places)
  | .text _ | .file _ => none

/-- The failure in words. -/
def message (f : Failure) : String :=
  match f with
  | .text fault => fault.message
  | .file fault => fault.message
  | f => f.report?.elim "" Report.message

/-- The name under which reports list the failure. -/
def kindName (f : Failure) : String :=
  match f with
  | .text fault => fault.kindName
  | .file fault => fault.kindName
  | f => f.report?.elim "" (·.category.name)

end Failure

/-- The text of one compilation unit (`SourceFile`). -/
structure Source where
  file : String := "<memory>"
  content : String
  language : String := "go"
  /-- Name of the encoding, known or not. -/
  encoding : String := "utf-8"
deriving DecidableEq, Repr

namespace Source

/-- The text of a file: decoded, with every line ending written as a line feed. -/
def readText (encoding : String) (bytes : List UInt8) : Except TextFault String := do
  return String.ofList (unifyNewlines (← (← fileEncoding encoding).decodeStream bytes))

/-- Reads a file as a source (`from_file`). The name tells the language unless it is given. -/
def ofFile (path : Path) (entry : Entry) (language : Option String) (encoding : String) :
    Except Failure Source := do
  -- a name that is none is noticed before anything is opened
  let unopened (fault : FileFault) : Failure :=
    if holdsZero encoding then .text .zeroInName else .file fault
  let bytes ← match entry with
    | .directory => .error (unopened (.isDirectory path))
    | .locked _ => .error (unopened (.denied path))
    | .file bytes => .ok bytes
  let content ← (readText encoding bytes).mapError .text
  match language <|> detectLanguage path with
  | some language => return { file := path.render, content, language, encoding }
  | none => .error (.undetected path)

/-- The bytes of a source. -/
def bytes (s : Source) : Except TextFault (List UInt8) := encodeAs s.encoding s.content

/-- Size in bytes (`byte_size`). -/
def byteSize (s : Source) : Except TextFault Nat := return (← s.bytes).length

/-- Number of lines (`line_count`). -/
def lineCount (s : Source) : Nat := (splitLines s.content).length

/-- A line by number from one, without its ending; empty if there is no such line (`get_line`). -/
def getLine (s : Source) (number : Int) : String :=
  if number < 1 then ""
  else ((splitLines s.content)[(number - 1).toNat]?).elim "" fun l => String.ofList l.text

end Source

end GoFlow
