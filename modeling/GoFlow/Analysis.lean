import GoFlow.Settings
import GoFlow.Source

/-!
# From source to graph

- `Source.parse`: the syntax tree of a source, as long as no part of it is at fault.
- `Source.analyse`: the graph of a source.
- `analyseFile`: the graph of a file.

Every step reports events; an analysis that fails keeps those reported until then.
-/

namespace GoFlow

/-- The events of an analysis, in order, and how it ended. -/
structure Outcome (α : Type) where
  events : List Event
  result : Except Failure α

/-- Turns the bytes of a source into a syntax tree. -/
abbrev FrontEnd := List UInt8 → Node

/-- Lines and columns of the faults of a tree. -/
def Node.faultPlaces (root : Node) : List (Int × Int) :=
  root.faults.map fun n => (n.startLine, (n.span.startCol : Int))

namespace Source

/-- A source from a text (`from_content`). The settings say what language and encoding it is in; a
language that is given counts unless it is empty. -/
def ofContent (settings : ParsingSettings) (content : String) (file : String := "<memory>")
    (language : String := "") : Source where
  file
  content
  language := if language == "" then settings.language else language
  encoding := settings.encoding

/-- Decodes the text of a node of the source. -/
def decodeText (s : Source) (text : List UInt8) : Except TextFault String :=
  decodeAs s.encoding text

/-- The text of a node; a node without text has the empty one (`get_text`). -/
def nodeText (s : Source) (n : Node) : Except TextFault String :=
  n.head.text.elim (.ok "") s.decodeText

/-- A tree of the source in words. -/
def describeTree (s : Source) : String :=
  "AstTree(file=" ++ s.file ++ ", language=" ++ s.language ++ ")"

/-- The syntax tree of a source (`AstTree.parse`). The language is looked at first, then whether the
content can be written in the encoding, then the tree. -/
def parse (frontEnd : FrontEnd) (languages : Languages) (s : Source) : Outcome Node :=
  if !languages.supports s.language then ⟨[], .error (.unsupported s.language s.file)⟩
  else
    match s.bytes with
    | .error fault => ⟨[], .error (.text fault)⟩
    | .ok bytes =>
      let root := frontEnd bytes
      if root.hasFault then
        ⟨[.parseFailed s.file root.faultPlaces], .error (.unparsable s.file root.faultPlaces)⟩
      else ⟨[], .ok root⟩

/-- The graph of a tree of the source (`build_blocks`). -/
def buildGraph (s : Source) (root : Node) : Outcome Build :=
  match build s.decodeText root {} with
  | .error stopped =>
    ⟨stopped.log.map .functionWalked ++ [.walkEnded s.file (some stopped.cause.kindName)],
      .error (.text stopped.cause)⟩
  | .ok b =>
    ⟨b.log.map .functionWalked
      ++ [.walkEnded s.file none,
          .graphBuilt s.file b.listing.length (b.graph.edgeCount b.listing)],
      .ok b⟩

/-- A graph that is there was built, and what is reported of it is known. -/
theorem buildGraph_eq_ok {s : Source} {root : Node} {b : Build}
    (h : (s.buildGraph root).result = .ok b) :
    build s.decodeText root {} = .ok b ∧ (s.buildGraph root).events = b.log.map .functionWalked
      ++ [.walkEnded s.file none,
          .graphBuilt s.file b.listing.length (b.graph.edgeCount b.listing)] := by
  unfold buildGraph at h ⊢
  cases hbuild : build s.decodeText root {} with
  | error stopped =>
    rw [hbuild] at h
    cases h
  | ok b' =>
    rw [hbuild] at h
    cases h
    exact ⟨rfl, rfl⟩

/-- The graph of a source (`blocks_from_source`). -/
def analyse (frontEnd : FrontEnd) (languages : Languages) (s : Source) : Outcome Build :=
  let parsed := s.parse frontEnd languages
  match parsed.result with
  | .error failure => ⟨parsed.events, .error failure⟩
  | .ok root =>
    let built := s.buildGraph root
    ⟨parsed.events ++ built.events, built.result⟩

end Source

/-- The graph of a file (`blocks_from_file`). The size is looked at before the content. -/
def analyseFile (frontEnd : FrontEnd) (languages : Languages) (settings : ParsingSettings)
    (path : Path) (found : Except FileFault Entry) : Outcome Build :=
  match found with
  | .error fault => ⟨[], .error (.file fault)⟩
  | .ok entry =>
    if entry.size > settings.maxFileSize then
      ⟨[], .error (.tooLarge path entry.size settings.maxFileSize)⟩
    else
      match Source.ofFile path entry none settings.encoding with
      | .error failure => ⟨[], .error failure⟩
      | .ok source => source.analyse frontEnd languages

end GoFlow
