import GoFlow.Analysis
import GoFlow.Binary64
import GoFlow.Block
import GoFlow.Block.Fault
import GoFlow.Block.Kind
import GoFlow.Command
import GoFlow.Command.Table
import GoFlow.Decimal
import GoFlow.Decimal.Shortest
import GoFlow.Duration
import GoFlow.Event
import GoFlow.Go.Declaration
import GoFlow.Go.Expression
import GoFlow.Go.FrontEnd
import GoFlow.Go.Grammar
import GoFlow.Go.Number
import GoFlow.Go.Statement
import GoFlow.Go.Token
import GoFlow.Go.Type
import GoFlow.Graph
import GoFlow.Graph.Log
import GoFlow.Graph.Render
import GoFlow.Json
import GoFlow.Json.Token
import GoFlow.Language
import GoFlow.Log
import GoFlow.Log.Level
import GoFlow.Main
import GoFlow.Node
import GoFlow.Node.Label
import GoFlow.Outline
import GoFlow.Path
import GoFlow.Proofs.Registry
import GoFlow.Report
import GoFlow.Settings
import GoFlow.Settings.Dotenv
import GoFlow.Settings.Environment
import GoFlow.Source
import GoFlow.Source.Disk
import GoFlow.Text.Blank
import GoFlow.Text.CharSet
import GoFlow.Text.Codec
import GoFlow.Text.Emoji
import GoFlow.Text.Encoding
import GoFlow.Text.Escape
import GoFlow.Text.Letter
import GoFlow.Text.Lines
import GoFlow.Text.Lower
import GoFlow.Text.Markup
import GoFlow.Text.Markup.Style
import GoFlow.Text.Printable
import GoFlow.Text.Quoted
import GoFlow.Text.Upper
import GoFlow.Text.Width
import GoFlow.Text.Wrap
import GoFlow.Value
import GoFlow.Value.Literal
import GoFlow.Walk
import GoFlow.Proofs.Replay
import GoFlow.Proofs.Sound
import GoFlow.Proofs.Listing
import GoFlow.Proofs.Outline
import GoFlow.Proofs.Parts
import GoFlow.Proofs.Visits
import GoFlow.Proofs.Anchored
import GoFlow.Proofs.Encodings
import GoFlow.Proofs.Integrity
import GoFlow.Proofs.Occurrence
import GoFlow.Proofs.OwedEdges
import GoFlow.Proofs.Confinement
import GoFlow.Proofs.Mirror
import GoFlow.Proofs.Modularity
import GoFlow.Proofs.LastWrite
import GoFlow.Proofs.Overlay
import GoFlow.Proofs.DeadEnds
import GoFlow.Proofs.Descent
import GoFlow.Proofs.Returns
import GoFlow.Proofs.Scoping
import GoFlow.Proofs.LoopBodies
import GoFlow.Proofs.Accounts
import GoFlow.Proofs.Coverage
import GoFlow.Proofs.Layout
import GoFlow.Proofs.Passage
import GoFlow.Proofs.Cycles
import GoFlow.Proofs.Ownership
import GoFlow.Proofs.Rewriting
import GoFlow.Proofs.Comments
import GoFlow.Proofs.StatementLists
import GoFlow.Proofs.Unbroken
import GoFlow.Proofs.DrawnEdges
import GoFlow.Proofs.StatementBlocks
import GoFlow.Proofs.Stranded
import GoFlow.Proofs.Shifting
import GoFlow.Proofs.Characters
import GoFlow.Proofs.Running
import GoFlow.Proofs.FileChecks
import GoFlow.Proofs.AllOrNothing
import GoFlow.Proofs.Literals
import GoFlow.Proofs.Reports
import GoFlow.Proofs.ImplicitExit
import GoFlow.Proofs.Traversal
import GoFlow.Proofs.Faults
import GoFlow.Proofs.StackedWalk
import GoFlow.Proofs.HeaderLiterals
import GoFlow.Proofs.Ranks
import GoFlow.Proofs.Fallthrough
import GoFlow.Proofs.Rendering
import GoFlow.Proofs.Itinerary
import GoFlow.Proofs.StrictWalk
import GoFlow.Proofs.LineEndings
import GoFlow.Proofs.Rows
import GoFlow.Proofs.EdgeMaps
import GoFlow.Proofs.ProgressLog
import GoFlow.Proofs.Utf8
import GoFlow.Proofs.FileSizes
