import ShaderGraph.Binary32.Layout
import ShaderGraph.Binary32.Reading
import ShaderGraph.Text.Identifier
import ShaderGraph.Text.Quoted
import ShaderGraph.Text.Utf8
import ShaderGraph.Graph.Connect
import ShaderGraph.Graph.Edit
import ShaderGraph.Lowering
import ShaderGraph.Backend
import ShaderGraph.Document.Writer
import ShaderGraph.Document.Reader
import ShaderGraph.Command
import ShaderGraph.History
import ShaderGraph.Storage.FileTree
import ShaderGraph.Config
import ShaderGraph.Session
import ShaderGraph.Watch
import ShaderGraph.CommandLine.Run
import ShaderGraph.Main
import ShaderGraph.Proofs.Lowering.Correct
import ShaderGraph.Proofs.Lowering.Closed
import ShaderGraph.Proofs.Lowering.LivePart
import ShaderGraph.Proofs.Session.Refinement
import ShaderGraph.Proofs.Session.Unsaved
import ShaderGraph.Proofs.Document.RoundTrip
import ShaderGraph.Proofs.Graph.Allocation
import ShaderGraph.Proofs.Graph.Outcomes
import ShaderGraph.Proofs.Graph.Connecting
import ShaderGraph.Proofs.Graph.LeastOrder
import ShaderGraph.Proofs.Session.Files
import ShaderGraph.Proofs.Lowering.Refreshing
import ShaderGraph.Proofs.Session.Stepping
import ShaderGraph.Proofs.Session.Undoing
import ShaderGraph.Proofs.Dialect.Refusals
import ShaderGraph.Proofs.Lowering.Source
import ShaderGraph.Proofs.Graph.Writing
import ShaderGraph.Proofs.Watching
import ShaderGraph.Proofs.Dialect.Unambiguous
import ShaderGraph.Proofs.Graph.Equivalence
import ShaderGraph.Proofs.Session.Recent
import ShaderGraph.Proofs.CommandLine
import ShaderGraph.Proofs.Watching.Releasing
