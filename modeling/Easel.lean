import Easel.Text.Basic
import Easel.Text.Blank
import Easel.Text.Word
import Easel.Text.Quoted
import Easel.Text.LetterCase
import Easel.Decimal.Numeral
import Easel.Json.Reader
import Easel.Json.Writer
import Easel.Json.Bytes
import Easel.Shape.Descriptor
import Easel.Shape.NumberText
import Easel.Element.Basic
import Easel.Element.Ids
import Easel.Element.OfShape
import Easel.Element.Batch
import Easel.Graph.Levels
import Easel.Flowchart.Basic
import Easel.Flowchart.Line
import Easel.Flowchart.OfText
import Easel.Flowchart.Layout
import Easel.Flowchart.Shapes
import Easel.LogLine
import Easel.Scene.Basic
import Easel.Scene.Push
import Easel.Scene.Notice
import Easel.Scene.Peer
import Easel.Scene.Hub
import Easel.Converter.Basic
import Easel.Converter.Npx
import Easel.Diagram
import Easel.Gateway.Http
import Easel.Gateway.Cors
import Easel.Gateway.Routes
import Easel.Gateway.Drawing
import Easel.Gateway.Basic
import Easel.Text.Digit
import Easel.Text.Template
import Easel.Text.Wrap
import Easel.Settings.Numbers
import Easel.Settings.Basic
import Easel.Settings.Options
import Easel.Settings.Help
import Easel.Settings.Launch
import Easel.Main
import Easel.Proofs.Scene.Delivery
import Easel.Proofs.Scene.Isolation
import Easel.Proofs.Scene.Convergence
import Easel.Proofs.Flowchart.WellFormed
import Easel.Proofs.Element.Blocks
import Easel.Proofs.Element.References
import Easel.Proofs.Flowchart.Shapes
import Easel.Proofs.Flowchart.Sketch
import Easel.Proofs.Flowchart.Compile
import Easel.Proofs.Flowchart.Grid
import Easel.Proofs.Graph.Recursion
import Easel.Proofs.Graph.Survey
import Easel.Proofs.Graph.Account
import Easel.Proofs.Graph.Depth
import Easel.Proofs.Graph.Cycles
import Easel.Proofs.Shape.Reading
import Easel.Proofs.Element.Ownership
import Easel.Proofs.Gateway.Requests
import Easel.Proofs.Gateway.Reachable
import Easel.Proofs.Gateway.AllOrNothing
import Easel.Proofs.Text.Lines
import Easel.Proofs.Flowchart.Grammar
import Easel.Proofs.Flowchart.ReadBack
import Easel.Proofs.Flowchart.Links
import Easel.Proofs.Flowchart.Rows
import Easel.Proofs.Gateway.Posts
import Easel.Proofs.Gateway.Pushes
import Easel.Proofs.Gateway.SceneIds
import Easel.Proofs.Gateway.Export
import Easel.Proofs.Json.Limits
import Easel.Proofs.Gateway.Refusals
import Easel.Proofs.Element.Encodable
import Easel.Proofs.Gateway.Auto
import Easel.Proofs.Converter.Fallback
import Easel.Proofs.Converter.Failures
import Easel.Proofs.Json.Scalars
import Easel.Proofs.Json.ReadBack
import Easel.Proofs.Scene.Updates
import Easel.Proofs.Gateway.Frames
import Easel.Proofs.Flowchart.Forms
import Easel.Proofs.Flowchart.BodyLines
import Easel.Proofs.Flowchart.Composition
import Easel.Proofs.Element.BackReferences
import Easel.Proofs.Element.Batches
import Easel.Proofs.Shape.Values
import Easel.Proofs.Shape.Rules
import Easel.Proofs.Element.Rejection
import Easel.Proofs.Shape.ReadBack
import Easel.Proofs.Shape.Recognised
import Easel.Proofs.Scene.Shutdown
import Easel.Proofs.Settings.Precedence
import Easel.Proofs.Flowchart.Integrity
import Easel.Proofs.Flowchart.Size
