import Storyboard.Json.Basic
import Storyboard.Json.Printer
import Storyboard.Json.Reader
import Storyboard.Json.Path
import Storyboard.Decimal.Binary
import Storyboard.Decimal.Shortest
import Storyboard.Decimal.Layout
import Storyboard.Decimal.Read
import Storyboard.Text.Table
import Storyboard.Text.Blank
import Storyboard.Text.Classes
import Storyboard.Text.Unprintable
import Storyboard.Text.Canonical
import Storyboard.Format.Shape
import Storyboard.Format.Value
import Storyboard.Format.Text
import Storyboard.Script.Coerce
import Storyboard.Script.Arith
import Storyboard.Script.Eval
import Storyboard.Project.Basic
import Storyboard.Project.Read
import Storyboard.Project.Write
import Storyboard.Web.Punycode
import Storyboard.Web.DomainMap
import Storyboard.Web.Host
import Storyboard.Web.Url
import Storyboard.Preview.Outcome
import Storyboard.Preview.Store
import Storyboard.Preview.Wire
import Storyboard.Preview.Run
import Storyboard.Preview.Session
import Storyboard.Lint
import Storyboard.Layout.Tree
import Storyboard.Layout.Flex
import Storyboard.Options
import Storyboard.Main
import Storyboard.Proofs.Path
import Storyboard.Proofs.Absorb
import Storyboard.Proofs.Steps
import Storyboard.Proofs.Depth
import Storyboard.Proofs.Visits
import Storyboard.Proofs.Requests
import Storyboard.Proofs.Reviewed
import Storyboard.Proofs.Doubles
import Storyboard.Proofs.Checked
import Storyboard.Proofs.Placement
import Storyboard.Proofs.Links
import Storyboard.Proofs.Edits
import Storyboard.Proofs.Batches
import Storyboard.Proofs.Arithmetic
import Storyboard.Proofs.Offsets
import Storyboard.Proofs.Splicing
import Storyboard.Proofs.Writes
import Storyboard.Proofs.Decoding
import Storyboard.Proofs.Numerals
import Storyboard.Proofs.RoundTrip
import Storyboard.Proofs.JsonText
import Storyboard.Proofs.Propagation
import Storyboard.Proofs.DispatchTree
import Storyboard.Proofs.EmitGraph
import Storyboard.Proofs.Reads
import Storyboard.Proofs.ScanText
import Storyboard.Proofs.Formed
import Storyboard.Proofs.Written
import Storyboard.Proofs.ProjectText
import Storyboard.Proofs.Reflow
import Storyboard.Proofs.Spacing
import Storyboard.Proofs.Reload
import Storyboard.Proofs.Reports
import Storyboard.Proofs.Ancestry
import Storyboard.Proofs.ExactSums
import Storyboard.Proofs.Counters
import Storyboard.Proofs.ChildOrder
import Storyboard.Proofs.Refusals
import Storyboard.Proofs.Nesting
import Storyboard.Proofs.Registry
import Storyboard.Proofs.LogBuffers
import Storyboard.Proofs.Masking
import Storyboard.Proofs.NumberValues
import Storyboard.Proofs.Overrides
import Storyboard.Proofs.Settling
