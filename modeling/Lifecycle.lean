import Lifecycle.Text.Printable
import Lifecycle.Text.Quoted
import Lifecycle.Text.Blank
import Lifecycle.Table
import Lifecycle.Clock.Moment
import Lifecycle.Clock
import Lifecycle.Value
import Lifecycle.Shelf
import Lifecycle.Fault
import Lifecycle.Innate
import Lifecycle.Script
import Lifecycle.Validation
import Lifecycle.Machine
import Lifecycle.Draft
import Lifecycle.Class
import Lifecycle.Attribute
import Lifecycle.Run
import Lifecycle.Run.Access
import Lifecycle.Script.Eval
import Lifecycle.Engine
import Lifecycle.Class.Call
import Lifecycle.Host
import Lifecycle.Workspace
import Lifecycle.Command
import Lifecycle.Text.Identifier
import Lifecycle.Run.Special
import Lifecycle.Run.Farewell
import Lifecycle.Run.Signature
import Lifecycle.Run.Items
import Lifecycle.Proofs.Ends
import Lifecycle.Proofs.Plain
import Lifecycle.Proofs.Quiet
import Lifecycle.Proofs.Keeping
import Lifecycle.Proofs.World
import Lifecycle.Proofs.Committed
import Lifecycle.Proofs.Standing
import Lifecycle.Proofs.Scripts
import Lifecycle.Proofs.Edges
import Lifecycle.Proofs.Columns
import Lifecycle.Proofs.Interleaving
import Lifecycle.Proofs.Governing
import Lifecycle.Proofs.Construction
import Lifecycle.Proofs.Decorating
import Lifecycle.Proofs.Settling
import Lifecycle.Proofs.Initializing
import Lifecycle.Proofs.Validity
import Lifecycle.Proofs.Declarations
import Lifecycle.Proofs.Declared
import Lifecycle.Proofs.Blocks
import Lifecycle.Proofs.Aborted
import Lifecycle.Proofs.Notices
import Lifecycle.Proofs.Stops
import Lifecycle.Proofs.Firable
import Lifecycle.Proofs.Surface
import Lifecycle.Proofs.Placement
import Lifecycle.Proofs.Gating
import Lifecycle.Proofs.Alike
import Lifecycle.Proofs.Twins
import Lifecycle.Proofs.Texts
import Lifecycle.Proofs.Parts
import Lifecycle.Proofs.Order
import Lifecycle.Proofs.Building
import Lifecycle.Proofs.Strides
import Lifecycle.Proofs.Stamped
import Lifecycle.Proofs.Choosing
import Lifecycle.Proofs.Onward
import Lifecycle.Proofs.Steady
import Lifecycle.Proofs.Hearing
import Lifecycle.Proofs.Filtering
import Lifecycle.Proofs.Courses
import Lifecycle.Proofs.Footprint
import Lifecycle.Proofs.Timeline
import Lifecycle.Proofs.Commands
import Lifecycle.Proofs.Confining
import Lifecycle.Proofs.Reporting
