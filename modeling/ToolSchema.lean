import ToolSchema.Binary64
import ToolSchema.Binary64.Text
import ToolSchema.Bridge
import ToolSchema.Chat
import ToolSchema.Chat.Conversation
import ToolSchema.Chat.Outcome
import ToolSchema.Chat.Rehearsal
import ToolSchema.Chat.Stream
import ToolSchema.Chat.Thinking
import ToolSchema.Chat.Toolbox
import ToolSchema.CommandLine
import ToolSchema.Convert
import ToolSchema.Convert.Build
import ToolSchema.Convert.Constant
import ToolSchema.Convert.Descent
import ToolSchema.Convert.Keyword
import ToolSchema.Convert.Trace
import ToolSchema.Fault
import ToolSchema.Host.Address
import ToolSchema.Host.Defect
import ToolSchema.Host.Direction
import ToolSchema.Host.Joining
import ToolSchema.Host.Label
import ToolSchema.Host.Name
import ToolSchema.Host.NameChar
import ToolSchema.Host.Punycode
import ToolSchema.Host.Script
import ToolSchema.Json
import ToolSchema.Json.Display
import ToolSchema.Json.Encoding
import ToolSchema.Json.Key
import ToolSchema.Json.Order
import ToolSchema.Json.Reader
import ToolSchema.Json.Sequence
import ToolSchema.Json.Walk
import ToolSchema.Json.Writer
import ToolSchema.Main
import ToolSchema.ModelServer
import ToolSchema.Pointer
import ToolSchema.Reference
import ToolSchema.Reference.Pending
import ToolSchema.Reference.Resolve
import ToolSchema.Release
import ToolSchema.Schema
import ToolSchema.Schema.Document
import ToolSchema.Schema.Draft
import ToolSchema.Schema.Supply
import ToolSchema.Schema.Tagged
import ToolSchema.Script
import ToolSchema.Service
import ToolSchema.Service.App
import ToolSchema.Service.Authority
import ToolSchema.Service.Chat
import ToolSchema.Service.Content
import ToolSchema.Service.Form
import ToolSchema.Service.Http
import ToolSchema.Service.Location
import ToolSchema.Service.Origin
import ToolSchema.Service.Route
import ToolSchema.Service.Target
import ToolSchema.Service.Tools
import ToolSchema.Settings
import ToolSchema.Text.Blank
import ToolSchema.Text.Case
import ToolSchema.Text.CodeUnit
import ToolSchema.Text.Composed
import ToolSchema.Text.Composition
import ToolSchema.Text.DecimalDigit
import ToolSchema.Text.Digits
import ToolSchema.Text.Integer
import ToolSchema.Text.LooseInteger
import ToolSchema.Text.LowerCase
import ToolSchema.Text.Mark
import ToolSchema.Text.Percent
import ToolSchema.Text.Pieces
import ToolSchema.Text.Printed
import ToolSchema.Text.Ranges
import ToolSchema.Text.Utf8
import ToolSchema.Tool
import ToolSchema.Tool.Content
import ToolSchema.Tool.Descriptor
import ToolSchema.Validation
import ToolSchema.Proofs.Building
import ToolSchema.Proofs.Everywhere
import ToolSchema.Proofs.Trace
import ToolSchema.Proofs.Recorded
import ToolSchema.Proofs.WellFormed
import ToolSchema.Proofs.Naming
import ToolSchema.Proofs.Presentable
import ToolSchema.Proofs.Settled
import ToolSchema.Proofs.Eager
import ToolSchema.Proofs.Room
import ToolSchema.Proofs.NestedResolution
import ToolSchema.Proofs.NestedBuilding
import ToolSchema.Proofs.Validity
import ToolSchema.Proofs.Rendering
import ToolSchema.Proofs.Expressible
import ToolSchema.Proofs.Meaning
import ToolSchema.Proofs.Ranked
import ToolSchema.Proofs.Reordered
import ToolSchema.Proofs.Rereading
import ToolSchema.Proofs.Stateful
import ToolSchema.Proofs.StatefulBuilding
import ToolSchema.Proofs.Siblings
import ToolSchema.Proofs.Escaping
import ToolSchema.Proofs.PointerWriting
import ToolSchema.Proofs.Conversing
import ToolSchema.Proofs.Rounds
import ToolSchema.Proofs.Course
import ToolSchema.Proofs.Writable
import ToolSchema.Proofs.Telling
import ToolSchema.Proofs.Endpoints
import ToolSchema.Proofs.Drawing
import ToolSchema.Proofs.Erasure
import ToolSchema.Proofs.DrawingBuilding
import ToolSchema.Proofs.Connections
import ToolSchema.Proofs.Idempotence
import ToolSchema.Proofs.Startup
import ToolSchema.Proofs.Reported
import ToolSchema.Proofs.Chains
import ToolSchema.Proofs.SlotSchema
import ToolSchema.Proofs.Omission
import ToolSchema.Proofs.TypeLists
import ToolSchema.Proofs.Collapsing
import ToolSchema.Proofs.Optionality
import ToolSchema.Proofs.Enumerating
import ToolSchema.Proofs.LongIntegers
import ToolSchema.Proofs.Calling
import ToolSchema.Proofs.Outcomes
import ToolSchema.Proofs.Stripping
import ToolSchema.Proofs.Walking
import ToolSchema.Proofs.ReadingBack
