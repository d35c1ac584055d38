import FrontDoor.AssembledPlugin
import FrontDoor.Audit.Log
import FrontDoor.Audit.Plugin
import FrontDoor.Audit.Record
import FrontDoor.Config.App
import FrontDoor.Config.Coercion
import FrontDoor.Config.Load
import FrontDoor.Config.Path
import FrontDoor.Config.Value
import FrontDoor.Decimal.Reading
import FrontDoor.Decimal.Shortest
import FrontDoor.Decimal.Style
import FrontDoor.Dict
import FrontDoor.Effect
import FrontDoor.EndpointTable
import FrontDoor.Error.Basic
import FrontDoor.Error.Kind
import FrontDoor.Hook
import FrontDoor.HookRegistry
import FrontDoor.Http.Assembly
import FrontDoor.Http.ErrorBody
import FrontDoor.Http.HookLayer
import FrontDoor.Http.Message
import FrontDoor.Http.Query
import FrontDoor.Http.Router
import FrontDoor.Json.Basic
import FrontDoor.Json.Cursor
import FrontDoor.Json.Decode
import FrontDoor.Json.Printer
import FrontDoor.Json.Reader
import FrontDoor.Json.Record
import FrontDoor.Json.Token
import FrontDoor.Log.Event
import FrontDoor.Log.Filter
import FrontDoor.Main
import FrontDoor.Manager
import FrontDoor.Matcher
import FrontDoor.Net.Address
import FrontDoor.Payload
import FrontDoor.Payload.Reading
import FrontDoor.Phase
import FrontDoor.Plugin
import FrontDoor.Proofs.Effect
import FrontDoor.Proofs.Hooks.Execution
import FrontDoor.Proofs.Hooks.Registration
import FrontDoor.RateLimit.Amount
import FrontDoor.RateLimit.Limiter
import FrontDoor.RateLimit.Plugin
import FrontDoor.RateLimit.Settings
import FrontDoor.RequestContext
import FrontDoor.Route.Pattern
import FrontDoor.Route.Scope
import FrontDoor.Route.Shape
import FrontDoor.Server
import FrontDoor.Text.Blank
import FrontDoor.Text.Hex
import FrontDoor.Text.Lower
import FrontDoor.Text.Printable
import FrontDoor.Text.Quoted
import FrontDoor.Text.Split
import FrontDoor.Time.Calendar
import FrontDoor.Time.Timestamp
import FrontDoor.Toml.Basic
import FrontDoor.Toml.Document
import FrontDoor.Toml.Node
import FrontDoor.Toml.Stamp
import FrontDoor.Toml.Text
import FrontDoor.Uuid
import FrontDoor.Proofs.Endpoints
import FrontDoor.Proofs.Manager.Contribution
import FrontDoor.Proofs.Manager.Merge
import FrontDoor.Proofs.Manager.Start
import FrontDoor.Proofs.HookLayer
import FrontDoor.Proofs.RateLimit.Exact
import FrontDoor.Proofs.RateLimit.Run
import FrontDoor.Proofs.RateLimit.Reference
import FrontDoor.Proofs.RateLimit.Guarantee
import FrontDoor.Proofs.Route.Prefix
import FrontDoor.Proofs.Assembly.Handling
import FrontDoor.Proofs.Assembly.Mounting
import FrontDoor.Proofs.Assembly.Guard
import FrontDoor.Proofs.Assembly.Descent
import FrontDoor.Proofs.Assembly.Walk
import FrontDoor.Proofs.RateLimit.Activation
import FrontDoor.Proofs.RateLimit.Charge
import FrontDoor.Proofs.Audit.Recording
import FrontDoor.Proofs.Assembly.Answering
import FrontDoor.Proofs.Frame.Forwarding
import FrontDoor.Proofs.Audit.Outcome
import FrontDoor.Proofs.Manager.Order
import FrontDoor.Proofs.Frame.Locality
import FrontDoor.Proofs.Assembly.Order
import FrontDoor.Proofs.RateLimit.Waiting
import FrontDoor.Proofs.RateLimit.Tracking
import FrontDoor.Proofs.Manager.Lifecycle
import FrontDoor.Proofs.Hooks.Lifetime
import FrontDoor.Proofs.Route.Segments
import FrontDoor.Proofs.Insertions
import FrontDoor.Proofs.Hooks.Inventory
import FrontDoor.Proofs.RateLimit.Reporting
import FrontDoor.Proofs.Audit.Window
import FrontDoor.Proofs.Startup.BuiltIn
import FrontDoor.Proofs.Startup.Allocation
import FrontDoor.Proofs.Contexts.Reports
import FrontDoor.Proofs.Manager.Identifiers
import FrontDoor.Proofs.Route.Renaming
