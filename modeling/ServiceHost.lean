import ServiceHost.Admin
import ServiceHost.Board
import ServiceHost.CommandLine.AdminClient
import ServiceHost.CommandLine.Server
import ServiceHost.Component
import ServiceHost.Config.Decode
import ServiceHost.Config.Load
import ServiceHost.Config.Schema
import ServiceHost.Config.Validation
import ServiceHost.Demo
import ServiceHost.Dispatcher
import ServiceHost.Endpoint
import ServiceHost.Environment
import ServiceHost.Error
import ServiceHost.Files
import ServiceHost.Health
import ServiceHost.Http.Form
import ServiceHost.Http.Message
import ServiceHost.Http.Method
import ServiceHost.Http.Router
import ServiceHost.Http.Target
import ServiceHost.Http.Url
import ServiceHost.KeyMap
import ServiceHost.Lifecycle
import ServiceHost.Log.Directive
import ServiceHost.Log.Filter
import ServiceHost.Log.Layout
import ServiceHost.Log.Record
import ServiceHost.Main
import ServiceHost.Net.Address
import ServiceHost.Net.Backoff
import ServiceHost.Net.Connector
import ServiceHost.Net.Host
import ServiceHost.Net.Latch
import ServiceHost.Net.Tracker
import ServiceHost.Net.Watched
import ServiceHost.Scripted
import ServiceHost.Server.Activity
import ServiceHost.Server.Calls
import ServiceHost.Server.Factory
import ServiceHost.Server.Managed
import ServiceHost.Server.Supervision
import ServiceHost.Startup.Bundle
import ServiceHost.Startup.Command
import ServiceHost.Task
import ServiceHost.Text.Alphanumeric
import ServiceHost.Text.CharSet
import ServiceHost.Text.GraphemeExtend
import ServiceHost.Text.JsonString
import ServiceHost.Text.Pattern.Basic
import ServiceHost.Text.Pattern.Parser
import ServiceHost.Text.Quoted
import ServiceHost.Text.Unprintable
import ServiceHost.Text.Utf8
import ServiceHost.Text.WhiteSpace
import ServiceHost.Tls.Base64
import ServiceHost.Tls.Bytes
import ServiceHost.Tls.Certificate
import ServiceHost.Tls.Der
import ServiceHost.Tls.EdwardsCurve
import ServiceHost.Tls.KeyPair
import ServiceHost.Tls.Modular
import ServiceHost.Tls.Pem
import ServiceHost.Tls.PrivateKey
import ServiceHost.Tls.RsaKey
import ServiceHost.Tls.Sha512
import ServiceHost.Tls.WeierstrassCurve
import ServiceHost.Toml.DateTime
import ServiceHost.Toml.Document
import ServiceHost.Toml.Number
import ServiceHost.Toml.Text
import ServiceHost.Toml.Tree
import ServiceHost.Toml.Value
import ServiceHost.Proofs.RouteTable
import ServiceHost.Proofs.RouteScan
import ServiceHost.Proofs.CallRecord
import ServiceHost.Proofs.LifecycleRun
import ServiceHost.Proofs.Reentry
import ServiceHost.Proofs.Registration
import ServiceHost.Proofs.ServerOrder
import ServiceHost.Proofs.ServerWatch
import ServiceHost.Proofs.StartupStages
import ServiceHost.Proofs.StartupOrder
import ServiceHost.Proofs.Unwinding
import ServiceHost.Proofs.Url
import ServiceHost.Proofs.Dispatch
import ServiceHost.Proofs.Restart
import ServiceHost.Proofs.Setup
import ServiceHost.Proofs.Surfaces
import ServiceHost.Proofs.Wiring
import ServiceHost.Proofs.ConnectorRun
import ServiceHost.Proofs.ConnectorStop
import ServiceHost.Proofs.AdminSurface
import ServiceHost.Proofs.TaskNames
import ServiceHost.Proofs.Reachable
import ServiceHost.Proofs.KeyPairSettings
import ServiceHost.Proofs.Utf8
import ServiceHost.Proofs.FormRoundTrip
import ServiceHost.Proofs.TaskParameters
import ServiceHost.Proofs.RouteOrder
import ServiceHost.Proofs.ByteOrder
import ServiceHost.Proofs.RouteHistory
import ServiceHost.Proofs.Redirects
import ServiceHost.Proofs.AllowedMethods
import ServiceHost.Proofs.ValidationFaults
import ServiceHost.Proofs.ManagedStarts
import ServiceHost.Proofs.RegistrationOrder
import ServiceHost.Proofs.ServerStates
import ServiceHost.Proofs.DispatchTrace
import ServiceHost.Proofs.DispatchRuns
import ServiceHost.Proofs.FormCollection
import ServiceHost.Proofs.TaskRequests
import ServiceHost.Proofs.JsonReading
import ServiceHost.Proofs.HealthReports
import ServiceHost.Proofs.BundleOrder
import ServiceHost.Proofs.AcceptPauses
import ServiceHost.Proofs.TrackerCounts
import ServiceHost.Proofs.SubtreeList
import ServiceHost.Proofs.LifecycleBounds
