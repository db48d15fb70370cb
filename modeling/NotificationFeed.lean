import NotificationFeed.Broker.Client
import NotificationFeed.Broker.Establish
import NotificationFeed.Broker.Host
import NotificationFeed.Broker.Inbox
import NotificationFeed.Broker.Link
import NotificationFeed.Broker.Opening
import NotificationFeed.Broker.Subscriber
import NotificationFeed.Broker.Subscription
import NotificationFeed.Database.Keeper
import NotificationFeed.Database.Moment
import NotificationFeed.Database.Reply
import NotificationFeed.Database.Session
import NotificationFeed.Database.Statement
import NotificationFeed.Database.Surroundings
import NotificationFeed.Database.Table
import NotificationFeed.Decimal.Shortest
import NotificationFeed.Directory.Client
import NotificationFeed.Event.Envelope
import NotificationFeed.Event.Process
import NotificationFeed.Failure
import NotificationFeed.Journal
import NotificationFeed.Json.Lexeme
import NotificationFeed.Json.Node
import NotificationFeed.Json.Parse
import NotificationFeed.Json.Scalar
import NotificationFeed.Locator
import NotificationFeed.Metrics.Exposition
import NotificationFeed.Metrics.Fingerprint
import NotificationFeed.Metrics.Observation
import NotificationFeed.Metrics.Reading
import NotificationFeed.Metrics.Registry
import NotificationFeed.Notification
import NotificationFeed.Program
import NotificationFeed.Program.Refine
import NotificationFeed.Program.Thread
import NotificationFeed.Retry
import NotificationFeed.Rpc.Handler
import NotificationFeed.Rpc.Request
import NotificationFeed.Service
import NotificationFeed.Service.Surroundings
import NotificationFeed.Service.Window
import NotificationFeed.Settings
import NotificationFeed.Settings.Address
import NotificationFeed.Settings.Scalar
import NotificationFeed.Store
import NotificationFeed.Store.Request
import NotificationFeed.Time.Instant
import NotificationFeed.Time.Span
import NotificationFeed.Time.Timer
import NotificationFeed.Utf8
import NotificationFeed.Wire.Endpoint
import NotificationFeed.Wire.Field
import NotificationFeed.Wire.Message
import NotificationFeed.Wire.Request
import NotificationFeed.Wire.Response
import NotificationFeed.Wire.Varint
import NotificationFeed.Worker.Handle
import NotificationFeed.Worker.Intake
import NotificationFeed.Worker.Loop
import NotificationFeed.Worker.Message
import NotificationFeed.Worker.Schedule
import NotificationFeed.Worker.Start
import NotificationFeed.World
import NotificationFeed.Proofs.Program.Calls
import NotificationFeed.Proofs.Program.Exchanges
import NotificationFeed.Proofs.Program.Following
import NotificationFeed.Proofs.World.Alike
import NotificationFeed.Proofs.Store.Numbering
import NotificationFeed.Proofs.Store.Run
import NotificationFeed.Proofs.World.Yields
import NotificationFeed.Proofs.Event.Outcome
import NotificationFeed.Proofs.Rpc.Outcome
import NotificationFeed.Proofs.Json.Grammar
import NotificationFeed.Proofs.Json.Document
import NotificationFeed.Proofs.Json.Text
import NotificationFeed.Proofs.Json.Inside
import NotificationFeed.Proofs.Event.Record
import NotificationFeed.Proofs.Event.Handover
import NotificationFeed.Proofs.Worker.Handling
import NotificationFeed.Proofs.Worker.Transcript
import NotificationFeed.Proofs.History.Command
import NotificationFeed.Proofs.History.Lifetime
import NotificationFeed.Proofs.History.Errand
import NotificationFeed.Proofs.History.Storing
import NotificationFeed.Proofs.History.Origin
import NotificationFeed.Proofs.History.Unchanged
import NotificationFeed.Proofs.History.Core
import NotificationFeed.Proofs.History.Anew
import NotificationFeed.Proofs.History.Serial
import NotificationFeed.Proofs.Rpc.Shape
import NotificationFeed.Proofs.Service.Paging
import NotificationFeed.Proofs.Worker.Deliveries
import NotificationFeed.Proofs.Wire.Grammar
import NotificationFeed.Proofs.Wire.Response
import NotificationFeed.Proofs.Wire.Encoding
import NotificationFeed.Proofs.Worker.Closing
import NotificationFeed.Proofs.Broker.Moves
import NotificationFeed.Proofs.Broker.Correspondence
import NotificationFeed.Proofs.Broker.Standing
import NotificationFeed.Proofs.Broker.Course
import NotificationFeed.Proofs.Broker.Requests
import NotificationFeed.Proofs.Broker.Restoring
import NotificationFeed.Proofs.Broker.Link
import NotificationFeed.Proofs.Broker.Publishing
import NotificationFeed.Proofs.Store.Settling
import NotificationFeed.Proofs.Store.Ledger
import NotificationFeed.Proofs.Store.Renumbering
import NotificationFeed.Proofs.Store.Apart
import NotificationFeed.Proofs.Database.Reading
import NotificationFeed.Proofs.Database.Asking
import NotificationFeed.Proofs.Database.Agreement
import NotificationFeed.Proofs.Database.Contents
import NotificationFeed.Proofs.Database.Moments
import NotificationFeed.Proofs.Database.Reporting
import NotificationFeed.Proofs.Rpc.Account
import NotificationFeed.Proofs.Rpc.Tally
import NotificationFeed.Proofs.Event.Defects
import NotificationFeed.Proofs.Worker.Verdicts
import NotificationFeed.Proofs.Event.Shapes
import NotificationFeed.Proofs.Broker.Attempts
import NotificationFeed.Proofs.Worker.Starting
import NotificationFeed.Proofs.Metrics.Reading
import NotificationFeed.Proofs.Metrics.Series
import NotificationFeed.Proofs.Metrics.Page
import NotificationFeed.Proofs.Directory.Lookups
import NotificationFeed.Proofs.History.Recent
import NotificationFeed.Proofs.Settings.Scalar
import NotificationFeed.Proofs.Settings.Variables
import NotificationFeed.Proofs.Program.Pairing
import NotificationFeed.Proofs.Rpc.Abreast
import NotificationFeed.Proofs.Rpc.Discretion
import NotificationFeed.Proofs.Rpc.Echo
import NotificationFeed.Proofs.Rpc.Timestamps
import NotificationFeed.Proofs.Service.Window
import NotificationFeed.Proofs.Retry
