import QueryGateway.Cli.Arguments
import QueryGateway.Cli.Failure
import QueryGateway.Cli.Produce
import QueryGateway.Cli.Results
import QueryGateway.Cli.Run
import QueryGateway.Cli.Serve
import QueryGateway.Cli.Settings
import QueryGateway.Client.Batcher
import QueryGateway.Client.Error
import QueryGateway.Client.Producer
import QueryGateway.Client.Receiver
import QueryGateway.Config.Basic
import QueryGateway.Config.Check
import QueryGateway.Config.Decode
import QueryGateway.Config.Encode
import QueryGateway.Config.Error
import QueryGateway.Config.Load
import QueryGateway.Config.Template
import QueryGateway.Delivery.Announce
import QueryGateway.Delivery.Consumer
import QueryGateway.Delivery.Countdown
import QueryGateway.Delivery.Link
import QueryGateway.Delivery.Registry
import QueryGateway.Entity
import QueryGateway.Gateway.Error
import QueryGateway.Gateway.Run
import QueryGateway.Ingest.Identity
import QueryGateway.Ingest.Router
import QueryGateway.Ingest.Session
import QueryGateway.Live.Address
import QueryGateway.Live.Clients
import QueryGateway.Live.Failure
import QueryGateway.Live.Journal
import QueryGateway.Live.Machine
import QueryGateway.Live.Queues
import QueryGateway.Live.Service
import QueryGateway.Live.Stop
import QueryGateway.Live.Stream
import QueryGateway.Main
import QueryGateway.Net.SocketAddress
import QueryGateway.Program
import QueryGateway.Queue.Broker
import QueryGateway.Queue.Message
import QueryGateway.Records.Projection
import QueryGateway.Routing.Multiplicity
import QueryGateway.Routing.Route
import QueryGateway.Simulation.AnnounceRun
import QueryGateway.Simulation.ClientRun
import QueryGateway.Simulation.ConsumerRun
import QueryGateway.Simulation.Line
import QueryGateway.Simulation.Machine
import QueryGateway.Simulation.Peer
import QueryGateway.Simulation.PipeRun
import QueryGateway.Simulation.Publishing
import QueryGateway.Simulation.QueueRun
import QueryGateway.Simulation.RegistryRun
import QueryGateway.Simulation.Scene
import QueryGateway.Simulation.SessionRun
import QueryGateway.Simulation.Steps
import QueryGateway.System.Fault
import QueryGateway.System.Host
import QueryGateway.System.Log
import QueryGateway.Table
import QueryGateway.Text.Blank
import QueryGateway.Text.Casing
import QueryGateway.Text.Csv
import QueryGateway.Text.Decimal
import QueryGateway.Text.Json
import QueryGateway.Text.Lines
import QueryGateway.Text.Printable
import QueryGateway.Text.Quoted
import QueryGateway.Text.Split
import QueryGateway.Text.Utf8
import QueryGateway.Toml.Document
import QueryGateway.Toml.Printer
import QueryGateway.Toml.Quoted
import QueryGateway.Toml.Reader
import QueryGateway.Toml.Scalar
import QueryGateway.Toml.Value
import QueryGateway.Wire.Ack
import QueryGateway.Wire.Announcement
import QueryGateway.Wire.Batch
import QueryGateway.Wire.Connection
import QueryGateway.Wire.Error
import QueryGateway.Wire.Frame
import QueryGateway.Wire.Header
import QueryGateway.Wire.ResultFrame
import QueryGateway.Proofs.Program.Runs
import QueryGateway.Proofs.Program.Success
import QueryGateway.Proofs.Routing.Lookup
import QueryGateway.Proofs.Routing.Building
import QueryGateway.Proofs.Text.Pieces
import QueryGateway.Proofs.Text.CsvReader
import QueryGateway.Proofs.Records.Faithful
import QueryGateway.Proofs.Wire.ParsedHeader
import QueryGateway.Proofs.Wire.WrittenHeader
import QueryGateway.Proofs.Wire.ProducerFrames
import QueryGateway.Proofs.Wire.RoundTrip
import QueryGateway.Proofs.Wire.ResultChannel
import QueryGateway.Proofs.Client.Batches
import QueryGateway.Proofs.Client.Grouping
import QueryGateway.Proofs.Cli.Commands
import QueryGateway.Proofs.Cli.Letters
import QueryGateway.Proofs.Wire.Frames
import QueryGateway.Proofs.Wire.Channel
import QueryGateway.Proofs.Wire.Garbled
import QueryGateway.Proofs.Wire.Emission
import QueryGateway.Proofs.Wire.Reading
import QueryGateway.Proofs.Wire.Ending
import QueryGateway.Proofs.Ingest.Attempts
import QueryGateway.Proofs.Ingest.FanOut
import QueryGateway.Proofs.Queue.Headers
import QueryGateway.Proofs.Delivery.Course
import QueryGateway.Proofs.Delivery.Turns
import QueryGateway.Proofs.Delivery.FanIn
import QueryGateway.Proofs.Delivery.EndMarker
import QueryGateway.Proofs.Delivery.Pairing
import QueryGateway.Proofs.Delivery.Switchboard
import QueryGateway.Proofs.Delivery.LastFrame
import QueryGateway.Proofs.Ingest.Stream
import QueryGateway.Proofs.Ingest.Events
import QueryGateway.Proofs.Ingest.Arrivals
import QueryGateway.Proofs.Ingest.Blocks
import QueryGateway.Proofs.Ingest.RetryBudget
import QueryGateway.Proofs.Ingest.Calls
import QueryGateway.Proofs.Client.Numbering
import QueryGateway.Proofs.Client.Draining
import QueryGateway.Proofs.Ingest.ClientNames
import QueryGateway.Proofs.Uplink.System
import QueryGateway.Proofs.Uplink.Breaking
import QueryGateway.Proofs.Uplink.Invariant
import QueryGateway.Proofs.Uplink.Rank
import QueryGateway.Proofs.Uplink.Completion
import QueryGateway.Proofs.Pool.System
import QueryGateway.Proofs.Pool.Invariant
import QueryGateway.Proofs.Pool.Completion
import QueryGateway.Proofs.Delivery.Isolation
import QueryGateway.Proofs.Delivery.Undeliverable
import QueryGateway.Proofs.Reception.Tasks
import QueryGateway.Proofs.Reception.System
import QueryGateway.Proofs.Reception.Invariant
import QueryGateway.Proofs.Reception.Shutdown
import QueryGateway.Proofs.Queue.Line
import QueryGateway.Proofs.Queue.Traffic
import QueryGateway.Proofs.Queue.Declared
import QueryGateway.Proofs.Routing.Agreement
import QueryGateway.Proofs.Queue.Sound
import QueryGateway.Proofs.Queue.Order
import QueryGateway.Proofs.Cli.Sending
import QueryGateway.Proofs.Config.LeftOut
import QueryGateway.Proofs.Gateway.Listeners
