import HomeEnergy.Binary64.Decimal
import HomeEnergy.Binary64.Magnitude
import HomeEnergy.Binary64.Scaled
import HomeEnergy.Bus.Client
import HomeEnergy.Bus.Operation
import HomeEnergy.Bus.Simulated
import HomeEnergy.Bus.Tcp
import HomeEnergy.Bus.Word
import HomeEnergy.Charging.Answering
import HomeEnergy.Charging.Calling
import HomeEnergy.Charging.Central
import HomeEnergy.Charging.Connector
import HomeEnergy.Charging.Endpoint
import HomeEnergy.Charging.Gateway
import HomeEnergy.Charging.Record
import HomeEnergy.Charging.Routing
import HomeEnergy.Charging.Session
import HomeEnergy.Charging.Transaction
import HomeEnergy.CommandLine
import HomeEnergy.Control.Home
import HomeEnergy.Control.KeepAlive
import HomeEnergy.Control.Manager
import HomeEnergy.Control.Mode
import HomeEnergy.Control.Publication
import HomeEnergy.Control.Setpoint
import HomeEnergy.Control.Snapshot
import HomeEnergy.Control.Timetable
import HomeEnergy.Device.Adapter
import HomeEnergy.Device.Battery
import HomeEnergy.Device.Charger
import HomeEnergy.Device.GridMeter
import HomeEnergy.Device.HeatPump
import HomeEnergy.Device.Meter
import HomeEnergy.Device.Report
import HomeEnergy.Device.Solar
import HomeEnergy.Json.Basic
import HomeEnergy.Json.Decoder
import HomeEnergy.Json.Parser
import HomeEnergy.Json.Printer
import HomeEnergy.Json.Skimming
import HomeEnergy.Main
import HomeEnergy.Network
import HomeEnergy.Network.Address
import HomeEnergy.Ocpp.Frame
import HomeEnergy.Ocpp.Request
import HomeEnergy.Ocpp.Response
import HomeEnergy.Ocpp.Vocabulary
import HomeEnergy.Proofs.Binary64.Bounds
import HomeEnergy.Proofs.Bus.Journal
import HomeEnergy.Proofs.Charging.Conservation
import HomeEnergy.Proofs.Charging.Replies
import HomeEnergy.Proofs.Charging.Run
import HomeEnergy.Proofs.Control.Run
import HomeEnergy.Proofs.Control.Setpoints
import HomeEnergy.Proofs.Json.Canonical
import HomeEnergy.Proofs.Json.Rereading
import HomeEnergy.Proofs.Json.Tokens
import HomeEnergy.Proofs.Ocpp.RoundTrip
import HomeEnergy.Quantity
import HomeEnergy.Server
import HomeEnergy.Settings.Basic
import HomeEnergy.Settings.Document
import HomeEnergy.Settings.Energy
import HomeEnergy.Settings.Section
import HomeEnergy.Shutdown
import HomeEnergy.Table
import HomeEnergy.Text.Blank
import HomeEnergy.Text.Glyphless
import HomeEnergy.Text.Numeral
import HomeEnergy.Text.Quoted
import HomeEnergy.Time.Calendar
import HomeEnergy.Time.Reader
import HomeEnergy.Time.Timestamp
import HomeEnergy.Toml.DateTable
import HomeEnergy.Toml.Document
import HomeEnergy.Toml.Parser
import HomeEnergy.Toml.Printer
import HomeEnergy.Toml.Scalar
import HomeEnergy.Toml.Value
import HomeEnergy.Proofs.Control.Interleaving
import HomeEnergy.Proofs.Charging.Books
import HomeEnergy.Proofs.Charging.Numbering
import HomeEnergy.Proofs.Charging.Chronicle
import HomeEnergy.Proofs.Charging.Rejection
import HomeEnergy.Proofs.Charging.Links
import HomeEnergy.Proofs.Charging.Registry
import HomeEnergy.Proofs.Charging.Pending
import HomeEnergy.Proofs.Charging.Delivery
import HomeEnergy.Proofs.Control.Freshness
import HomeEnergy.Proofs.Control.Independence
import HomeEnergy.Proofs.Charging.Commuting
import HomeEnergy.Proofs.Charging.Superseded
import HomeEnergy.Proofs.Charging.Observer
import HomeEnergy.Proofs.Shutdown.Waking
import HomeEnergy.Proofs.Charging.Archive
import HomeEnergy.Proofs.Bus.Footprint
import HomeEnergy.Proofs.Device.Exchanges
import HomeEnergy.Proofs.Control.Written
import HomeEnergy.Proofs.Binary64.Quotient
import HomeEnergy.Proofs.Control.Exactness
import HomeEnergy.Proofs.Control.Response
import HomeEnergy.Proofs.Bus.Retry
import HomeEnergy.Proofs.Control.Sharing
import HomeEnergy.Proofs.Bus.Turns
import HomeEnergy.Proofs.Bus.Words
import HomeEnergy.Proofs.Device.Polling
import HomeEnergy.Proofs.Device.ExternalControl
import HomeEnergy.Proofs.Text.Numerals
import HomeEnergy.Proofs.Settings.Acceptance
import HomeEnergy.Proofs.Ocpp.Grammar
import HomeEnergy.Proofs.Charging.Handshake
