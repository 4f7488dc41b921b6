import TrackResolver.Config
import TrackResolver.Config.Json
import TrackResolver.Config.Load
import TrackResolver.Config.Toml
import TrackResolver.Context
import TrackResolver.Context.Json
import TrackResolver.Decimal.Layout
import TrackResolver.Decimal.Shortest
import TrackResolver.Dict
import TrackResolver.Domain.Direction
import TrackResolver.Domain.Joiner
import TrackResolver.Domain.MappingTable
import TrackResolver.Domain.Name
import TrackResolver.Domain.Punycode
import TrackResolver.Duration
import TrackResolver.Engine
import TrackResolver.Engine.Passthrough
import TrackResolver.Engine.Scripted
import TrackResolver.Executor
import TrackResolver.Failure
import TrackResolver.Files
import TrackResolver.Http.Body
import TrackResolver.Http.Budget
import TrackResolver.Http.Fault
import TrackResolver.Http.MediaType
import TrackResolver.Http.Message
import TrackResolver.Http.Router
import TrackResolver.Http.Service
import TrackResolver.Json.Decode
import TrackResolver.Json.Node
import TrackResolver.Json.Number
import TrackResolver.Json.Token
import TrackResolver.Json.Value
import TrackResolver.Ledger
import TrackResolver.Lineup
import TrackResolver.Proofs.Config.Defaults
import TrackResolver.Proofs.Config.Load
import TrackResolver.Proofs.Context
import TrackResolver.Proofs.Dict
import TrackResolver.Proofs.Duration
import TrackResolver.Proofs.Engine.Passthrough
import TrackResolver.Proofs.Executor.Accounts
import TrackResolver.Proofs.Executor.Confinement
import TrackResolver.Proofs.Executor.Course
import TrackResolver.Proofs.Executor.Deadlines
import TrackResolver.Proofs.Executor.Refusals
import TrackResolver.Proofs.Executor.Retrieval
import TrackResolver.Proofs.Executor.Routing
import TrackResolver.Proofs.Executor.Screening
import TrackResolver.Proofs.Executor.Search
import TrackResolver.Proofs.Http.Admission
import TrackResolver.Proofs.Http.AllEngines
import TrackResolver.Proofs.Http.Arrivals
import TrackResolver.Proofs.Http.Bodies
import TrackResolver.Proofs.Http.Budget
import TrackResolver.Proofs.Http.Forms
import TrackResolver.Proofs.Http.Limit
import TrackResolver.Proofs.Http.Outage
import TrackResolver.Proofs.Http.Period
import TrackResolver.Proofs.Http.Retrieve
import TrackResolver.Proofs.Http.Search
import TrackResolver.Proofs.Http.Traces
import TrackResolver.Proofs.Http.Windows
import TrackResolver.Proofs.Json.Cutting
import TrackResolver.Proofs.Json.Edits
import TrackResolver.Proofs.Json.Forms
import TrackResolver.Proofs.Json.Grammar
import TrackResolver.Proofs.Json.Inside
import TrackResolver.Proofs.Json.Lexing
import TrackResolver.Proofs.Json.Maps
import TrackResolver.Proofs.Json.Members
import TrackResolver.Proofs.Json.Objects
import TrackResolver.Proofs.Json.Parsing
import TrackResolver.Proofs.Json.Places
import TrackResolver.Proofs.Json.Reading
import TrackResolver.Proofs.Json.Readings
import TrackResolver.Proofs.Json.RoundTrip
import TrackResolver.Proofs.Registry.History
import TrackResolver.Proofs.Registry.Lineup
import TrackResolver.Proofs.Registry.Positions
import TrackResolver.Proofs.Registry.Standing
import TrackResolver.Proofs.Search.Concatenation
import TrackResolver.Proofs.Search.Course
import TrackResolver.Proofs.Search.Decision
import TrackResolver.Proofs.Search.Failures
import TrackResolver.Proofs.Search.FastFirst
import TrackResolver.Proofs.Search.Modes
import TrackResolver.Proofs.Search.OrderFirst
import TrackResolver.Proofs.Search.Reordering
import TrackResolver.Proofs.Search.Walk
import TrackResolver.Proofs.SearchMode
import TrackResolver.Proofs.Text.Trim
import TrackResolver.Proofs.Toml.Without
import TrackResolver.Proxy
import TrackResolver.Proxy.Address
import TrackResolver.Proxy.Host
import TrackResolver.Proxy.Path
import TrackResolver.Reading.Fault
import TrackResolver.Reading.Record
import TrackResolver.Registry
import TrackResolver.Retrieval
import TrackResolver.Search
import TrackResolver.SearchMode
import TrackResolver.Song
import TrackResolver.Song.Json
import TrackResolver.Text.Bidi
import TrackResolver.Text.Blank
import TrackResolver.Text.CombiningClass
import TrackResolver.Text.Composed
import TrackResolver.Text.CompositionTable
import TrackResolver.Text.Digits
import TrackResolver.Text.Joining
import TrackResolver.Text.Marks
import TrackResolver.Text.Printable
import TrackResolver.Text.Quoted
import TrackResolver.Text.Split
import TrackResolver.Text.Table
import TrackResolver.Toml.Decode
import TrackResolver.Toml.Document
import TrackResolver.Toml.Lexical
import TrackResolver.Toml.Moment
import TrackResolver.Toml.Number
import TrackResolver.Toml.Tree
import TrackResolver.Toml.Value
import TrackResolver.Context.Inspect
import TrackResolver.Proofs.Engine.Discreet
