import Tallykeeper.Text.Printable
import Tallykeeper.Text.Utf8
import Tallykeeper.Text.Quoted
import Tallykeeper.Text.Fold
import Tallykeeper.Text.Format
import Tallykeeper.Text.Timestamp
import Tallykeeper.Numeral.Integer
import Tallykeeper.Fault
import Tallykeeper.Value.Codec
import Tallykeeper.Change.Event
import Tallykeeper.Change.Codec
import Tallykeeper.Change.EntryId
import Tallykeeper.Catalog.Entry
import Tallykeeper.Sql.Statement
import Tallykeeper.Change.Group
import Tallykeeper.Writer.State
import Tallykeeper.Cache.Lru
import Tallykeeper.Cache.Tiered
import Tallykeeper.Count.Mem
import Tallykeeper.Cache.Bench
import Tallykeeper.Json.Value
import Tallykeeper.Json.Scan
import Tallykeeper.Json.Bind
import Tallykeeper.Storage.Backend
import Tallykeeper.Catalog.Memory
import Tallykeeper.Catalog.Table
import Tallykeeper.Catalog.Relational
import Tallykeeper.Catalog.Store
import Tallykeeper.Catalog.Script
import Tallykeeper.Ledger.Store
import Tallykeeper.Change.Source
import Tallykeeper.Service.World
import Tallykeeper.Service.Catalog
import Tallykeeper.Service.Counter
import Tallykeeper.Service.Drain
import Tallykeeper.Http.Target
import Tallykeeper.Http.Route
import Tallykeeper.Http.Serve
import Tallykeeper.Service.Session
import Tallykeeper.Numeral.Duration
import Tallykeeper.Config.Settings
import Tallykeeper.Yaml.Source
import Tallykeeper.Yaml.Token
import Tallykeeper.Yaml.Token.Lexer
import Tallykeeper.Yaml.Token.Space
import Tallykeeper.Yaml.Token.Scalar
import Tallykeeper.Yaml.Token.Tag
import Tallykeeper.Yaml.Token.Fetch
import Tallykeeper.Numeral.Decimal
import Tallykeeper.Yaml.Timestamp
import Tallykeeper.Yaml.Resolve
import Tallykeeper.Yaml.Event
import Tallykeeper.Yaml.Event.Next
import Tallykeeper.Yaml.Node
import Tallykeeper.Text.Base64
import Tallykeeper.Config.File
import Tallykeeper.Config.Flags
import Tallykeeper.Config.Environment
import Tallykeeper.Config.Load
import Tallykeeper.Redis.Stream
import Tallykeeper.Redis.Server
import Tallykeeper.Count.Server
import Tallykeeper.Change.Stream
import Tallykeeper.Http.Limit
import Tallykeeper.Proofs.Numeral.Decimal
import Tallykeeper.Proofs.Value.RoundTrip
import Tallykeeper.Proofs.Value.Shortest
import Tallykeeper.Proofs.Cache.Coherence
import Tallykeeper.Proofs.Cache.Transparency
import Tallykeeper.Proofs.Count.Overflow
import Tallykeeper.Proofs.Catalog.Store
import Tallykeeper.Proofs.Catalog.Run
import Tallykeeper.Proofs.Catalog.Contracts
import Tallykeeper.Proofs.Redis.Server
import Tallykeeper.Proofs.Count.Home
import Tallykeeper.Proofs.Count.MapModel
import Tallykeeper.Proofs.Service.Tally
import Tallykeeper.Proofs.Service.Agreement
import Tallykeeper.Proofs.Service.Registration
import Tallykeeper.Proofs.Service.Counting
import Tallykeeper.Proofs.Service.Refinement
import Tallykeeper.Proofs.Service.Naming
import Tallykeeper.Proofs.Change.Codec
import Tallykeeper.Proofs.Change.Replay
import Tallykeeper.Proofs.Ledger.Store
import Tallykeeper.Proofs.Ledger.Engines
import Tallykeeper.Proofs.Redis.Stream
import Tallykeeper.Proofs.Service.Feeding
import Tallykeeper.Proofs.Service.Draining
import Tallykeeper.Proofs.Service.Publishing
import Tallykeeper.Proofs.Service.WriteBehind
import Tallykeeper.Proofs.Change.Grammar
import Tallykeeper.Proofs.Count.Faults
import Tallykeeper.Proofs.Http.Quota
import Tallykeeper.Proofs.Catalog.Validation
import Tallykeeper.Proofs.Config.Layering
import Tallykeeper.Proofs.Http.Chain
import Tallykeeper.Proofs.Http.Envelope
import Tallykeeper.Proofs.Count.Increment
import Tallykeeper.Proofs.Service.KeySpace
