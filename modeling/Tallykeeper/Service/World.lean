import Tallykeeper.Catalog.Store
import Tallykeeper.Catalog.Script
import Tallykeeper.Ledger.Store
import Tallykeeper.Count.Mem
import Tallykeeper.Count.Server
import Tallykeeper.Cache.Tiered
import Tallykeeper.Change.Source
import Tallykeeper.Change.Stream
import Tallykeeper.Value.Codec

/-!
# The wired service

The service keeps its durable stores (the catalog, the ledger of counter values, and the
fast counts) behind two local caches: `ids` maps counter names to catalog ids and reads
through a catalog lookup, `values` maps counter keys `<id>:<user>` to values and reads
and writes through the counts. Counter mutations are published to a change source, which
a durable writer drains into the ledger.

Every catalog-store call first meets the scripted failures queued for its method.
-/

namespace Tallykeeper
namespace Service

open Storage Cache Text

/-- Where the counts live: in memory, or on the server under a value codec. -/
inductive CountHome
  | memory
  | server (codec : ValueCodec)
  deriving DecidableEq, Repr

/-- The stores behind the caches. -/
structure Stores where
  backend : Backend := {}
  catalog : Catalog.Store := .memory {}
  script : Catalog.Script := {}
  ledger : Ledger.Store := {}
  counts : MemCounts := {}
  countHome : CountHome := .memory
  /-- The Redis server holding counts kept there, request quotas and change streams. -/
  server : Redis.Server := {}

namespace Stores

/-- Calls a catalog-store method, unless a queued failure meets the call first. -/
def catalogCall {α : Type} (m : Catalog.Method)
    (op : Backend → Catalog.Store → Except Fault α × Catalog.Store) (s : Stores) :
    Except Fault α × Stores :=
  match s.script.take m with
  | (some f, script) => (.error f, { s with script })
  | (none, script) =>
    let (r, catalog) := op s.backend s.catalog
    (r, { s with script, catalog })

/-- Calls a ledger operation. -/
def ledgerCall {α : Type} (op : Backend → Ledger.Store → Except Fault α × Ledger.Store)
    (s : Stores) : Except Fault α × Stores :=
  let (r, ledger) := op s.backend s.ledger
  (r, { s with ledger })

/-- Runs a server command. -/
def onServer {α : Type} (op : Redis.Server → α × Redis.Server) (s : Stores) : α × Stores :=
  let (r, server) := op s.server
  (r, { s with server })

/-- Reads a count. -/
def countGet (key : String) (s : Stores) : Except Fault Int64 × Stores :=
  match s.countHome with
  | .memory => (s.counts.get key, s)
  | .server c => (ServerCounts.get c key s.server, s)

/-- Adds a delta to a count, an absent count counting as zero. -/
def countIncr (key : String) (delta : Int64) (s : Stores) : Except Fault Int64 × Stores :=
  match s.countHome with
  | .memory =>
    match s.counts.incr key delta with
    | .ok (v, counts) => (.ok v, { s with counts })
    | .error f => (.error f, s)
  | .server c => s.onServer (ServerCounts.incr c key delta)

/-- Sets a count. -/
def countSet (key : String) (v : Int64) (s : Stores) : Except Fault Int64 × Stores :=
  match s.countHome with
  | .memory => (.ok v, { s with counts := s.counts.put key v })
  | .server c => s.onServer (ServerCounts.set c key v)

/-- Removes a count. -/
def countDelete (key : String) (s : Stores) : Except Fault Unit × Stores :=
  match s.countHome with
  | .memory => (.ok (), { s with counts := s.counts.erase key })
  | .server _ => s.onServer (ServerCounts.delete key)

/-- The id of a name through a catalog lookup; absence reads as the cache's bare
`key not found`. -/
def loadId (name : ByteString) (s : Stores) : Except Fault Int64 × Stores :=
  match s.catalogCall .get (fun b c => c.get b name) with
  | (.ok e, s') => (.ok e.id, s')
  | (.error f, s') => (.error (if f.is .entryNotFound then .bare .keyNotFound else f), s')

end Stores

/-- The delegate of the `ids` cache: reads look the name up, writes do nothing. -/
def idsDelegate : Delegate Stores ByteString Int64 where
  get := Stores.loadId
  update := fun _ _ s => (.ok (), s)
  delete := fun _ s => (.ok (), s)

/-- The delegate of the `values` cache: the counts. -/
def valuesDelegate : Delegate Stores String Int64 where
  get := Stores.countGet
  update := fun k v s => match s.countSet k v with | (r, s') => (r.map fun _ => (), s')
  delete := Stores.countDelete

/-- A change source. -/
inductive Source
  | memory (s : Change.MemSource)
  /-- Publishes nothing and never delivers. -/
  | silent
  /-- A consumer of a stream on the server. -/
  | stream (s : Change.StreamSource)
  deriving Repr

/-- The retries of the durable writer. -/
structure Tuning where
  readRetries : Nat := 3
  setupRetries : Nat := 5
  deriving Repr

/-- Failures a fixture arranges for the durable writer. -/
structure WriterFaults where
  /-- Per (counter, user) key, whether each of its next ledger upserts fails, in order;
  the upserts past the end of the pattern go through. -/
  upserts : List ((Int64 × Int64) × List Bool) := []
  setups : Nat := 0
  consumes : Nat := 0
  deriving Repr

/-- A request quota per client and window. -/
structure Quota where
  limit : Int64
  windowSeconds : Int64
  deriving Repr

/-- The whole service. -/
structure World where
  stores : Stores
  ids : Tiered ByteString Int64
  values : Tiered String Int64
  source : Source
  eventCodec : EventCodec := EventCodec.integers
  valueCodec : ValueCodec := ValueCodec.decimal
  tuning : Tuning := {}
  writerFaults : WriterFaults := {}
  quota : Option Quota := none

namespace World

/-- Runs a step on the stores. -/
def onStores {α : Type} (op : Stores → α × Stores) (w : World) : α × World :=
  let (r, stores) := op w.stores
  (r, { w with stores })

/-- Reads the `ids` cache. -/
def resolveId (name : ByteString) (w : World) : Except Fault Int64 × World :=
  let (r, ids, stores) := w.ids.get idsDelegate name w.stores
  (r, { w with ids, stores })

/-- Writes a name's id through the `ids` cache. -/
def cacheId (name : ByteString) (id : Int64) (w : World) : Except Fault Unit × World :=
  let (r, ids, stores) := w.ids.update idsDelegate name id w.stores
  (r, { w with ids, stores })

/-- Deletes a name through the `ids` cache. -/
def forgetId (name : ByteString) (w : World) : Except Fault Unit × World :=
  let (r, ids, stores) := w.ids.delete idsDelegate name w.stores
  (r, { w with ids, stores })

/-- Reads the `values` cache. -/
def readValue (key : String) (w : World) : Except Fault Int64 × World :=
  let (r, values, stores) := w.values.get valuesDelegate key w.stores
  (r, { w with values, stores })

/-- Writes a value through the `values` cache. -/
def writeValue (key : String) (v : Int64) (w : World) : Except Fault Unit × World :=
  let (r, values, stores) := w.values.update valuesDelegate key v w.stores
  (r, { w with values, stores })

/-- Runs a server command. -/
def onServer {α : Type} (op : Redis.Server → α × Redis.Server) (w : World) : α × World :=
  w.onStores (·.onServer op)

/-- Publishes an event to the change source, answering the entry id. -/
def propagate (e : Event) (w : World) : Except Fault String × World :=
  match w.source with
  | .memory s =>
    let (id, s') := s.propagate w.eventCodec e
    (.ok id, { w with source := .memory s' })
  | .silent => (.ok "", w)
  | .stream s => w.onServer (s.propagate w.eventCodec e)

/-- Delivers the entries the source has for its consumer. -/
def consume (w : World) : Except Fault (List Change.Delivery) × World :=
  match w.source with
  | .memory s =>
    let (r, s') := s.consume w.eventCodec
    (r, { w with source := .memory s' })
  | .silent => (.error (.bare .emptySource), w)
  | .stream s =>
    let (r, s', server) := s.consume w.eventCodec w.stores.server
    (r, { w with source := .stream s', stores := { w.stores with server } })

/-- Acknowledges delivered entries. -/
def ack (ids : List String) (w : World) : Except Fault Unit × World :=
  match w.source with
  | .memory s => (.ok (), { w with source := .memory (s.ack ids) })
  | .silent => (.ok (), w)
  | .stream s => w.onServer (s.ack ids)

/-- Makes the unacknowledged entries deliverable again. -/
def rewind (w : World) : World :=
  match w.source with
  | .memory s => { w with source := .memory s.rewind }
  | .silent => w
  | .stream s => { w with source := .stream s.rewind }

/-- Prepares the source for consuming. -/
def setupSource (w : World) : Except Fault Unit × World :=
  match w.source with
  | .stream s => w.onServer s.setup
  | _ => (.ok (), w)

end World

end Service
end Tallykeeper
