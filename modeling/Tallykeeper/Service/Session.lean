import Tallykeeper.Service.Drain
import Tallykeeper.Http.Serve

/-!
# Sessions

A session wires a service from a setup and runs a list of steps against it, answering
each step. The steps reach every layer: the service operations, the stores below the
caches, the caches themselves, the change source, the durable writer, the HTTP router,
and the fixtures that make stores fail.

Wiring creates both tables, creates the seed entries in the catalog store, and builds
the caches; warming loads every catalog entry into the `ids` cache, and a failing warm
query fails the whole session with `<fault>: warm up`.
-/

namespace Tallykeeper
namespace Service

open Storage Cache Text

/-- Which local cache a step addresses. -/
inductive CacheName
  | ids
  | values
  deriving DecidableEq, Repr

/-- The kind of change source. -/
inductive SourceKind
  | memory
  | silent
  /-- A stream on the server under a key, read `count` new entries at a time (zero for
  the default). -/
  | stream (key : String) (count : Nat)
  deriving DecidableEq, Repr

/-- One step of a session. -/
inductive Step
  | register (name description : ByteString) (defaultValue : Int64)
  | resolve (name : ByteString)
  | catalogGet (name : ByteString)
  | catalogList
  | catalogUpdate (id : Int64) (patch : Catalog.Patch)
  | counterGet (name : ByteString) (userId : Int64)
  | counterIncrement (name : ByteString) (userId delta : Int64)
  | counterReset (name : ByteString) (userId : Int64)
  | storeCreate (e : Catalog.Entry)
  | storeUpdate (id : Int64) (patch : Catalog.Patch)
  | storeGet (name : ByteString)
  | storeGetById (id : Int64)
  | storeQuery (q : Catalog.Query)
  | storeTeardown
  | countGet (key : String)
  | countIncrement (key : String) (delta : Int64)
  | countSet (key : String) (value : Int64)
  | countDelete (key : String)
  | invalidate (cache : CacheName) (key : String)
  | cacheStats (cache : CacheName)
  | ledgerGet (counterId userId : Int64)
  | ledgerCreate (counterId userId value : Int64)
  | ledgerUpdate (counterId userId value : Int64)
  | ledgerUpsert (counterId userId value : Int64)
  | propagate (e : Event)
  | consume
  | ack (ids : List String)
  | rewind
  | setupSource
  | failCatalog (method : Option Catalog.Method) (times : Nat) (message : String) (absent : Bool)
  | closeDatabase
  | drain (upserts : List ((Int64 × Int64) × Nat)) (setups consumes : Nat)
  | request (r : Http.Request)
  /-- Writes bytes under a server key from outside. -/
  | rawSet (key : String) (value : List UInt8)
  /-- Reads the bytes under a server key from outside. -/
  | rawGet (key : String)
  /-- Reads the time to live of a server key from outside. -/
  | rawTtl (key : String)
  /-- Moves the server clock forward by whole seconds. -/
  | fastForward (seconds : Nat)
  /-- Makes every server command fail with a text; the empty text ends that. -/
  | serverFailure (message : String)
  /-- Appends an entry to a stream, the source's own when no key is given. -/
  | streamAppend (fields : List (String × String)) (key : Option String)
  /-- The length of a stream, the source's own when no key is given. -/
  | streamLength (key : Option String)
  deriving Repr

/-- The answer of a step that succeeded. -/
inductive Reply
  | unit
  | int (v : Int64)
  | text (s : String)
  | flag (b : Bool)
  | entry (e : Catalog.Entry)
  | entries (es : List Catalog.Entry)
  | row (r : Ledger.Row)
  | stats (s : Stats)
  | deliveries (ds : List Change.Delivery)
  | report (r : Report)
  | response (r : Http.Response)
  /-- Bytes, or nothing. -/
  | bytes (b : Option (List UInt8))

/-- How a session's service is wired. -/
structure Setup where
  engine : Engine := .memory
  /-- Whether the counts live on the server rather than in memory. -/
  countsOnServer : Bool := false
  valueCodec : ValueCodec := .decimal
  source : SourceKind := .memory
  eventCodec : EventCodec := .integers
  catalogCapacity : Int := 0
  valueCapacity : Int := 0
  warm : Bool := false
  warmFails : Bool := false
  seed : List Catalog.Entry := []
  quota : Option Quota := none
  readRetries : Nat := 0
  setupRetries : Nat := 0
  host : String := "localhost"

/-- A retry count, zero standing for the default. -/
def retriesOr (asked default : Nat) : Nat :=
  if asked = 0 then default else asked

/-- Wires the service: tables, seed entries, caches and source. Answers the seed
results, or the warm-up fault. -/
def wire (s : Setup) : Except Fault (List (Except Fault Catalog.Entry) × World) :=
  let b : Backend := { engine := s.engine }
  let stores0 : Stores :=
    { backend := b, countHome := if s.countsOnServer then .server s.valueCodec else .memory }
  let stores1 :=
    { stores0 with
      catalog := ((Catalog.Store.ofEngine s.engine).setup b).2
      ledger := (stores0.ledger.setup b).2 }
  let (seeded, stores2) := s.seed.foldl (fun (acc : List (Except Fault Catalog.Entry) × Stores) e =>
    let (r, st) := acc.2.catalogCall .create fun b c => c.create b e
    (acc.1 ++ [r], st)) ([], stores1)
  let stores3 :=
    if s.warmFails then
      { stores2 with script := stores2.script.push [{ method := some .query }] }
    else stores2
  let warmed : Except Fault (List (ByteString × Int64) × Stores) :=
    if s.warm then
      match stores3.catalogCall .query fun b c => c.query b {} with
      | (.ok es, st) => .ok (es.map fun e => (e.name, e.id), st)
      | (.error f, _) => .error (.foreign (f.message ++ ": warm up"))
    else .ok ([], stores3)
  match warmed with
  | .error f => .error f
  | .ok (pairs, stores4) =>
    .ok (seeded,
      { stores := stores4,
        ids := (Tiered.create s.catalogCapacity).warm pairs,
        values := Tiered.create s.valueCapacity,
        source := match s.source with
          | .memory => .memory {}
          | .silent => .silent
          | .stream key count =>
            .stream { key := if key.isEmpty then "counter_updates" else key,
                      count := if count = 0 then Change.defaultCount else count },
        eventCodec := s.eventCodec,
        valueCodec := s.valueCodec,
        tuning := { readRetries := retriesOr s.readRetries 3,
                    setupRetries := retriesOr s.setupRetries 5 },
        quota := s.quota })

/-- Turns a result into a step answer. -/
def reply {α : Type} (shown : α → Reply) : Except Fault α × World → Except Fault Reply × World
  | (.ok a, w) => (.ok (shown a), w)
  | (.error f, w) => (.error f, w)

namespace World

/-- The statistics of the cache a step addresses. -/
def cacheStats (w : World) : CacheName → Stats
  | .ids => w.ids.stats
  | .values => w.values.stats

/-- The key of the stream a step names, the source's own by default. -/
def streamKey (w : World) (key : Option String) : String :=
  match key, w.source with
  | some k, _ => k
  | none, .stream s => s.key
  | none, _ => "counter_updates"

/-- Arranges the failures of one drain, replacing those of earlier drains: the next `n`
upserts of a key fail. Of two arrangements for one key the later counts. -/
def arrange (upserts : List ((Int64 × Int64) × Nat)) (setups consumes : Nat) (w : World) : World :=
  { w with
    writerFaults :=
      { upserts := upserts.reverse.map fun (key, n) => (key, List.replicate n true),
        setups, consumes } }

end World

/-- Runs one step. -/
def runStep (host : String) (step : Step) (w : World) : Except Fault Reply × World :=
  match step with
  | .register n d v => reply .entry (register n d v w)
  | .resolve n => reply .int (resolve n w)
  | .catalogGet n => reply .entry (catalogGet n w)
  | .catalogList => reply .entries (catalogList w)
  | .catalogUpdate id p => reply .entry (catalogUpdate id p w)
  | .counterGet n u => reply .int (counterGet n u w)
  | .counterIncrement n u d => reply .int (counterIncrement n u d w)
  | .counterReset n u => reply .int (counterReset n u w)
  | .storeCreate e => reply .entry (w.onStores (·.catalogCall .create fun b c => c.create b e))
  | .storeUpdate id p => reply .entry (w.onStores (·.catalogCall .update fun b c => c.update b id p))
  | .storeGet n => reply .entry (w.onStores (·.catalogCall .get fun b c => c.get b n))
  | .storeGetById id => reply .entry (w.onStores (·.catalogCall .getById fun b c => c.getById b id))
  | .storeQuery q => reply .entries (w.onStores (·.catalogCall .query fun b c => c.query b q))
  | .storeTeardown =>
    let st := w.stores
    match st.catalog.teardown st.backend with
    | (.error f, c) => (.error f, { w with stores := { st with catalog := c } })
    | (.ok (), c) =>
      let (r, l) := st.ledger.teardown st.backend
      (r.map fun _ => .unit, { w with stores := { st with catalog := c, ledger := l } })
  | .countGet k => reply .int (w.onStores (·.countGet k))
  | .countIncrement k d => reply .int (w.onStores (·.countIncr k d))
  | .countSet k v => reply .int (w.onStores (·.countSet k v))
  | .countDelete k => reply (fun _ => .unit) (w.onStores (·.countDelete k))
  | .invalidate .ids k => (.ok .unit, { w with ids := w.ids.invalidate (.ofString k) })
  | .invalidate .values k => (.ok .unit, { w with values := w.values.invalidate k })
  | .cacheStats c => (.ok (.stats (w.cacheStats c)), w)
  | .ledgerGet c u => reply .row (w.onStores (·.ledgerCall fun b l => l.get b c u))
  | .ledgerCreate c u v => reply .row (w.onStores (·.ledgerCall fun b l => l.create b c u v))
  | .ledgerUpdate c u v => reply .row (w.onStores (·.ledgerCall fun b l => l.update b c u v))
  | .ledgerUpsert c u v => reply .row (w.onStores (·.ledgerCall fun b l => l.upsert b c u v))
  | .propagate e => reply .text (w.propagate e)
  | .consume => reply .deliveries w.consume
  | .ack ids => reply (fun _ => .unit) (w.ack ids)
  | .rewind => (.ok .unit, w.rewind)
  | .setupSource => reply (fun _ => .unit) w.setupSource
  | .failCatalog m n msg absent =>
    let queued := List.replicate n { method := m, absent, message := msg }
    (.ok .unit, { w with stores := { w.stores with script := w.stores.script.push queued } })
  | .closeDatabase =>
    (.ok (.flag true),
      { w with stores := { w.stores with backend := { w.stores.backend with online := false } } })
  | .drain upserts setups consumes =>
    let (r, w') := (w.arrange upserts setups consumes).drain
    (.ok (.report r), w')
  | .request r =>
    let (resp, w') := Http.serve host r w
    (.ok (.response resp), w')
  | .rawSet k v => reply (fun _ => .unit) (w.onServer (·.putDirect k v) |> fun (r, w') =>
      (r.mapError (fun e => Fault.foreign e.text), w'))
  | .rawGet k => ((w.stores.server.getDirect k).mapError (fun e => Fault.foreign e.text) |>.map .bytes, w)
  | .rawTtl k => (.ok (.int (Int64.ofNat (w.stores.server.ttlDirect k))), w)
  | .fastForward secs => (.ok .unit, w.onServer (fun srv => ((), srv.fastForward (secs * 1000))) |>.2)
  | .serverFailure m => (.ok .unit, w.onServer (fun srv => ((), srv.inject m)) |>.2)
  | .streamAppend fields key =>
    match w.onServer (Redis.Server.xadd (w.streamKey key) fields) with
    | (r, w') => (r.mapError (fun e => Fault.foreign e.text) |>.map .text, w')
  | .streamLength key =>
    ((w.stores.server.xlen (w.streamKey key)).mapError (fun e => Fault.foreign e.text) |>.map
      (fun n => .int (Int64.ofNat n)), w)

/-- Runs steps in order, answering each. -/
def runSteps (host : String) : List Step → World → List (Except Fault Reply) × World
  | [], w => ([], w)
  | s :: rest, w =>
    let (a, w1) := runStep host s w
    let (as, w2) := runSteps host rest w1
    (a :: as, w2)

/-- Runs a session: the seed results and the step answers, or the wiring fault. -/
def session (s : Setup) (steps : List Step) :
    Except Fault (List (Except Fault Catalog.Entry) × List (Except Fault Reply)) :=
  match wire s with
  | .error f => .error f
  | .ok (seeded, w) => .ok (seeded, (runSteps s.host steps w).1)

end Service
end Tallykeeper
