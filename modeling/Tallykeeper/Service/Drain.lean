import Tallykeeper.Service.World

/-!
# Draining changes into the ledger

The durable writer first prepares the source, retrying: with `r` retries it tries
`r + 1` times, and when every try fails the writer stops in the failed state with
`store unavailable: consumer group setup: <fault>`.

It then reads batches, each read retried the same way; a read that only finds pending
entries exhausted reads again. A batch is applied in order: an entry that could not be
decoded is acknowledged and skipped, an event is upserted into the ledger and
acknowledged, and the first failed upsert ends the batch, leaving it and everything after
it unacknowledged. The acknowledgements of a batch go out together after it. After a
failed batch the source is rewound, so the unacknowledged entries come again, in order.

A drain runs the writer until a read of new entries finds nothing. Failures a fixture
arranges meet the setups, the reads and the upserts of given keys before they reach the
source or the ledger.
-/

namespace Tallykeeper
namespace Service

/-- One upsert the writer tried. -/
structure Attempt where
  counterId : Int64
  userId : Int64
  value : Int64
  ok : Bool
  deriving DecidableEq, Repr

/-- What a drain did. -/
structure Report where
  acks : List String := []
  attempts : List Attempt := []
  rewinds : Nat := 0
  /-- Why the writer stopped in the failed state, if it did. -/
  failure : Option Fault := none
  deriving Repr

/-- How one read ended. -/
inductive Read
  /-- A batch of entries. -/
  | batch (ds : List Change.Delivery)
  /-- Nothing pending was left; new entries are read next. -/
  | drained
  /-- A read of new entries found nothing. -/
  | idle
  | failed (f : Fault)

namespace World

/-- One try of preparing the source. -/
def trySetup (w : World) : Except Fault Unit × World :=
  if w.writerFaults.setups > 0 then
    (.error (.injected "injected setup failure"),
      { w with writerFaults := { w.writerFaults with setups := w.writerFaults.setups - 1 } })
  else w.setupSource

/-- Prepares the source with a number of tries, answering the last fault when all fail. -/
def setupWithRetries : Nat → World → Except Fault Unit × World
  | 0, w => (.error (.injected "no tries"), w)
  | 1, w => w.trySetup
  | n + 2, w =>
    match w.trySetup with
    | (.ok (), w') => (.ok (), w')
    | (.error _, w') => setupWithRetries (n + 1) w'

/-- One try of reading. -/
def tryRead (w : World) : Read × World :=
  if w.writerFaults.consumes > 0 then
    (.failed (.injected "injected consume failure"),
      { w with writerFaults := { w.writerFaults with consumes := w.writerFaults.consumes - 1 } })
  else
    match w.consume with
    | (.ok ds, w') => (.batch ds, w')
    | (.error f, w') =>
      if f == .bare .emptySource then (.idle, w')
      else if f.is .emptySource then (.drained, w')
      else (.failed f, w')

/-- Reads with a number of tries, answering the last failure when all fail. -/
def readWithRetries : Nat → World → Read × World
  | 0, w => (.failed (.injected "no tries"), w)
  | 1, w => w.tryRead
  | n + 2, w =>
    match w.tryRead with
    | (.failed _, w') => readWithRetries (n + 1) w'
    | other => other

/-- Whether the next upsert of a key fails, and the arrangement after it. -/
def takeUpsertFault (key : Int64 × Int64) (fs : WriterFaults) : Bool × WriterFaults :=
  match fs.upserts.lookup key with
  | some (fails :: rest) =>
    (fails, { fs with upserts := (key, rest) :: fs.upserts.filter (·.1 != key) })
  | _ => (false, fs)

/-- Upserts one event into the ledger, unless an arranged failure meets it. -/
def upsertEvent (e : Event) (w : World) : Except Fault Unit × World :=
  match takeUpsertFault (e.counterId, e.userId) w.writerFaults with
  | (true, fs) => (.error (.injected "injected apply failure"), { w with writerFaults := fs })
  | (false, fs) =>
    let (r, w') := { w with writerFaults := fs }.onStores
      (·.ledgerCall fun b l => l.upsert b e.counterId e.userId e.value)
    (r.map fun _ => (), w')

/-- Applies a batch in order: the ids to acknowledge, the upserts tried, and whether the
batch went through. -/
def applyBatch : List Change.Delivery → World → List String × List Attempt × Bool × World
  | [], w => ([], [], true, w)
  | d :: rest, w =>
    match d.event with
    | .error _ =>
      let (ids, tried, ok, w') := applyBatch rest w
      (d.ackId :: ids, tried, ok, w')
    | .ok e =>
      match upsertEvent e w with
      | (.error _, w') =>
        ([], [{ counterId := e.counterId, userId := e.userId, value := e.value, ok := false }],
          false, w')
      | (.ok (), w') =>
        let (ids, tried, ok, w'') := applyBatch rest w'
        (d.ackId :: ids,
          { counterId := e.counterId, userId := e.userId, value := e.value, ok := true } :: tried,
          ok, w'')

/-- Reads and applies batches until a read of new entries finds nothing, for at most
`fuel` reads. -/
def pump : Nat → Report → World → Report × World
  | 0, r, w => (r, w)
  | fuel + 1, r, w =>
    match w.readWithRetries (w.tuning.readRetries + 1) with
    | (.idle, w') => (r, w')
    | (.drained, w') => pump fuel r w'
    | (.failed _, w') => pump fuel r w'
    | (.batch [], w') => pump fuel r w'
    | (.batch ds, w') =>
      let (ids, tried, ok, w1) := applyBatch ds w'
      let w2 := if ids.isEmpty then w1 else (w1.ack ids).2
      let r' := { r with acks := r.acks ++ ids, attempts := r.attempts ++ tried }
      if ok then pump fuel r' w2
      else pump fuel { r' with rewinds := r'.rewinds + 1 } w2.rewind

/-- The most reads one drain makes. -/
def drainFuel : Nat := 100000

/-- Runs the durable writer until a read of new entries finds nothing. -/
def drain (w : World) : Report × World :=
  match w.setupWithRetries (w.tuning.setupRetries + 1) with
  | (.error f, w') => ({ failure := some (f.under .unavailable "consumer group setup: ") }, w')
  | (.ok (), w') => pump drainFuel {} w'

end World

end Service
end Tallykeeper
