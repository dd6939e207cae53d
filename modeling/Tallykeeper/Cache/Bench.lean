import Tallykeeper.Cache.Tiered
import Tallykeeper.Count.Mem

/-!
# Cache benches

A bench runs a tiered cache of counter values over one of three backing stores and
answers a script of steps. The backing store is either a count store (reads fail for
absent keys with the key in the message, writes set and delete), a read-only map (reads
fail for absent keys with the bare sentinel, writes are accepted and ignored), or an empty
store (every read is absent, every write accepted). An outage switch makes every call of
the cache into its backing store fail with a given message while it is on; steps that
touch the backing store directly bypass the cache and the switch.
-/

namespace Tallykeeper
namespace Cache
namespace Bench

/-- The store behind the cache. -/
inductive Backing
  | counts (m : MemCounts)
  | readOnly (m : MemCounts)
  | empty
  deriving Repr

/-- The backing store with the outage switch: while a message is set, every call of the
cache into the store fails with it. -/
structure Rig where
  backing : Backing
  outage : Option String := none
  deriving Repr

/-- Runs a call of the cache into the store, unless an outage is on. -/
def guarded {α : Type} (r : Rig) (call : Backing → Except Fault α × Backing) :
    Except Fault α × Rig :=
  match r.outage with
  | some m => (.error (.injected m), r)
  | none =>
    let (res, b) := call r.backing
    (res, { r with backing := b })

/-- Reads a key from the store. -/
def load (k : String) : Backing → Except Fault Int64 × Backing
  | .counts m => (m.get k, .counts m)
  | .readOnly m =>
    match m.find? k with
    | some v => (.ok v, .readOnly m)
    | none => (.error (.bare .keyNotFound), .readOnly m)
  | .empty => (.error (.bare .keyNotFound), .empty)

/-- Writes a key in the store. -/
def store (k : String) (v : Int64) : Backing → Except Fault Unit × Backing
  | .counts m => (.ok (), .counts (m.put k v))
  | b => (.ok (), b)

/-- Deletes a key in the store. -/
def drop (k : String) : Backing → Except Fault Unit × Backing
  | .counts m => (.ok (), .counts (m.erase k))
  | b => (.ok (), b)

/-- The cache's view of the rig. -/
def delegate : Delegate Rig String Int64 where
  get k r := guarded r (load k)
  update k v r := guarded r (store k v)
  delete k r := guarded r (drop k)

/-- One step of a bench script. -/
inductive Step
  | get (key : String)
  | update (key : String) (value : Int64)
  | delete (key : String)
  | invalidate (key : String)
  | stats
  | backingSet (key : String) (value : Int64)
  | backingDelete (key : String)
  | backingGet (key : String)
  | outage (on : Bool) (message : String)
  deriving Repr

/-- The answer of a step. -/
inductive Reply
  | empty
  | value (v : Int64)
  | stats (s : Stats)
  deriving Repr

/-- A cache with its rig. -/
structure State where
  cache : Tiered String Int64
  rig : Rig

/-- Sets a key behind the cache's back. -/
def Backing.set (k : String) (v : Int64) : Backing → Backing
  | .counts m => .counts (m.put k v)
  | .readOnly m => .readOnly (m.put k v)
  | .empty => .empty

/-- Deletes a key behind the cache's back. -/
def Backing.erase (k : String) : Backing → Backing
  | .counts m => .counts (m.erase k)
  | .readOnly m => .readOnly (m.erase k)
  | .empty => .empty

/-- Reads a key behind the cache's back: a count store reports absence as a fault, the
other stores as no value. -/
def Backing.peek (k : String) : Backing → Except Fault Reply
  | .counts m => (m.get k).map .value
  | .readOnly m => .ok ((m.find? k).elim .empty .value)
  | .empty => .ok .empty

/-- Runs one step. -/
def step (st : State) : Step → Except Fault Reply × State
  | .get k =>
    let (r, c, rig) := st.cache.get delegate k st.rig
    (r.map .value, { cache := c, rig := rig })
  | .update k v =>
    let (r, c, rig) := st.cache.update delegate k v st.rig
    (r.map fun _ => .empty, { cache := c, rig := rig })
  | .delete k =>
    let (r, c, rig) := st.cache.delete delegate k st.rig
    (r.map fun _ => .empty, { cache := c, rig := rig })
  | .invalidate k => (.ok .empty, { st with cache := st.cache.invalidate k })
  | .stats => (.ok (.stats st.cache.stats), st)
  | .backingSet k v =>
    (.ok .empty, { st with rig := { st.rig with backing := st.rig.backing.set k v } })
  | .backingDelete k =>
    (.ok .empty, { st with rig := { st.rig with backing := st.rig.backing.erase k } })
  | .backingGet k => (st.rig.backing.peek k, st)
  | .outage on m =>
    (.ok .empty, { st with rig := { st.rig with outage := if on then some m else none } })

/-- Runs a script, answering every step in order. -/
def runSteps : State → List Step → List (Except Fault Reply)
  | _, [] => []
  | st, s :: rest =>
    let (r, st') := step st s
    r :: runSteps st' rest

/-- How a bench starts: its backing store, the cache's capacity, the pairs put into the
tier before use, and the failure of that warm-up, if any. -/
structure Setup where
  backing : Backing
  capacity : Int := 0
  warm : List (String × Int64) := []
  warmFailure : Option String := none

/-- Runs a bench: a failed warm-up fails the whole run. -/
def run (setup : Setup) (steps : List Step) : Except Fault (List (Except Fault Reply)) :=
  match setup.warmFailure with
  | some m => .error (.foreign (m ++ ": warm up"))
  | none =>
    let cache := (Tiered.create setup.capacity : Tiered String Int64).warm setup.warm
    .ok (runSteps { cache := cache, rig := { backing := setup.backing } } steps)

end Bench
end Cache
end Tallykeeper
