import Tallykeeper.Redis.Stream
import Tallykeeper.Count.Mem

/-!
# A Redis server in memory

The server keeps byte strings and streams under keys, some keys with a time to live in
milliseconds. Its clock stands still at a fixed reading: time passes only when it is moved
forward, which shortens every time to live and drops the keys whose time ran out.

Each command answers a value or fails, and a failure leaves the server as it was, save for
the acknowledgements made before a malformed id stops an acknowledgement. A failure is an
error reply of the server, or a failure of the connection before any reply came: while the
server cannot be reached every command fails so. While a failure is injected every command
answers it as an error reply. The replies
for a key of the other kind, a text that is no integer, an increment past the 64-bit
range, an expiry that is not positive, a stream command without fields, a missing group
and a malformed entry id are the server's fixed texts below. Direct access (reading,
writing and timing a key from outside) bypasses the injected failure, as the commands of a
client would not.
-/

namespace Tallykeeper
namespace Redis

/-- Why a command failed: an error reply of the server, or a failure of the connection
before any reply came. -/
inductive Failure
  | reply (text : String)
  | transport (text : String)
  deriving DecidableEq, Repr

/-- The text of a failure. -/
def Failure.text : Failure → String
  | .reply t | .transport t => t

/-- The reply to a command on a key of the other kind. -/
def wrongType : Failure :=
  .reply "WRONGTYPE Operation against a key holding the wrong kind of value"

/-- The reply to an increment of a text that is no integer. -/
def notInteger : Failure := .reply "ERR value is not an integer or out of range"

/-- The reply to an increment past the 64-bit range. -/
def wouldOverflow : Failure := .reply "ERR increment or decrement would overflow"

/-- The reply to an expiry that is not positive. -/
def badExpiry : Failure := .reply "ERR invalid expire time in set"

/-- The reply to an append without fields. -/
def appendArity : Failure := .reply ("ERR wrong number of arguments for " ++
  String.singleton (Char.ofNat 39) ++ "xadd" ++ String.singleton (Char.ofNat 39) ++ " command")

/-- The reply to an entry id that does not read. -/
def badEntryId : Failure := .reply "ERR Invalid stream ID specified as stream command argument"

/-- The reply to a group that exists already. -/
def busyGroup : Failure := .reply "BUSYGROUP Consumer Group name already exists"

/-- The reply to a read of a stream or a group that does not exist. -/
def noGroup (key group : String) : Failure :=
  let tick := String.singleton (Char.ofNat 39)
  .reply ("NOGROUP No such key " ++ tick ++ key ++ tick ++ " or consumer group " ++ tick ++
    group ++ tick ++ " in XREADGROUP with GROUP option")

/-- What a key holds. -/
inductive Datum
  | bytes (b : List UInt8)
  | stream (s : Stream)
  deriving DecidableEq, Repr

/-- The clock reading of the server, in Unix milliseconds. -/
def startClock : Nat := 1700000000000

/-- The server: its keys, their times to live, the injected error reply (empty for none),
its clock, and the connection error while it cannot be reached. -/
structure Server where
  data : List (String × Datum) := []
  expiry : List (String × Nat) := []
  failure : String := ""
  now : Nat := startClock
  unreachable : Option String := none
  deriving DecidableEq, Repr

/-- A reply: a value or a failure. -/
abbrev Reply (α : Type) := Except Failure α

namespace Server

/-- What a key holds. -/
def find? (s : Server) (key : String) : Option Datum :=
  s.data.lookup key

/-- Stores a datum under a key, keeping its time to live. -/
def store (s : Server) (key : String) (d : Datum) : Server :=
  { s with data := (key, d) :: s.data.filter (·.1 != key) }

/-- Removes a key and its time to live. -/
def remove (s : Server) (key : String) : Server :=
  { s with data := s.data.filter (·.1 != key), expiry := s.expiry.filter (·.1 != key) }

/-- Sets or clears the time to live of a key. -/
def expireIn (s : Server) (key : String) (ms : Option Nat) : Server :=
  let rest := s.expiry.filter (·.1 != key)
  { s with expiry := match ms with
    | some t => (key, t) :: rest
    | none => rest }

/-- Fails with the connection error while the server cannot be reached, else with the
injected error reply, if there is one. -/
def ready (s : Server) : Reply Unit :=
  match s.unreachable with
  | some e => .error (.transport e)
  | none => if s.failure.isEmpty then .ok () else .error (.reply s.failure)

/-- Runs a command that changes the server only when it succeeds. -/
def command {α : Type} (s : Server) (step : Server → Reply (α × Server)) : Reply α × Server :=
  match s.ready with
  | .error e => (.error e, s)
  | .ok () =>
    match step s with
    | .ok (a, s') => (.ok a, s')
    | .error e => (.error e, s)

/-- Checks that the server answers. -/
def ping (s : Server) : Reply Unit :=
  s.ready

/-- The bytes under a key, none for an absent key. -/
def get (key : String) (s : Server) : Reply (Option (List UInt8)) := do
  s.ready
  match s.find? key with
  | none => return none
  | some (.bytes b) => return some b
  | some (.stream _) => throw wrongType

/-- Stores bytes under a key and clears its time to live. -/
def set (key : String) (value : List UInt8) (s : Server) : Reply Unit × Server :=
  s.command fun s => .ok ((), (s.store key (.bytes value)).expireIn key none)

/-- Stores bytes under a key that expires after a number of seconds. -/
def setExpiring (key : String) (value : List UInt8) (seconds : Int) (s : Server) :
    Reply Unit × Server :=
  s.command fun s =>
    if seconds ≤ 0 then .error badExpiry
    else .ok ((), (s.store key (.bytes value)).expireIn key (some (seconds.toNat * 1000)))

/-- Deletes a key, answering how many keys went. -/
def del (key : String) (s : Server) : Reply Nat × Server :=
  s.command fun s => .ok (if (s.find? key).isSome then 1 else 0, s.remove key)

/-- Adds a delta to the integer text under a key, an absent key counting as zero; the
time to live stays. -/
def incrBy (key : String) (delta : Int64) (s : Server) : Reply Int64 × Server :=
  s.command fun s => do
    let current ← match s.find? key with
      | none => pure 0
      | some (.stream _) => throw wrongType
      | some (.bytes b) =>
        match Numeral.parseSigned (.fixed 10) b with
        | .ok v => pure v
        | .error _ => throw notInteger
    if overflows current delta then throw wouldOverflow
    let v := current + delta
    return (v, s.store key (.bytes (Text.Utf8.encode (Numeral.decimal v))))

/-- The time to live of a key in whole seconds: `-2` for an absent key, `-1` for a key
that does not expire. -/
def ttl (key : String) (s : Server) : Reply Int := do
  s.ready
  match s.find? key with
  | none => return -2
  | some _ =>
    match s.expiry.lookup key with
    | none => return -1
    | some ms => return ((ms / 1000 : Nat) : Int)

/-- The stream under a key, none for an absent key. -/
def streamAt? (s : Server) (key : String) : Reply (Option Stream) :=
  match s.find? key with
  | none => .ok none
  | some (.stream st) => .ok (some st)
  | some (.bytes _) => .error wrongType

/-- Appends an entry to the stream under a key, creating it, and answers the entry id. -/
def xadd (key : String) (fields : List (String × String)) (s : Server) : Reply String × Server :=
  s.command fun s => do
    if fields.isEmpty then throw appendArity
    let st ← s.streamAt? key
    let (id, st') := (st.getD {}).append s.now fields
    return (id.render, s.store key (.stream st'))

/-- The number of entries of the stream under a key. -/
def xlen (key : String) (s : Server) : Reply Nat := do
  s.ready
  match ← s.streamAt? key with
  | none => return 0
  | some st => return st.entries.length

/-- Creates a group reading a stream from its start, creating the stream if needed. -/
def xgroupCreate (key group : String) (s : Server) : Reply Unit × Server :=
  s.command fun s => do
    let st := (← s.streamAt? key).getD {}
    if (st.group? group).isSome then throw busyGroup
    return ((), s.store key (.stream { st with groups := st.groups ++ [{ name := group }] }))

/-- Reads at most `count` entries for a consumer of a group: new ones for `>`, else the
consumer's pending entries after the id. An empty read of new entries answers none. -/
def xreadgroup (key group consumer position : String) (count : Nat) (s : Server) :
    Reply (Option (List StreamEntry)) × Server :=
  s.command fun s => do
    let some st ← s.streamAt? key | throw (noGroup key group)
    let some g := st.group? group | throw (noGroup key group)
    if position == ">" then
      let (fresh, g') := st.deliverNew g consumer count
      if fresh.isEmpty then return (none, s)
      return (some fresh, s.store key (.stream (st.putGroup g')))
    else
      let some after := EntryId.parse? position | throw badEntryId
      return (some (st.deliverPending g consumer after count), s)

/-- Acknowledges ids for a group, answering how many were pending. A missing stream or
group acknowledges nothing; a malformed id is an error reply that keeps the
acknowledgements of the ids before it. -/
def xack (key group : String) (ids : List String) (s : Server) : Reply Nat × Server :=
  match s.ready with
  | .error e => (.error e, s)
  | .ok () =>
    match s.streamAt? key with
    | .error e => (.error e, s)
    | .ok none => (.ok 0, s)
    | .ok (some st) =>
      match st.group? group with
      | none => (.ok 0, s)
      | some g =>
        let (n, g') := g.acknowledgeAll ids
        let s' := s.store key (.stream (st.putGroup g'))
        match n with
        | some k => (.ok k, s')
        | none => (.error badEntryId, s')

/-- Moves the clock forward: every time to live shortens, and keys whose time ran out go. -/
def fastForward (ms : Nat) (s : Server) : Server :=
  let shortened := s.expiry.map fun (k, t) => (k, t - ms)
  let gone := (shortened.filter (·.2 == 0)).map (·.1)
  { s with
    data := s.data.filter fun (k, _) => !gone.contains k,
    expiry := shortened.filter (·.2 != 0) }

/-- Injects a failure; the empty text ends it. -/
def inject (failure : String) (s : Server) : Server :=
  { s with failure }

/-- Writes bytes under a key from outside, clearing its time to live. -/
def putDirect (key : String) (value : List UInt8) (s : Server) : Reply Unit × Server :=
  match s.find? key with
  | some (.stream _) => (.error wrongType, s)
  | _ => (.ok (), (s.store key (.bytes value)).expireIn key none)

/-- Reads the bytes under a key from outside. -/
def getDirect (key : String) (s : Server) : Reply (Option (List UInt8)) :=
  match s.find? key with
  | none => .ok none
  | some (.bytes b) => .ok (some b)
  | some (.stream _) => .error wrongType

/-- The time to live of a key from outside, in whole seconds; zero when it has none. -/
def ttlDirect (key : String) (s : Server) : Nat :=
  match s.expiry.lookup key with
  | some ms => ms / 1000
  | none => 0

end Server

end Redis
end Tallykeeper
