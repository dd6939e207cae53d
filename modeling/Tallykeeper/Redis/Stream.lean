import Tallykeeper.Numeral.Integer

/-!
# Streams

A stream is a log of entries, each a list of named text fields under an id
`<milliseconds>-<sequence>`; ids only grow. A new entry takes the server clock's
milliseconds with sequence 0, or the last id's milliseconds with the next sequence when
the clock has not passed the last id.

A consumer group remembers the last entry it delivered and the entries it delivered
and that were not acknowledged yet, its pending list, in id order, each with the consumer
it went to. Reading new entries for a consumer delivers the entries after the last
delivered one, at most `count` of them when `count` is positive, and adds them to the
pending list. Reading from an id delivers again the pending entries of that consumer
after the id, again at most `count` of them. Acknowledging an id drops it from the pending list; ids are acknowledged
one by one, and a malformed id stops the work after the ones before it.
-/

namespace Tallykeeper
namespace Redis

/-- The id of a stream entry. -/
structure EntryId where
  ms : Nat
  seq : Nat
  deriving DecidableEq, Repr, Inhabited

namespace EntryId

/-- The id before every entry. -/
def zero : EntryId := ⟨0, 0⟩

/-- The text of an id. -/
def render (i : EntryId) : String :=
  toString i.ms ++ "-" ++ toString i.seq

/-- Whether an id comes before another. -/
def lt (a b : EntryId) : Bool :=
  a.ms < b.ms || (a.ms == b.ms && a.seq < b.seq)

/-- Reads one part of an id: an unsigned decimal below 2^64. -/
def part? (s : String) : Option Nat :=
  match Numeral.parseUnsigned (.fixed 10) (Text.Utf8.encode s) with
  | .ok n => some n.toNat
  | .error _ => none

/-- Reads an id: milliseconds, optionally followed by `-` and a sequence. -/
def parse? (s : String) : Option EntryId :=
  match (s.toList.splitOn '-').map String.ofList with
  | [ms] => (part? ms).map fun m => ⟨m, 0⟩
  | ms :: rest => do
    let m ← part? ms
    let q ← part? ("-".intercalate rest)
    some ⟨m, q⟩
  | [] => none

/-- The id a new entry takes at a clock reading, after the last id given out. -/
def next (now : Nat) : Option EntryId → EntryId
  | none => ⟨now, 0⟩
  | some last => if lt last ⟨now, 0⟩ then ⟨now, 0⟩ else ⟨last.ms, last.seq + 1⟩

end EntryId

/-- An entry of a stream. -/
structure StreamEntry where
  id : EntryId
  fields : List (String × String)
  deriving DecidableEq, Repr

/-- An entry delivered to a consumer and not acknowledged yet. -/
structure PendingEntry where
  id : EntryId
  consumer : String
  deriving DecidableEq, Repr

/-- A consumer group. -/
structure Group where
  name : String
  lastDelivered : EntryId := EntryId.zero
  /-- In id order. -/
  pending : List PendingEntry := []
  deriving DecidableEq, Repr

/-- A stream: its entries in id order, the last id given out, and its groups. -/
structure Stream where
  entries : List StreamEntry := []
  lastId : Option EntryId := none
  groups : List Group := []
  deriving DecidableEq, Repr

/-- Drops an acknowledged id from a group's pending list, answering whether it was there. -/
def Group.acknowledge (g : Group) (id : String) : Bool × Group :=
  if g.pending.any (fun p => p.id.render == id) then
    (true, { g with pending := g.pending.filter fun p => p.id.render != id })
  else (false, g)

/-- Acknowledges ids in order, counting those that were pending. The first id that does
not read stops the work with `none`, keeping the acknowledgements before it. -/
def Group.acknowledgeAll (g : Group) : List String → Option Nat × Group
  | [] => (some 0, g)
  | id :: rest =>
    match EntryId.parse? id with
    | none => (none, g)
    | some _ =>
      let (hit, g1) := g.acknowledge id
      let (n, g2) := g1.acknowledgeAll rest
      (n.map fun k => if hit then k + 1 else k, g2)

namespace Stream

/-- Appends an entry at a clock reading, answering its id. -/
def append (now : Nat) (fields : List (String × String)) (s : Stream) : EntryId × Stream :=
  let id := EntryId.next now s.lastId
  (id, { s with entries := s.entries ++ [{ id, fields }], lastId := some id })

/-- The group of a name. -/
def group? (s : Stream) (name : String) : Option Group :=
  s.groups.find? (·.name == name)

/-- The stream with a group replaced. -/
def putGroup (s : Stream) (g : Group) : Stream :=
  { s with groups := s.groups.map fun h => if h.name == g.name then g else h }

/-- Keeps at most `count` items, all of them when `count` is zero. -/
def upTo {α : Type} (count : Nat) (xs : List α) : List α :=
  if count = 0 then xs else xs.take count

/-- Delivers new entries to a consumer of a group: the entries after the group's last
delivered one, at most `count`. -/
def deliverNew (g : Group) (consumer : String) (count : Nat) (s : Stream) :
    List StreamEntry × Group :=
  let fresh := upTo count (s.entries.filter fun e => EntryId.lt g.lastDelivered e.id)
  match fresh.getLast? with
  | none => ([], g)
  | some last =>
    let ids := fresh.map (·.id)
    let kept := g.pending.filter fun p => !ids.contains p.id
    let added := fresh.map fun e => ({ id := e.id, consumer } : PendingEntry)
    (fresh, { g with lastDelivered := last.id, pending := kept ++ added })

/-- The pending entries of a consumer of a group after an id, delivered again, at most
`count` of them. -/
def deliverPending (g : Group) (consumer : String) (after : EntryId) (count : Nat)
    (s : Stream) : List StreamEntry :=
  let ids := (g.pending.filter fun p => p.consumer == consumer && EntryId.lt after p.id).map (·.id)
  upTo count (s.entries.filter fun e => ids.contains e.id)

end Stream

end Redis
end Tallykeeper
