import Tallykeeper.Catalog.Entry

/-!
# The memory catalog store

The memory store keeps a map from ids to entries and the last id it handed out. A map is
modelled by its bindings, in the order their keys were first written; writing a key again
replaces its binding in place.

Creating validates the entry, then scans the stored names, then stores the entry under
the next id, stamped with the clock reading. Updating checks that the patch sets something,
looks the id up in the map, validates the patched entry, scans the names of the other
entries, and stores the patched entry, stamped anew, under the id it was found under.
Every failing call returns before the map or the sequence changes. A lookup by name scans
the map; a query collects the admitted entries, sorts them by id and cuts them to a
positive limit. Tearing down empties the map and restarts the sequence.
-/

namespace Tallykeeper
namespace Catalog

open Text (ByteString)

/-- The memory catalog store: the bindings of its map from ids to entries, and the last id
handed out. -/
structure MemoryStore where
  slots : List (Int64 × Entry) := []
  lastId : Int64 := 0
  deriving Repr

namespace MemoryStore

/-- Binds an id to an entry, in place of the binding the id had. -/
def put (id : Int64) (e : Entry) : List (Int64 × Entry) → List (Int64 × Entry)
  | [] => [(id, e)]
  | (k, o) :: rest => if k = id then (id, e) :: rest else (k, o) :: put id e rest

/-- The stored entries, in the order of their bindings. -/
def entries (s : MemoryStore) : List Entry :=
  s.slots.map (·.2)

/-- Registers a valid entry with a free name under the next id, stamped with the clock
reading. -/
def create (now : Int64) (e : Entry) (s : MemoryStore) : Except Fault Entry × MemoryStore :=
  match e.validate with
  | .error f => (.error f, s)
  | .ok () =>
    if s.entries.any (·.name == e.name) then (.error (taken e.name), s)
    else
      let made := { e with id := s.lastId + 1, createdAt := now, updatedAt := now }
      (.ok made, { slots := put made.id made s.slots, lastId := made.id })

/-- The entry of a name, the first the scan of the map meets. -/
def get (name : ByteString) (s : MemoryStore) : Except Fault Entry :=
  match s.entries.find? (·.name == name) with
  | some e => .ok e
  | none => .error (missingName name)

/-- The entry bound to an id. -/
def getById (id : Int64) (s : MemoryStore) : Except Fault Entry :=
  match s.slots.lookup id with
  | some e => .ok e
  | none => .error (missingId id)

/-- The admitted entries sorted by id, at most `limit` of them when the limit is
positive. -/
def query (q : Query) (s : MemoryStore) : List Entry :=
  let hits := (s.entries.filter q.admits).mergeSort fun a b => decide (a.id ≤ b.id)
  if q.limit > 0 then hits.take q.limit.toNat else hits

/-- Applies a non-empty patch to the entry bound to an id, stamping the write with the
clock reading. -/
def update (now : Int64) (id : Int64) (p : Patch) (s : MemoryStore) :
    Except Fault Entry × MemoryStore :=
  if p.isEmpty then (.error (noFields id), s)
  else
    match s.slots.lookup id with
    | none => (.error (missingId id), s)
    | some current =>
      let next := p.apply current
      match next.validate with
      | .error f => (.error f, s)
      | .ok () =>
        if s.entries.any (fun o => o.id != id && o.name == next.name) then
          (.error (taken next.name), s)
        else
          let stamped := { next with updatedAt := now }
          (.ok stamped, { s with slots := put id stamped s.slots })

/-- Empties the map and restarts the sequence. -/
def teardown (_ : MemoryStore) : MemoryStore :=
  {}

end MemoryStore

end Catalog
end Tallykeeper
