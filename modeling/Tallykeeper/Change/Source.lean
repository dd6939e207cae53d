import Tallykeeper.Change.Codec

/-!
# Change sources held in memory

A change source carries the events that counters publish to the durable writer. Each
published event becomes an entry, encoded with the source's codec and numbered `1`, `2`,
… in publishing order. Consuming delivers every entry not yet delivered, decoded, and
fails with the bare `empty source` when there is none. Acknowledging drops the entries
that are named and were delivered; rewinding makes every remaining entry undelivered, so
the next consumption delivers them again in order.

The silent source publishes nothing (its entry ids are empty) and never has anything to
deliver.
-/

namespace Tallykeeper
namespace Change

/-- A delivered entry: the id to acknowledge it by, and its event or the fault that
kept it from being read. -/
structure Delivery where
  ackId : String
  event : Except Fault Event

/-- One entry of a memory source. -/
structure Entry where
  id : String
  fields : Fields
  delivered : Bool := false
  deriving Repr

/-- A source held in memory: its entries in publishing order and the last number used. -/
structure MemSource where
  entries : List Entry := []
  lastId : Nat := 0
  deriving Repr

namespace MemSource

/-- Publishes an event as a new entry and answers its id. -/
def propagate (codec : EventCodec) (e : Event) (s : MemSource) : String × MemSource :=
  let id := toString (s.lastId + 1)
  (id, { entries := s.entries ++ [{ id, fields := codec.encode e }], lastId := s.lastId + 1 })

/-- Delivers every entry not yet delivered, or fails when there is none. -/
def consume (codec : EventCodec) (s : MemSource) : Except Fault (List Delivery) × MemSource :=
  let fresh := s.entries.filter (!·.delivered)
  if fresh.isEmpty then (.error (.bare .emptySource), s)
  else
    (.ok (fresh.map fun en => { ackId := en.id, event := codec.decode en.fields }),
      { s with entries := s.entries.map fun en => { en with delivered := true } })

/-- Drops the named entries that were delivered. -/
def ack (ids : List String) (s : MemSource) : MemSource :=
  { s with entries := s.entries.filter fun en => !(ids.contains en.id && en.delivered) }

/-- Makes every remaining entry undelivered. -/
def rewind (s : MemSource) : MemSource :=
  { s with entries := s.entries.map fun en => { en with delivered := false } }

end MemSource

end Change
end Tallykeeper
