import Tallykeeper.Fault
import Tallykeeper.Numeral.Integer

/-!
# Counts in memory

The count store keeps one signed 64-bit value per key. Reading an absent key fails with
`key not found: <key>`; incrementing treats an absent key as zero. An increment whose
exact sum leaves the 64-bit range is refused and changes nothing; the check compares
against the bound minus the delta, which itself never leaves the range.
-/

namespace Tallykeeper

/-- Whether adding `delta` to `current` leaves the signed 64-bit range. -/
def overflows (current delta : Int64) : Bool :=
  if delta > 0 then current > Int64.maxValue - delta
  else current < Int64.minValue - delta

/-- The fault of an increment that would leave the range. -/
def overflowFault (key : String) (delta : Int64) : Fault :=
  .wrap .overflow ("increment of '" ++ key ++ "' by " ++ Numeral.decimal delta)

/-- Counts held in memory, one per key. -/
structure MemCounts where
  values : List (String × Int64) := []
  deriving Repr

namespace MemCounts

/-- The value of a key, if held. -/
def find? (m : MemCounts) (key : String) : Option Int64 :=
  m.values.lookup key

/-- The store with a key set to a value. -/
def put (m : MemCounts) (key : String) (v : Int64) : MemCounts :=
  { values := (key, v) :: m.values.filter (·.1 != key) }

/-- The store without a key. -/
def erase (m : MemCounts) (key : String) : MemCounts :=
  { values := m.values.filter (·.1 != key) }

/-- Reads a key. -/
def get (m : MemCounts) (key : String) : Except Fault Int64 :=
  match m.find? key with
  | some v => .ok v
  | none => .error (.wrap .keyNotFound key)

/-- Adds a delta to a key, an absent key counting as zero. -/
def incr (m : MemCounts) (key : String) (delta : Int64) : Except Fault (Int64 × MemCounts) :=
  let current := (m.find? key).getD 0
  if overflows current delta then .error (overflowFault key delta)
  else .ok (current + delta, m.put key (current + delta))

end MemCounts

end Tallykeeper
