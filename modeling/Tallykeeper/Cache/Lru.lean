/-!
# Least-recently-used tiers

A local tier holds key-value pairs in order of use, the most recent first, bounded by a
capacity or unbounded. Reading a key or writing an existing one moves it to the front;
writing a new key puts it in front and, when that exceeds the capacity, evicts the
oldest pair. Removing a present key counts as an eviction too, so `evictions` counts every
pair that left the tier.
-/

namespace Tallykeeper
namespace Cache

/-- A bounded recency list of key-value pairs, most recent first. -/
structure Lru (K V : Type) where
  capacity : Option Nat := none
  entries : List (K × V) := []
  evictions : Nat := 0
  deriving Repr

namespace Lru

variable {K V : Type} [DecidableEq K]

/-- An empty tier with a capacity; `none` means unbounded. -/
def empty (capacity : Option Nat) : Lru K V :=
  { capacity := capacity }

/-- The number of pairs held. -/
def size (t : Lru K V) : Nat :=
  t.entries.length

/-- The pairs without the one for `k`. -/
def without (k : K) (es : List (K × V)) : List (K × V) :=
  es.filter fun e => e.1 ≠ k

/-- The value held for a key, without touching the order. -/
def peek? (t : Lru K V) (k : K) : Option V :=
  (t.entries.find? fun e => e.1 = k).map Prod.snd

/-- Reads a key: its value, and the tier with the key moved to the front. -/
def get? (t : Lru K V) (k : K) : Option (V × Lru K V) :=
  match t.peek? k with
  | some v => some (v, { t with entries := (k, v) :: without k t.entries })
  | none => none

/-- Drops the oldest pair while the tier holds more than its capacity. -/
def trim (t : Lru K V) : Lru K V :=
  match t.capacity with
  | some c =>
    if t.entries.length > c then
      { t with entries := t.entries.dropLast, evictions := t.evictions + 1 }
    else t
  | none => t

/-- Writes a pair at the front: an existing key is updated in place of its old pair,
a new key may evict the oldest pair. -/
def add (t : Lru K V) (k : K) (v : V) : Lru K V :=
  match t.peek? k with
  | some _ => { t with entries := (k, v) :: without k t.entries }
  | none => trim { t with entries := (k, v) :: t.entries }

/-- Removes a key; removing a present key counts as an eviction. -/
def remove (t : Lru K V) (k : K) : Lru K V :=
  match t.peek? k with
  | some _ => { t with entries := without k t.entries, evictions := t.evictions + 1 }
  | none => t

end Lru

end Cache
end Tallykeeper
