import Tallykeeper.Cache.Lru
import Tallykeeper.Fault

/-!
# Tiered caches

A tiered cache keeps a local least-recently-used tier in front of a delegate store. A
read is served from the tier when it holds the key and loaded from the delegate
otherwise; only a successful load is stored, so absence and failures are never cached.
Writes and deletions go to the delegate first and reach the tier only when the delegate
succeeded. An invalidation drops the local pair alone.

The delegate acts on a state of its own, so the cache and its delegate are advanced
together by pure functions. The cache counts its local hits, its misses, and the loads it
asked of the delegate.
-/

namespace Tallykeeper
namespace Cache

/-- A store the tier reads and writes through, acting on a state `σ`. -/
structure Delegate (σ K V : Type) where
  get : K → σ → Except Fault V × σ
  update : K → V → σ → Except Fault Unit × σ
  delete : K → σ → Except Fault Unit × σ

/-- The running totals of a tiered cache, with the number of pairs its tier holds. -/
structure Stats where
  size : Nat
  hits : Nat
  misses : Nat
  loads : Nat
  evictions : Nat
  deriving DecidableEq, Repr

/-- The capacity of a tier when none is asked for. -/
def defaultCapacity : Nat := 100000

/-- A tier's bound from a requested capacity: zero picks the default, a negative
number leaves the tier unbounded. -/
def boundOf (capacity : Int) : Option Nat :=
  if capacity = 0 then some defaultCapacity
  else if capacity < 0 then none
  else some capacity.toNat

/-- A local tier with its running totals. -/
structure Tiered (K V : Type) where
  tier : Lru K V
  hits : Nat := 0
  misses : Nat := 0
  loads : Nat := 0
  deriving Repr

namespace Tiered

variable {σ K V : Type} [DecidableEq K]

/-- An empty cache with a requested capacity. -/
def create (capacity : Int) : Tiered K V :=
  { tier := Lru.empty (boundOf capacity) }

/-- The running totals. -/
def stats (t : Tiered K V) : Stats :=
  { size := t.tier.size, hits := t.hits, misses := t.misses, loads := t.loads,
    evictions := t.tier.evictions }

/-- Puts pairs into the tier in order, before the cache is used. -/
def warm (t : Tiered K V) (pairs : List (K × V)) : Tiered K V :=
  { t with tier := pairs.foldl (fun l p => l.add p.1 p.2) t.tier }

/-- Reads a key: a local hit, or a load from the delegate stored only on success. -/
def get (d : Delegate σ K V) (k : K) (t : Tiered K V) (s : σ) :
    Except Fault V × Tiered K V × σ :=
  match t.tier.get? k with
  | some (v, tier') => (.ok v, { t with tier := tier', hits := t.hits + 1 }, s)
  | none =>
    let t1 := { t with misses := t.misses + 1, loads := t.loads + 1 }
    match d.get k s with
    | (.ok v, s') => (.ok v, { t1 with tier := t1.tier.add k v }, s')
    | (.error e, s') => (.error e, t1, s')

/-- Writes a value through the delegate, then into the tier. -/
def update (d : Delegate σ K V) (k : K) (v : V) (t : Tiered K V) (s : σ) :
    Except Fault Unit × Tiered K V × σ :=
  match d.update k v s with
  | (.ok (), s') => (.ok (), { t with tier := t.tier.add k v }, s')
  | (.error e, s') => (.error e, t, s')

/-- Drops the local pair of a key. -/
def invalidate (k : K) (t : Tiered K V) : Tiered K V :=
  { t with tier := t.tier.remove k }

/-- Deletes a key in the delegate, then drops its local pair. -/
def delete (d : Delegate σ K V) (k : K) (t : Tiered K V) (s : σ) :
    Except Fault Unit × Tiered K V × σ :=
  match d.delete k s with
  | (.ok (), s') => (.ok (), t.invalidate k, s')
  | (.error e, s') => (.error e, t, s')

end Tiered

end Cache
end Tallykeeper
