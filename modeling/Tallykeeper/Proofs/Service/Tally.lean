import Mathlib
import Tallykeeper.Service.Session
import Tallykeeper.Proofs.Catalog.Store
import Tallykeeper.Proofs.Ledger.Store

/-!
# The counter service as a map

Seen by its callers, the counter service is a list of registered entries, the clock
reading its writes are stamped with, and a map from (catalog id, user id) to a 64-bit
value. `Tally` is that view, and its operations say what each call answers, with faults
given by their sentinel:

* registering a name answers the entry that holds it, or appends a valid entry under the
  next id, stamped with the clock reading, or refuses an invalid one as an invalid entity;
* updating an entry needs a non-empty patch and an existing id (else not found), a valid
  patched entry and a name no other entry holds (else invalid entity), and stamps the
  patched entry with the clock reading;
* an increment first replaces a delta that is not positive or exceeds the 32-bit range by
  one; it answers not found for an unregistered name, and invalid entity, changing
  nothing, when the value (zero when absent) plus the delta leaves the 64-bit range;
  otherwise it stores and answers the sum;
* a reset stores and answers zero;
* a read answers the stored value, or not found for an unregistered name or a pair never
  written;
* an expiry drops a pair of a local cache, as a time to live or an eviction does, and
  changes nothing the callers see.

An increment or a reset that succeeds publishes an event: its pair with the value the pair
holds after the call (`Tally.event`). The map then changes exactly as replaying the published
events over it does, so a ledger that replays them holds the map.
-/

namespace Tallykeeper
namespace Service

open Catalog
open Text (ByteString)

/-- A call of the counter service. -/
inductive Call
  | register (name description : ByteString) (defaultValue : Int64)
  | update (id : Int64) (patch : Patch)
  | increment (name : ByteString) (userId delta : Int64)
  | reset (name : ByteString) (userId : Int64)
  | get (name : ByteString) (userId : Int64)
  | expire (cache : CacheName) (key : String)
  deriving Repr

/-- Whether a call changes a count: increments and resets do. -/
def Call.mutates : Call → Bool
  | .increment .. | .reset .. => true
  | _ => false

/-- The calls that change a count are the increments and the resets. -/
theorem Call.mutates_cases {c : Call} (mutating : c.mutates = true) :
    (∃ name userId delta, c = .increment name userId delta) ∨
      ∃ name userId, c = .reset name userId := by
  cases c with
  | increment name userId delta => exact .inl ⟨name, userId, delta, rfl⟩
  | reset name userId => exact .inr ⟨name, userId, rfl⟩
  | register | update | get | expire => simp [Call.mutates] at mutating

/-- The session step that makes a call. -/
def Call.step : Call → Step
  | .register name description defaultValue => .register name description defaultValue
  | .update id patch => .catalogUpdate id patch
  | .increment name userId delta => .counterIncrement name userId delta
  | .reset name userId => .counterReset name userId
  | .get name userId => .counterGet name userId
  | .expire cache key => .invalidate cache key

/-- The registered entries, the last id handed out, the clock reading writes are stamped
with, and a value per (catalog id, user id). -/
structure Tally where
  entries : List Entry
  lastId : Int64
  clock : Int64
  counts : Int64 × Int64 → Option Int64

namespace Tally

/-- Nothing registered and nothing counted, with the clock at the epoch. -/
def empty : Tally :=
  { entries := [], lastId := 0, clock := 0, counts := fun _ => none }

/-- The id registered for a name. -/
def idOf (t : Tally) (name : ByteString) : Option Int64 :=
  (named? t.entries name).map (·.id)

/-- An entry as registered: under the next id, stamped with the clock reading. -/
def made (t : Tally) (e : Entry) : Entry :=
  { e with id := t.lastId + 1, createdAt := t.clock, updatedAt := t.clock }

/-- Appends an entry under the next id. -/
def enroll (t : Tally) (e : Entry) : Tally :=
  { t with entries := t.entries ++ [t.made e], lastId := t.lastId + 1 }

/-- Creates an entry when it is valid and its name is free. -/
def create (t : Tally) (e : Entry) : Tally :=
  if e.flaw?.isNone ∧ named? t.entries e.name = none then t.enroll e else t

/-- The entries created from a list, in order. -/
def seeded (es : List Entry) : Tally :=
  es.foldl create empty

/-- The delta an increment applies. -/
def effectiveDelta (delta : Int64) : Int64 :=
  if delta ≤ 0 ∨ 2147483647 < delta then 1 else delta

/-- The map with one pair set. -/
def setCount (t : Tally) (id userId v : Int64) : Tally :=
  { t with counts := Function.update t.counts (id, userId) (some v) }

def register (name description : ByteString) (defaultValue : Int64) (t : Tally) :
    Except Sentinel Entry × Tally :=
  match named? t.entries name with
  | some e => (.ok e, t)
  | none =>
    let fresh : Entry := { name, description, defaultValue }
    match fresh.flaw? with
    | some _ => (.error .invalidEntity, t)
    | none => (.ok (t.made fresh), t.enroll fresh)

/-- The entry of an id with a patch applied, stamped with the clock reading. -/
def patched (t : Tally) (p : Patch) (current : Entry) : Entry :=
  { p.apply current with updatedAt := t.clock }

def update (id : Int64) (p : Patch) (t : Tally) : Except Sentinel Entry × Tally :=
  if p.isEmpty then (.error .notFound, t)
  else
    match withId? t.entries id with
    | none => (.error .notFound, t)
    | some current =>
      if (p.apply current).flaw?.isSome ∨
          ∃ o ∈ t.entries, o.id ≠ id ∧ o.name = (p.apply current).name then
        (.error .invalidEntity, t)
      else
        (.ok (t.patched p current), { t with entries := rewrite t.entries id (t.patched p current) })

def increment (name : ByteString) (userId delta : Int64) (t : Tally) :
    Except Sentinel Int64 × Tally :=
  match t.idOf name with
  | none => (.error .notFound, t)
  | some id =>
    let current := (t.counts (id, userId)).getD 0
    let d := effectiveDelta delta
    let sum := current.toInt + d.toInt
    if Int64.minValue.toInt ≤ sum ∧ sum ≤ Int64.maxValue.toInt then
      (.ok (current + d), t.setCount id userId (current + d))
    else (.error .invalidEntity, t)

def reset (name : ByteString) (userId : Int64) (t : Tally) : Except Sentinel Int64 × Tally :=
  match t.idOf name with
  | none => (.error .notFound, t)
  | some id => (.ok 0, t.setCount id userId 0)

def get (name : ByteString) (userId : Int64) (t : Tally) : Except Sentinel Int64 :=
  match t.idOf name with
  | none => .error .notFound
  | some id =>
    match t.counts (id, userId) with
    | none => .error .notFound
    | some v => .ok v

/-- The answer of a call and the map after it. -/
def step (t : Tally) : Call → Except Sentinel Reply × Tally
  | .register name description defaultValue =>
    let (r, t') := t.register name description defaultValue
    (r.map .entry, t')
  | .update id p =>
    let (r, t') := t.update id p
    (r.map .entry, t')
  | .increment name userId delta =>
    let (r, t') := t.increment name userId delta
    (r.map .int, t')
  | .reset name userId =>
    let (r, t') := t.reset name userId
    (r.map .int, t')
  | .get name userId => ((t.get name userId).map .int, t)
  | .expire _ _ => (.ok .unit, t)

/-- The answers of calls made one after another. -/
def answers : List Call → Tally → List (Except Sentinel Reply)
  | [], _ => []
  | c :: rest, t => (t.step c).1 :: answers rest (t.step c).2

/-! ## The id sequence -/

@[simp] theorem enroll_lastId (t : Tally) (e : Entry) : (t.enroll e).lastId = t.lastId + 1 := rfl

@[simp] theorem setCount_lastId (t : Tally) (id userId v : Int64) :
    (t.setCount id userId v).lastId = t.lastId := rfl

@[simp] theorem setCount_entries (t : Tally) (id userId v : Int64) :
    (t.setCount id userId v).entries = t.entries := rfl

/-- A call hands out at most one id. -/
theorem step_lastId (t : Tally) (c : Call) :
    (t.step c).2.lastId = t.lastId ∨ (t.step c).2.lastId = t.lastId + 1 := by
  cases c with
  | register name description defaultValue =>
      simp only [step, register]
      split
      · exact .inl rfl
      · split
        · exact .inl rfl
        · exact .inr rfl
  | update id p =>
      simp only [step, update]
      split
      · exact .inl rfl
      · split
        · exact .inl rfl
        · split
          · exact .inl rfl
          · exact .inl rfl
  | increment name userId delta =>
      simp only [step, increment]
      split
      · exact .inl rfl
      · split
        · exact .inl rfl
        · exact .inl rfl
  | reset name userId =>
      simp only [step, reset]
      split
      · exact .inl rfl
      · exact .inl rfl
  | get name userId => exact .inl rfl
  | expire cache key => exact .inl rfl

/-! ## Published events -/

/-- The pair an increment or a reset addresses, once its name is registered. -/
def pair? (t : Tally) : Call → Option (Int64 × Int64)
  | .increment name userId _ | .reset name userId => (t.idOf name).map (·, userId)
  | _ => none

/-- The event a call publishes: an increment or a reset that succeeds publishes its pair with
the value the pair holds after it. -/
def event (t : Tally) (c : Call) : Option Event :=
  match t.pair? c, (t.step c).1 with
  | some (id, userId), .ok _ =>
    ((t.step c).2.counts (id, userId)).map fun value => { counterId := id, userId, value }
  | _, _ => none

/-- The events of calls made one after another. -/
def published : List Call → Tally → List Event
  | [], _ => []
  | c :: rest, t => (t.event c).toList ++ published rest (t.step c).2

/-- The map after calls made one after another. -/
def after : List Call → Tally → Tally
  | [], t => t
  | c :: rest, t => after rest (t.step c).2

variable {t : Tally}

theorem step_increment (name : ByteString) (userId delta : Int64) :
    t.step (.increment name userId delta) =
      ((t.increment name userId delta).1.map .int, (t.increment name userId delta).2) :=
  rfl

theorem step_reset (name : ByteString) (userId : Int64) :
    t.step (.reset name userId) = ((t.reset name userId).1.map .int, (t.reset name userId).2) :=
  rfl

/-! What an increment and a reset do, branch by branch: the answer, the map after it and the
event, so that callers never unfold `increment`, `reset` or `event`. -/

section Branches

variable {name : ByteString}

theorem increment_of_unregistered (userId delta : Int64) (found : t.idOf name = none) :
    t.increment name userId delta = (.error .notFound, t) ∧
      t.event (.increment name userId delta) = none := by
  have modelled : t.increment name userId delta = (.error .notFound, t) := by
    simp [increment, found]
  exact ⟨modelled, by simp [event, step_increment, modelled, Except.map]⟩

/-- A registered pair whose value (zero when absent) plus the delta stays in range holds,
answers and publishes the sum. -/
theorem increment_of_fits
    {userId delta id current : Int64}
    (found : t.idOf name = some id)
    (held : (t.counts (id, userId)).getD 0 = current)
    (fits : Representable (current.toInt + (effectiveDelta delta).toInt)) :
    t.increment name userId delta =
        (.ok (current + effectiveDelta delta),
          t.setCount id userId (current + effectiveDelta delta)) ∧
      t.event (.increment name userId delta) =
        some { counterId := id, userId, value := current + effectiveDelta delta } := by
  have modelled : t.increment name userId delta =
      (.ok (current + effectiveDelta delta),
        t.setCount id userId (current + effectiveDelta delta)) := by
    subst held
    simp only [increment, found]
    exact if_pos fits
  exact ⟨modelled, by simp [event, pair?, found, step_increment, modelled, setCount, Except.map]⟩

/-- A sum out of range is refused as an invalid entity and changes nothing. -/
theorem increment_of_outside
    {userId delta id current : Int64}
    (found : t.idOf name = some id)
    (held : (t.counts (id, userId)).getD 0 = current)
    (outside : ¬ Representable (current.toInt + (effectiveDelta delta).toInt)) :
    t.increment name userId delta = (.error .invalidEntity, t) ∧
      t.event (.increment name userId delta) = none := by
  have modelled : t.increment name userId delta = (.error .invalidEntity, t) := by
    subst held
    simp only [increment, found]
    exact if_neg outside
  exact ⟨modelled, by simp [event, step_increment, modelled, Except.map]⟩

theorem reset_of_unregistered (userId : Int64) (found : t.idOf name = none) :
    t.reset name userId = (.error .notFound, t) ∧ t.event (.reset name userId) = none := by
  have modelled : t.reset name userId = (.error .notFound, t) := by
    simp [reset, found]
  exact ⟨modelled, by simp [event, step_reset, modelled, Except.map]⟩

theorem reset_of_registered {id : Int64} (userId : Int64) (found : t.idOf name = some id) :
    t.reset name userId = (.ok 0, t.setCount id userId 0) ∧
      t.event (.reset name userId) = some { counterId := id, userId } := by
  have modelled : t.reset name userId = (.ok 0, t.setCount id userId 0) := by
    simp [reset, found]
  exact ⟨modelled, by simp [event, pair?, found, step_reset, modelled, setCount, Except.map]⟩

end Branches

/-- An increment or a reset either fails and changes nothing, or sets its pair to the value it
answers and publishes that value. -/
theorem step_of_mutates {c : Call} (mutating : c.mutates = true) :
    ((t.step c).1.isOk = false ∧ (t.step c).2 = t ∧ t.event c = none) ∨
      ∃ id userId v, t.pair? c = some (id, userId) ∧ (t.step c).1 = .ok (.int v) ∧
        (t.step c).2 = t.setCount id userId v ∧
        t.event c = some { counterId := id, userId, value := v } := by
  rcases Call.mutates_cases mutating with ⟨name, userId, delta, rfl⟩ | ⟨name, userId, rfl⟩
  · rw [step_increment]
    cases found : t.idOf name with
    | none =>
        obtain ⟨modelled, published⟩ := increment_of_unregistered userId delta found
        rw [modelled]
        exact .inl ⟨rfl, rfl, published⟩
    | some id =>
        have paired : t.pair? (.increment name userId delta) = some (id, userId) := by
          simp [pair?, found]
        by_cases fits : Representable
            (((t.counts (id, userId)).getD 0).toInt + (effectiveDelta delta).toInt)
        · obtain ⟨modelled, published⟩ := increment_of_fits found rfl fits
          rw [modelled]
          exact .inr ⟨id, userId, _, paired, rfl, rfl, published⟩
        · obtain ⟨modelled, published⟩ := increment_of_outside found rfl fits
          rw [modelled]
          exact .inl ⟨rfl, rfl, published⟩
  · rw [step_reset]
    cases found : t.idOf name with
    | none =>
        obtain ⟨modelled, published⟩ := reset_of_unregistered userId found
        rw [modelled]
        exact .inl ⟨rfl, rfl, published⟩
    | some id =>
        obtain ⟨modelled, published⟩ := reset_of_registered userId found
        rw [modelled]
        exact .inr ⟨id, userId, 0, by simp [pair?, found], rfl, rfl, published⟩

/-- An increment or a reset publishes an event exactly when it succeeds. -/
theorem event_isSome {c : Call} (mutating : c.mutates = true) :
    (t.event c).isSome = (t.step c).1.isOk := by
  rcases step_of_mutates mutating with ⟨failed, -, none⟩ | ⟨id, userId, v, -, answered, -, some⟩
  · rw [failed, none]
    rfl
  · rw [answered, some]
    rfl

theorem counts_register (name description : ByteString) (defaultValue : Int64) :
    (t.register name description defaultValue).2.counts = t.counts := by
  unfold register
  split
  · rfl
  · dsimp only
    split <;> rfl

theorem counts_update (id : Int64) (p : Patch) : (t.update id p).2.counts = t.counts := by
  unfold update
  split
  · rfl
  · split
    · rfl
    · split <;> rfl

/-- A call changes the map as replaying its event does. -/
theorem counts_step (c : Call) :
    (t.step c).2.counts = Ledger.replay (t.event c).toList t.counts := by
  cases mutating : c.mutates with
  | true =>
      rcases step_of_mutates mutating with ⟨-, kept, none⟩ | ⟨id, userId, v, -, -, set, some⟩
      · rw [kept, none]
        rfl
      · rw [set, some]
        rfl
  | false =>
      -- the other calls change no count and publish nothing
      cases c with
      | register name description defaultValue =>
          simp [step, event, pair?, counts_register, Ledger.replay]
      | update id p => simp [step, event, pair?, counts_update, Ledger.replay]
      | get name userId => simp [step, event, pair?, Ledger.replay]
      | expire cache key => simp [step, event, pair?, Ledger.replay]
      | increment => simp [Call.mutates] at mutating
      | reset => simp [Call.mutates] at mutating

theorem counts_create (e : Entry) : (t.create e).counts = t.counts := by
  unfold create
  split <;> rfl

/-- Creating the seeds counts nothing. -/
theorem counts_seeded (es : List Entry) : (seeded es).counts = fun _ => none := by
  have created : ∀ t : Tally, (es.foldl create t).counts = t.counts := by
    induction es with
    | nil => exact fun _ => rfl
    | cons e rest ih =>
        intro t
        rw [List.foldl_cons, ih, counts_create]
  exact created empty

/-- After calls, the map is the one before with their published events replayed over it. -/
theorem counts_after (calls : List Call) (t : Tally) :
    (after calls t).counts = Ledger.replay (published calls t) t.counts := by
  induction calls generalizing t with
  | nil => rfl
  | cons c rest ih =>
      rw [after, published, Ledger.replay_append, ← counts_step, ih]

theorem length_published (calls : List Call) (t : Tally) :
    (published calls t).length ≤ calls.length := by
  induction calls generalizing t with
  | nil => simp [published]
  | cons c rest ih =>
      have once : (t.event c).toList.length ≤ 1 := by
        cases t.event c <;> simp
      simp only [published, List.length_append, List.length_cons]
      have := ih (t.step c).2
      omega

end Tally

end Service
end Tallykeeper
