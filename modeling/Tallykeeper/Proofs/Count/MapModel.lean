import Mathlib
import Tallykeeper.Proofs.Count.Home

/-!
# Count stores answer as a map

A caller of the count store reads, increments, writes and deletes counts. While the server
answers, every home of the counts behaves as a map of counts seen through its faults'
sentinels: a read answers the held value or `key not found`; an increment adds to the held
value, zero for none, unless the exact sum leaves the 64-bit range, and then it answers an
overflow and changes nothing; a write sets the value and a deletion removes it
(`Holding.run`). This holds in memory and on the server under every value codec, whether the
server increments the decimal text itself or the value is read, checked and written back.

So the homes are interchangeable: over any run of calls the server answers as memory does and
afterwards holds the same count under every key (`server_counts_answer_as_memory`).
-/

namespace Tallykeeper
namespace Service

/-- A call of the count store. -/
inductive CountCall
  | get (key : String)
  | incr (key : String) (delta : Int64)
  | set (key : String) (value : Int64)
  | delete (key : String)
  deriving DecidableEq, Repr

namespace CountCall

/-- What a map of counts answers to a call, faults by their sentinel, and the map after it.
An increment is refused exactly when the exact sum leaves the signed 64-bit range. -/
def onMap (m : String → Option Int64) :
    CountCall → Except (Option Sentinel) (Option Int64) × (String → Option Int64)
  | .get k => ((m k).elim (.error (some .keyNotFound)) fun v => .ok (some v), m)
  | .incr k d =>
    if Int64.minValue.toInt ≤ ((m k).getD 0).toInt + d.toInt ∧
        ((m k).getD 0).toInt + d.toInt ≤ Int64.maxValue.toInt then
      (.ok (some ((m k).getD 0 + d)), Function.update m k (some ((m k).getD 0 + d)))
    else (.error (some .overflow), m)
  | .set k v => (.ok (some v), Function.update m k (some v))
  | .delete k => (.ok none, Function.update m k none)

/-- What a map of counts answers to calls in order, and the map after them. -/
def runOnMap (m : String → Option Int64) :
    List CountCall → List (Except (Option Sentinel) (Option Int64)) × (String → Option Int64)
  | [] => ([], m)
  | c :: rest => ((c.onMap m).1 :: (runOnMap (c.onMap m).2 rest).1, (runOnMap (c.onMap m).2 rest).2)

end CountCall

namespace Stores

/-- Answers a count call: the value read or written, none for a deletion. -/
def countCall (s : Stores) : CountCall → Except Fault (Option Int64) × Stores
  | .get k => ((s.countGet k).1.map some, (s.countGet k).2)
  | .incr k d => ((s.countIncr k d).1.map some, (s.countIncr k d).2)
  | .set k v => ((s.countSet k v).1.map some, (s.countSet k v).2)
  | .delete k => ((s.countDelete k).1.map fun _ => none, (s.countDelete k).2)

/-- Answers count calls in order. -/
def countRun (s : Stores) : List CountCall → List (Except Fault (Option Int64)) × Stores
  | [] => ([], s)
  | c :: rest =>
    ((s.countCall c).1 :: ((s.countCall c).2.countRun rest).1,
      ((s.countCall c).2.countRun rest).2)

/-- Every key of the count store holds what a map of counts gives it. -/
def Holding (s : Stores) (m : String → Option Int64) : Prop :=
  ∀ key, s.holds key (m key)

variable {s s' : Stores} {m : String → Option Int64} {key : String}

theorem countHome_countCall (s : Stores) (c : CountCall) :
    (s.countCall c).2.countHome = s.countHome := by
  cases home : s.countHome with
  | memory =>
      cases c with
      | incr k d =>
          simp only [countCall, countIncr, home]
          split <;> simp [home]
      | get k => simp [countCall, countGet, home]
      | set k v => simp [countCall, countSet, home]
      | delete k => simp [countCall, countDelete, home]
  | server codec =>
      cases c <;> simp [countCall, countGet, countIncr, countSet, countDelete, home, onServer]

/-- A count rewritten at one key holds the map updated there. -/
theorem Rewrites.holding
    {v : Int64}
    (rewrites : Rewrites s s' key v)
    (held : s.Holding m) :
    s'.Holding (Function.update m key (some v)) := by
  intro k
  by_cases same : k = key
  · subst same
    simpa using rewrites.written
  · rw [Function.update_of_ne same]
    exact rewrites.kept k (m k) same (held k)

/-- A deletion answers, keeps the server answering and removes the key from the map. -/
theorem countDelete_of_healthy
    (healthy : s.server.ready = .ok ())
    (held : s.Holding m)
    (key : String) :
    (countDelete key s).1 = .ok () ∧
      (countDelete key s).2.server.ready = s.server.ready ∧
      (countDelete key s).2.Holding (Function.update m key none) := by
  cases home : s.countHome with
  | memory =>
      have erased : countDelete key s = (.ok (), { s with counts := s.counts.erase key }) := by
        simp [countDelete, home]
      rw [erased]
      refine ⟨rfl, rfl, ?_⟩
      intro k
      have heldK := held k
      simp only [holds, home] at heldK ⊢
      by_cases same : k = key
      · simp [same, MemCounts.find?_erase]
      · simp [same, MemCounts.find?_erase, heldK]
  | server c =>
      have removed : countDelete key s =
          (.ok (), { s with server := s.server.remove (serverKey key) }) := by
        simp [countDelete, home, onServer, ServerCounts.delete,
          Redis.Server.del_of_healthy healthy]
      rw [removed]
      refine ⟨rfl, rfl, ?_⟩
      intro k
      have heldK := held k
      simp only [holds, home] at heldK ⊢
      by_cases same : k = key
      · simp [same]
      · have apart : serverKey k ≠ serverKey key := fun equal => same (serverKey_inj equal)
        simp [same, apart, heldK]

/-- One call on stores holding a map answers as the map does, fault for fault by sentinel,
and leaves the stores answering and holding the map after the call. -/
theorem Holding.call
    (healthy : s.server.ready = .ok ())
    (held : s.Holding m)
    (c : CountCall) :
    (s.countCall c).1.mapError Fault.sentinel? = (c.onMap m).1 ∧
      (s.countCall c).2.server.ready = .ok () ∧
      (s.countCall c).2.Holding (c.onMap m).2 := by
  cases c with
  | get k =>
      have read := countGet_of_holds healthy (held k)
      simp only [countCall, CountCall.onMap, read]
      refine ⟨?_, healthy, held⟩
      cases m k <;> rfl
  | incr k d =>
      -- the store's check refuses exactly the sums out of range
      have check := overflows_iff ((m k).getD 0) d
      by_cases inRange : Int64.minValue.toInt ≤ ((m k).getD 0).toInt + d.toInt ∧
          ((m k).getD 0).toInt + d.toInt ≤ Int64.maxValue.toInt
      · have fits : overflows ((m k).getD 0) d = false := by
          rw [← Bool.not_eq_true, check]
          omega
        obtain ⟨answered, rewrites⟩ := countIncr_of_fits healthy (held k) fits
        simp only [countCall, CountCall.onMap, answered, inRange, and_self, if_true]
        exact ⟨rfl, rewrites.ready.trans healthy, rewrites.holding held⟩
      · have wraps : overflows ((m k).getD 0) d = true := by
          rw [check]
          omega
        obtain ⟨f, refused, overflow⟩ := countIncr_of_overflows healthy (held k) wraps
        have sentinel : f.sentinel? = some .overflow := by
          simpa [Fault.is] using overflow
        simp only [countCall, CountCall.onMap, refused, inRange, if_false]
        exact ⟨by rw [← sentinel]; rfl, healthy, held⟩
  | set k v =>
      obtain ⟨answered, rewrites⟩ := countSet_of_healthy healthy k v
      simp only [countCall, CountCall.onMap, answered]
      exact ⟨rfl, rewrites.ready.trans healthy, rewrites.holding held⟩
  | delete k =>
      obtain ⟨answered, ready, deleted⟩ := countDelete_of_healthy healthy held k
      simp only [countCall, CountCall.onMap, answered]
      exact ⟨rfl, ready.trans healthy, deleted⟩

/-- A run of calls on stores holding a map answers as the map does and leaves the stores
holding the map after the run. -/
theorem Holding.run
    (healthy : s.server.ready = .ok ())
    (held : s.Holding m)
    (calls : List CountCall) :
    (s.countRun calls).1.map (Except.mapError Fault.sentinel?) = (CountCall.runOnMap m calls).1 ∧
      (s.countRun calls).2.Holding (CountCall.runOnMap m calls).2 := by
  -- induction on the calls, each step carried by `Holding.call`
  induction calls generalizing s m with
  | nil => exact ⟨rfl, held⟩
  | cons c rest ih =>
      obtain ⟨answer, healthy', held'⟩ := Holding.call healthy held c
      obtain ⟨answers, final⟩ := ih healthy' held'
      refine ⟨?_, final⟩
      simp only [countRun, CountCall.runOnMap, List.map_cons, answer, answers]

theorem countHome_countRun (s : Stores) (calls : List CountCall) :
    (s.countRun calls).2.countHome = s.countHome := by
  induction calls generalizing s with
  | nil => rfl
  | cons c rest ih =>
      simp only [countRun]
      rw [ih, countHome_countCall]

end Stores

/-- Under every value codec, a server that answers and holds what a memory count store holds
answers every run of reads, increments, writes and deletions as the map of counts does, and so
as the memory store does, fault for fault by sentinel; afterwards both hold the same count
under every key. -/
theorem server_counts_answer_as_memory
    (c : ValueCodec)
    (m : MemCounts)
    (srv : Redis.Server)
    (healthy : srv.ready = .ok ())
    (mirrored : ∀ key, srv.find? (serverKey key) = (m.find? key).map fun v => .bytes (c.encode v))
    (calls : List CountCall) :
    (({ countHome := .server c, server := srv } : Stores).countRun calls).1.map
        (Except.mapError Fault.sentinel?) = (CountCall.runOnMap m.find? calls).1 ∧
    (({ counts := m } : Stores).countRun calls).1.map (Except.mapError Fault.sentinel?) =
        (CountCall.runOnMap m.find? calls).1 ∧
    ∀ key, (({ countHome := .server c, server := srv } : Stores).countRun calls).2.server.find?
        (serverKey key) =
      ((({ counts := m } : Stores).countRun calls).2.counts.find? key).map
        fun v => .bytes (c.encode v) := by
  obtain ⟨memoryAnswers, memoryHeld⟩ :=
    Stores.Holding.run (s := { counts := m }) rfl (fun _ => rfl) calls
  obtain ⟨serverAnswers, serverHeld⟩ :=
    Stores.Holding.run (s := { countHome := .server c, server := srv }) healthy mirrored calls
  have memoryHome := Stores.countHome_countRun { counts := m } calls
  have serverHome := Stores.countHome_countRun { countHome := .server c, server := srv } calls
  refine ⟨serverAnswers, memoryAnswers, fun key => ?_⟩
  -- both homes hold the map after the run, each in its own form
  have found := memoryHeld key
  have written := serverHeld key
  simp only [Stores.holds, memoryHome] at found
  simp only [Stores.holds, serverHome] at written
  rw [found]
  exact written

/-- Binary counts on an empty server through an overflow at the top of the range, a write of
a two-byte value and a deletion. -/
theorem binary_counts_answer_as_memory :
    let calls : List CountCall := [.incr "a" Int64.maxValue, .incr "a" 1, .get "a",
      .set "b" (-129), .get "b", .delete "a", .get "a"]
    ({} : Redis.Server).ready = .ok () ∧
    (∀ key, ({} : Redis.Server).find? (serverKey key) =
      ((({} : MemCounts)).find? key).map fun v => .bytes (ValueCodec.binary.encode v)) ∧
    (({ countHome := .server .binary, server := {} } : Stores).countRun calls).1.map
        (Except.mapError Fault.sentinel?) = (CountCall.runOnMap ({} : MemCounts).find? calls).1 ∧
    (({ counts := {} } : Stores).countRun calls).1.map (Except.mapError Fault.sentinel?) =
        (CountCall.runOnMap ({} : MemCounts).find? calls).1 ∧
    ∀ key, (({ countHome := .server .binary, server := {} } : Stores).countRun
        calls).2.server.find? (serverKey key) =
      ((({ counts := {} } : Stores).countRun calls).2.counts.find? key).map
        fun v => .bytes (ValueCodec.binary.encode v) :=
  have mirrored : ∀ key, ({} : Redis.Server).find? (serverKey key) =
      ((({} : MemCounts)).find? key).map fun v => .bytes (ValueCodec.binary.encode v) :=
    fun _ => rfl
  ⟨rfl, mirrored, server_counts_answer_as_memory .binary {} {} rfl mirrored _⟩

end Service
end Tallykeeper
