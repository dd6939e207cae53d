import Mathlib
import Tallykeeper.Proofs.Service.Feeding
import Tallykeeper.Proofs.Ledger.Store
import Tallykeeper.Proofs.Change.Codec

/-!
# The acknowledgement law of the durable writer

The writer drains a change source that offers a log of deliveries. After every read it keeps
a law (`Law`): what it has acknowledged is the first `k` entries of the log, and the upserts
that went through are the events among those entries, each once and in log order. An entry
that could not be read is acknowledged with no upsert; the first upsert that fails ends its
batch, and the rewind after it makes the rest of the batch come again. Meanwhile the ledger
holds the events of the acknowledged entries replayed over what it held before, so once the
whole log is acknowledged each (counter, user) pair holds the value of its last event.

The law holds whatever upserts, reads and setups fail. With no upsert failing, every read
moves the writer on (`remaining` falls): a batch is acknowledged whole, the end of a replay
switches to new entries, and an arranged read failure is used up. A drain with more reads
than that acknowledges the whole log.
-/

namespace Tallykeeper
namespace Service

open Change

/-- The events of a log in order, without the entries that could not be read. -/
def decoded (xs : List Delivery) : List Event :=
  xs.filterMap fun d => d.event.toOption

theorem decoded_append (xs ys : List Delivery) : decoded (xs ++ ys) = decoded xs ++ decoded ys :=
  List.filterMap_append

theorem decoded_cons_error {d : Delivery} {f : Fault} (read : d.event = .error f)
    (rest : List Delivery) : decoded (d :: rest) = decoded rest := by
  simp [decoded, read, Except.toOption]

theorem decoded_cons_ok {d : Delivery} {e : Event} (read : d.event = .ok e) (rest : List Delivery) :
    decoded (d :: rest) = e :: decoded rest := by
  simp [decoded, read, Except.toOption]

/-- The upsert of an event the writer tried, and whether it went through. -/
def Attempt.of (e : Event) (ok : Bool) : Attempt :=
  { counterId := e.counterId, userId := e.userId, value := e.value, ok }

/-- The event an upsert carried. -/
def Attempt.event (a : Attempt) : Event :=
  { counterId := a.counterId, userId := a.userId, value := a.value }

@[simp] theorem Attempt.event_of (e : Event) (ok : Bool) : (Attempt.of e ok).event = e := rfl

@[simp] theorem Attempt.ok_of (e : Event) (ok : Bool) : (Attempt.of e ok).ok = ok := rfl

/-- The events of the upserts that went through, in order. -/
def applied (tried : List Attempt) : List Event :=
  (tried.filter (·.ok)).map Attempt.event

theorem applied_append (a b : List Attempt) : applied (a ++ b) = applied a ++ applied b := by
  simp [applied]

@[simp] theorem applied_went (e : Event) (tried : List Attempt) :
    applied (Attempt.of e true :: tried) = e :: applied tried := by
  simp [applied, List.filter_cons]

@[simp] theorem applied_refused (e : Event) : applied [Attempt.of e false] = [] := by
  simp [applied]

/-- The law of the writer after the first `k` entries of the log `xs`: it acknowledged exactly
those entries, in order; its upserts that went through are their events, in order; and every
upsert it tried carried an event of the log. -/
structure Law (xs : List Delivery) (k : Nat) (r : Report) : Prop where
  within : k ≤ xs.length
  acks : r.acks = (xs.take k).map (·.ackId)
  applied : applied r.attempts = decoded (xs.take k)
  fromLog : ∀ a ∈ r.attempts, ∃ d ∈ xs, d.event = .ok a.event

theorem Law.empty (xs : List Delivery) : Law xs 0 {} :=
  ⟨Nat.zero_le _, rfl, rfl, by simp⟩

namespace World

variable {w w' w1 : World} {xs ds : List Delivery} {k m : Nat} {e : Event}
  {base : Int64 × Int64 → Option Int64}

/-- No arranged upsert outcome is a failure and the ledger's database is open. -/
structure Reliable (w : World) : Prop where
  online : w.stores.backend.closed = false
  unfailing : ∀ p ∈ w.writerFaults.upserts, true ∉ p.2

theorem Reliable.of_ledgerKept (reliable : w.Reliable) (kept : LedgerKept w w') : w'.Reliable :=
  ⟨by rw [kept.beside.backend]; exact reliable.online,
    by rw [kept.upserts]; exact reliable.unfailing⟩

theorem takeUpsertFault_consumes (key : Int64 × Int64) (fs : WriterFaults) :
    (takeUpsertFault key fs).2.consumes = fs.consumes := by
  unfold takeUpsertFault
  split <;> rfl

/-- Patterns with no failure in them let the upsert through and are left with none. -/
theorem takeUpsertFault_of_unfailing
    {fs : WriterFaults}
    (unfailing : ∀ p ∈ fs.upserts, true ∉ p.2)
    (key : Int64 × Int64) :
    (takeUpsertFault key fs).1 = false ∧ ∀ p ∈ (takeUpsertFault key fs).2.upserts, true ∉ p.2 := by
  unfold takeUpsertFault
  split
  · rename_i fails rest found
    obtain ⟨front, back, split, -⟩ := List.lookup_eq_some_iff.mp found
    have pattern := unfailing (key, fails :: rest) (by rw [split]; simp)
    simp only [List.mem_cons, not_or] at pattern
    refine ⟨by simpa [eq_comm] using pattern.1, ?_⟩
    intro p member
    rcases List.mem_cons.mp member with rfl | kept
    · exact pattern.2
    · exact unfailing p (List.mem_filter.mp kept).1
  · exact ⟨rfl, unfailing⟩

/-! ## One upsert -/

/-- An upsert touches the ledger and the arranged upsert failures alone. -/
theorem upsertEvent_sourceKept (e : Event) (w : World) : SourceKept w (upsertEvent e w).2 := by
  have same := takeUpsertFault_consumes (e.counterId, e.userId) w.writerFaults
  unfold upsertEvent
  split
  · rename_i fs taken
    rw [taken] at same
    exact ⟨rfl, rfl, rfl, same, Beside.of_stores rfl rfl⟩
  · rename_i fs taken
    rw [taken] at same
    exact ⟨rfl, rfl, rfl, same, ⟨rfl, rfl, rfl, rfl, rfl, rfl, rfl, fun _ _ => rfl⟩⟩

/-- An upsert that goes through sets its pair in the ledger, taking at most one id; one that
fails changes no row and takes none. -/
theorem upsertEvent_ledger
    (numbered : w.stores.ledger.Numbered)
    (room : w.stores.ledger.lastId.toInt < Int64.maxValue.toInt) :
    (upsertEvent e w).2.stores.ledger.Numbered ∧
      (upsertEvent e w).2.stores.ledger.lastId.toInt ≤
        w.stores.ledger.lastId.toInt + (if (upsertEvent e w).1.isOk then 1 else 0) ∧
      (upsertEvent e w).2.stores.ledger.view =
        if (upsertEvent e w).1.isOk then
          Function.update w.stores.ledger.view (e.counterId, e.userId) (some e.value)
        else w.stores.ledger.view := by
  unfold upsertEvent
  cases taken : takeUpsertFault (e.counterId, e.userId) w.writerFaults with
  | mk hit fs =>
      cases hit with
      | true =>
          -- an arranged failure meets the upsert before the ledger
          simp [Except.isOk, Except.toBool, numbered]
      | false =>
          obtain ⟨numbered', bound, -, view⟩ := @Ledger.Store.upsert_spec w.stores.ledger
            w.stores.backend e.counterId e.userId e.value numbered room
          have sameOk (r : Except Fault Ledger.Row) : (r.map fun _ => ()).isOk = r.isOk := by
            cases r <;> rfl
          simp only [onStores, Stores.ledgerCall, sameOk]
          exact ⟨numbered', bound, view⟩

/-- With no failure arranged and the database open, an upsert goes through. -/
theorem upsertEvent_reliable (reliable : w.Reliable) :
    (upsertEvent e w).1 = .ok () ∧ (upsertEvent e w).2.Reliable := by
  have ok := @Ledger.Store.upsert_isOk w.stores.ledger w.stores.backend e.counterId e.userId e.value
    reliable.online
  have through := takeUpsertFault_of_unfailing reliable.unfailing (e.counterId, e.userId)
  unfold upsertEvent
  cases taken : takeUpsertFault (e.counterId, e.userId) w.writerFaults with
  | mk hit fs =>
      obtain ⟨passes, unfailing⟩ := taken ▸ through
      subst passes
      simp only [onStores, Stores.ledgerCall]
      cases upserted :
          Ledger.Store.upsert w.stores.backend e.counterId e.userId e.value w.stores.ledger with
      | mk r s' =>
          rw [upserted] at ok
          cases r with
          | error f => simp [Except.isOk, Except.toBool] at ok
          | ok row => exact ⟨rfl, ⟨reliable.online, unfailing⟩⟩

/-! ## One batch -/

/-- How a batch starts: an entry that could not be read is acknowledged, an upsert that fails
ends the batch, and one that goes through is acknowledged before the rest. -/
theorem applyBatch_cons (d : Delivery) (rest : List Delivery) (w : World) :
    (∃ f, d.event = .error f ∧ applyBatch (d :: rest) w =
      (d.ackId :: (applyBatch rest w).1, (applyBatch rest w).2.1, (applyBatch rest w).2.2.1,
        (applyBatch rest w).2.2.2)) ∨
    (∃ e f w', d.event = .ok e ∧ upsertEvent e w = (.error f, w') ∧
      applyBatch (d :: rest) w = ([], [Attempt.of e false], false, w')) ∨
    (∃ e w', d.event = .ok e ∧ upsertEvent e w = (.ok (), w') ∧
      applyBatch (d :: rest) w =
        (d.ackId :: (applyBatch rest w').1, Attempt.of e true :: (applyBatch rest w').2.1,
          (applyBatch rest w').2.2.1, (applyBatch rest w').2.2.2)) := by
  cases read : d.event with
  | error f => exact .inl ⟨f, rfl, by simp [applyBatch, read]⟩
  | ok e =>
      cases upserted : upsertEvent e w with
      | mk r w' =>
          cases r with
          | error f =>
              exact .inr (.inl ⟨e, f, w', rfl, upserted, by simp [applyBatch, read, upserted]; rfl⟩)
          | ok u => exact .inr (.inr ⟨e, w', rfl, upserted, by simp [applyBatch, read, upserted]; rfl⟩)

/-- A batch acknowledges a prefix of itself, goes through exactly when the prefix is all of
it, and its upserts that went through are the events of the prefix. -/
theorem applyBatch_prefix (ds : List Delivery) (w : World) :
    ∃ i ≤ ds.length, (applyBatch ds w).1 = (ds.take i).map (·.ackId) ∧
      ((applyBatch ds w).2.2.1 = true ↔ i = ds.length) ∧
      applied (applyBatch ds w).2.1 = decoded (ds.take i) := by
  induction ds generalizing w with
  | nil => exact ⟨0, le_rfl, rfl, by simp [applyBatch], rfl⟩
  | cons d rest ih =>
      rcases applyBatch_cons d rest w with ⟨f, read, step⟩ | ⟨e, f, w', read, -, step⟩ |
        ⟨e, w', read, -, step⟩
      · obtain ⟨i, bounded, acked, whole, events⟩ := ih w
        rw [step]
        refine ⟨i + 1, by simp; omega, by simp [acked], by simp [whole], ?_⟩
        rw [events, List.take_succ_cons, decoded_cons_error read]
      · rw [step]
        exact ⟨0, by simp, rfl, by simp, by simp [decoded]⟩
      · obtain ⟨i, bounded, acked, whole, events⟩ := ih w'
        rw [step]
        refine ⟨i + 1, by simp; omega, by simp [acked], by simp [whole], ?_⟩
        rw [applied_went, events, List.take_succ_cons, decoded_cons_ok read]

/-- Every upsert a batch tries carries an event of the batch. -/
theorem applyBatch_fromLog (ds : List Delivery) (w : World) :
    ∀ a ∈ (applyBatch ds w).2.1, ∃ d ∈ ds, d.event = .ok a.event := by
  induction ds generalizing w with
  | nil => simp [applyBatch]
  | cons d rest ih =>
      rcases applyBatch_cons d rest w with ⟨f, read, step⟩ | ⟨e, f, w', read, -, step⟩ |
        ⟨e, w', read, -, step⟩
      · rw [step]
        intro a member
        obtain ⟨d', inRest, carried⟩ := ih w a member
        exact ⟨d', List.mem_cons_of_mem d inRest, carried⟩
      · rw [step]
        intro a member
        rw [List.mem_singleton] at member
        subst member
        exact ⟨d, List.mem_cons_self, by simp [read]⟩
      · rw [step]
        intro a member
        rcases List.mem_cons.mp member with first | later
        · subst first
          exact ⟨d, List.mem_cons_self, by simp [read]⟩
        · obtain ⟨d', inRest, carried⟩ := ih w' a later
          exact ⟨d', List.mem_cons_of_mem d inRest, carried⟩

/-- A batch leaves the source alone. -/
theorem applyBatch_sourceKept (ds : List Delivery) (w : World) :
    SourceKept w (applyBatch ds w).2.2.2 := by
  induction ds generalizing w with
  | nil => exact SourceKept.refl w
  | cons d rest ih =>
      rcases applyBatch_cons d rest w with ⟨f, read, step⟩ | ⟨e, f, w', read, upserted, step⟩ |
        ⟨e, w', read, upserted, step⟩
      · rw [step]
        exact ih w
      · rw [step]
        have upsert := upsertEvent_sourceKept e w
        rw [upserted] at upsert
        exact upsert
      · rw [step]
        have upsert := upsertEvent_sourceKept e w
        rw [upserted] at upsert
        exact upsert.trans (ih w')

/-- The ledger after a batch is the events that went through replayed over it, and it took
at most one id for each of them. -/
theorem applyBatch_ledger
    (numbered : w.stores.ledger.Numbered)
    (room : w.stores.ledger.lastId.toInt + ds.length ≤ Int64.maxValue.toInt) :
    (applyBatch ds w).2.2.2.stores.ledger.Numbered ∧
      (applyBatch ds w).2.2.2.stores.ledger.lastId.toInt ≤
        w.stores.ledger.lastId.toInt + (applied (applyBatch ds w).2.1).length ∧
      (applyBatch ds w).2.2.2.stores.ledger.view =
        Ledger.replay (applied (applyBatch ds w).2.1) w.stores.ledger.view := by
  induction ds generalizing w with
  | nil => exact ⟨numbered, by simp [applyBatch, applied], rfl⟩
  | cons d rest ih =>
      simp only [List.length_cons, Nat.cast_add, Nat.cast_one] at room
      rcases applyBatch_cons d rest w with ⟨f, read, step⟩ | ⟨e, f, w', read, upserted, step⟩ |
        ⟨e, w', read, upserted, step⟩
      · rw [step]
        exact ih numbered (by omega)
      · -- the failed upsert ends the batch and changes no row
        obtain ⟨numbered', bound, view⟩ := upsertEvent_ledger (e := e) numbered (by omega)
        rw [upserted] at numbered' bound view
        simp only [Except.isOk, Except.toBool, Bool.false_eq_true, if_false] at numbered' bound view
        rw [step]
        refine ⟨numbered', ?_, ?_⟩
        · simp only [applied_refused, List.length_nil, Nat.cast_zero]
          omega
        · rw [view, applied_refused]
          rfl
      · obtain ⟨numbered', bound, view⟩ := upsertEvent_ledger (e := e) numbered (by omega)
        rw [upserted] at numbered' bound view
        simp only [Except.isOk, Except.toBool, if_true] at numbered' bound view
        obtain ⟨numbered'', bound', view'⟩ := ih numbered' (by omega)
        rw [step, applied_went]
        refine ⟨numbered'', ?_, ?_⟩
        · simp only [List.length_cons, Nat.cast_add, Nat.cast_one]
          omega
        · rw [view', view]
          rfl

/-- With nothing arranged and the database open, a batch goes through whole. -/
theorem applyBatch_reliable (reliable : w.Reliable) (ds : List Delivery) :
    (applyBatch ds w).2.2.1 = true ∧ (applyBatch ds w).2.2.2.Reliable := by
  induction ds generalizing w with
  | nil => exact ⟨rfl, reliable⟩
  | cons d rest ih =>
      rcases applyBatch_cons d rest w with ⟨f, read, step⟩ | ⟨e, f, w', read, upserted, step⟩ |
        ⟨e, w', read, upserted, step⟩
      · rw [step]
        exact ih reliable
      · have refused := (upsertEvent_reliable (e := e) reliable).1
        rw [upserted] at refused
        cases refused
      · have next := (upsertEvent_reliable (e := e) reliable).2
        rw [upserted] at next
        rw [step]
        exact ih next

/-! ## The pump -/

/-- Acknowledging only a nonempty list of ids is acknowledging it. -/
theorem ack_unless_empty (ids : List String) (w : World) :
    (if ids.isEmpty then w else (w.ack ids).2) = (w.ack ids).2 := by
  split
  · rename_i empty
    rw [List.isEmpty_iff.mp empty, ack_nil]
  · rfl

/-- The writer between two reads: the law holds after `k` entries, the source offers the
rest, and the ledger is the events that went through replayed over `base`, with an id left
for each entry still to come. -/
structure Pumping (base : Int64 × Int64 → Option Int64) (xs : List Delivery) (k : Nat)
    (r : Report) (w : World) : Prop where
  law : Law xs k r
  feeds : w.Feeds xs k
  view : w.stores.ledger.view = Ledger.replay (applied r.attempts) base
  numbered : w.stores.ledger.Numbered
  room : w.stores.ledger.lastId.toInt + xs.length ≤ Int64.maxValue.toInt + k

/-- The law does not count rewinds. -/
theorem Pumping.rewound
    {r : Report}
    (pumping : Pumping base xs k r w)
    (n : Nat) :
    Pumping base xs k { r with rewinds := n } w :=
  ⟨⟨pumping.law.within, pumping.law.acks, pumping.law.applied, pumping.law.fromLog⟩, pumping.feeds,
    pumping.view, pumping.numbered, pumping.room⟩

theorem Pumping.of_ledgerKept
    {r : Report}
    (pumping : Pumping base xs k r w)
    (kept : LedgerKept w w')
    (feeds : w'.Feeds xs k) :
    Pumping base xs k r w' :=
  ⟨pumping.law, feeds, by rw [kept.ledger]; exact pumping.view,
    by rw [kept.ledger]; exact pumping.numbered, by rw [kept.ledger]; exact pumping.room⟩

/-- A batch of `m` entries moves the writer past the prefix it applied: past all of it when
it goes through, else past the entries before the failed upsert, and the rewind after it
offers the log from there. -/
theorem Pumping.batch
    {r : Report} {ids : List String} {tried : List Attempt} {ok : Bool}
    (pumping : Pumping base xs k r w)
    (delivered : w'.Delivered xs k m)
    (kept : LedgerKept w w')
    (applies : applyBatch ((xs.drop k).take m) w' = (ids, tried, ok, w1)) :
    ∃ i ≤ m, (ok = true → i = m ∧
        Pumping base xs (k + m) { r with acks := r.acks ++ ids, attempts := r.attempts ++ tried }
          (w1.ack ids).2) ∧
      Pumping base xs (k + i) { r with acks := r.acks ++ ids, attempts := r.attempts ++ tried }
        (w1.ack ids).2.rewind := by
  obtain ⟨i, bounded, acked, whole, events⟩ := applyBatch_prefix ((xs.drop k).take m) w'
  have fromBatch := applyBatch_fromLog ((xs.drop k).take m) w'
  have sourceKept := applyBatch_sourceKept ((xs.drop k).take m) w'
  obtain ⟨positive, fits⟩ := delivered.bounds
  have batchLength : ((xs.drop k).take m).length = m := by
    simp only [List.length_take, List.length_drop]
    omega
  have roomBefore : w'.stores.ledger.lastId.toInt + ((xs.drop k).take m).length ≤
      Int64.maxValue.toInt := by
    rw [kept.ledger, batchLength]
    have := pumping.room
    omega
  obtain ⟨numbered, bound, view⟩ :=
    applyBatch_ledger (by rw [kept.ledger]; exact pumping.numbered) roomBefore
  rw [applies] at acked whole events fromBatch sourceKept numbered bound view
  simp only at acked whole events fromBatch sourceKept numbered bound view
  rw [batchLength] at bounded whole
  have front : ((xs.drop k).take m).take i = (xs.drop k).take i := by
    rw [List.take_take, Nat.min_eq_left bounded]
  rw [front] at acked events
  have appliedLength : (applied tried).length ≤ i := by
    rw [events]
    exact (List.length_filterMap_le _ _).trans (List.length_take_le _ _)
  -- the law after the batch: the applied prefix joins the acknowledged one
  have law : Law xs (k + i) { r with acks := r.acks ++ ids, attempts := r.attempts ++ tried } := by
    refine ⟨by omega, ?_, ?_, ?_⟩
    · show r.acks ++ ids = _
      rw [pumping.law.acks, acked, ← List.map_append, ← List.take_add]
    · show applied (r.attempts ++ tried) = _
      rw [applied_append, pumping.law.applied, events, ← decoded_append, ← List.take_add]
    · intro a member
      rcases List.mem_append.mp member with old | new
      · exact pumping.law.fromLog a old
      · obtain ⟨d, inBatch, carried⟩ := fromBatch a new
        exact ⟨d, List.mem_of_mem_drop (List.mem_of_mem_take inBatch), carried⟩
  have ledgerView : w1.stores.ledger.view = Ledger.replay (applied (r.attempts ++ tried)) base := by
    rw [view, kept.ledger, pumping.view, applied_append, Ledger.replay_append]
  have roomAfter : w1.stores.ledger.lastId.toInt + xs.length ≤
      Int64.maxValue.toInt + ((k + i : Nat) : Int) := by
    have := pumping.room
    rw [kept.ledger] at bound
    push_cast
    omega
  obtain ⟨whole', front'⟩ := (delivered.of_sourceKept sourceKept).ack i bounded
  rw [← acked] at whole' front'
  refine ⟨i, bounded, fun went => ?_, ?_⟩
  · obtain rfl : i = m := whole.mp went
    refine ⟨rfl, law, whole' rfl, ?_, ?_, ?_⟩
    · rw [ack_ledger]
      exact ledgerView
    · rw [ack_ledger]
      exact numbered
    · rw [ack_ledger]
      exact roomAfter
  · refine ⟨law, front', ?_, ?_, ?_⟩
    · rw [rewind_stores, ack_ledger]
      exact ledgerView
    · rw [rewind_stores, ack_ledger]
      exact numbered
    · rw [rewind_stores, ack_ledger]
      exact roomAfter

/-- What is left of a drain: the arranged read failures, the entries not yet acknowledged, and
the end of a replay. -/
def remaining (w : World) (xs : List Delivery) (k : Nat) : Nat :=
  w.writerFaults.consumes + (xs.length - k) + if w.replaying then 1 else 0

/-- The pump keeps the law through every read, touching nothing beside the source, its stream
and the ledger; with no upsert failing, it acknowledges the whole log when it has more reads
than what is left. -/
theorem Pumping.pump
    {r : Report}
    (pumping : Pumping base xs k r w)
    (fuel : Nat) :
    ∃ k', Pumping base xs k' (pump fuel r w).1 (pump fuel r w).2 ∧ Beside w (pump fuel r w).2 ∧
      (w.Reliable → w.remaining xs k < fuel → k' = xs.length) := by
  -- induction on the reads left, over any position, report and world
  induction fuel generalizing k r w with
  | zero => exact ⟨k, pumping, Beside.refl w, fun _ short => absurd short (Nat.not_lt_zero _)⟩
  | succ fuel ih =>
      have answers := pumping.feeds.readWithRetries w.tuning.readRetries
      simp only [World.pump]
      cases read : w.readWithRetries (w.tuning.readRetries + 1) with
      | mk answer w' =>
          rw [read] at answers
          cases answer with
          | idle =>
              obtain ⟨done, feeds, kept⟩ := answers
              exact ⟨k, pumping.of_ledgerKept kept feeds, kept.beside, fun _ _ => done⟩
          | drained =>
              obtain ⟨feeds, kept, fewer, replaying', stopped⟩ := answers
              obtain ⟨k', pumped, beside, drains⟩ := ih (pumping.of_ledgerKept kept feeds)
              refine ⟨k', pumped, kept.beside.trans beside,
                fun reliable short => drains (reliable.of_ledgerKept kept) ?_⟩
              simp only [remaining, replaying', stopped, if_true, Bool.false_eq_true,
                if_false] at short ⊢
              omega
          | failed f =>
              obtain ⟨feeds, kept, fewer, same⟩ := answers
              obtain ⟨k', pumped, beside, drains⟩ := ih (pumping.of_ledgerKept kept feeds)
              refine ⟨k', pumped, kept.beside.trans beside,
                fun reliable short => drains (reliable.of_ledgerKept kept) ?_⟩
              simp only [remaining, same] at short ⊢
              omega
          | batch ds =>
              obtain ⟨m, batch, delivered, mode, kept, fewer⟩ := answers
              obtain ⟨positive, fits⟩ := delivered.bounds
              -- a batch is never empty
              obtain ⟨d, rest, nonempty⟩ : ∃ d rest, ds = d :: rest := by
                cases ds with
                | nil =>
                    have := congrArg List.length batch
                    simp at this
                    omega
                | cons d rest => exact ⟨d, rest, rfl⟩
              subst nonempty
              simp only
              rcases applies : applyBatch (d :: rest) w' with ⟨ids, tried, ok, w1⟩
              rw [batch] at applies
              obtain ⟨i, -, went, rewound⟩ := pumping.batch delivered kept applies
              simp only [ack_unless_empty]
              have sourceKept := applyBatch_sourceKept ((xs.drop k).take m) w'
              rw [applies] at sourceKept
              cases ok with
              | true =>
                  simp only [if_true]
                  obtain ⟨-, moved⟩ := went rfl
                  obtain ⟨k', pumped, beside, drains⟩ := ih moved
                  refine ⟨k', pumped, (kept.beside.trans sourceKept.beside).trans
                    ((ledgerKept_ack ids w1).beside.trans beside), fun reliable short => drains ?_ ?_⟩
                  · have whole := applyBatch_reliable (reliable.of_ledgerKept kept)
                      ((xs.drop k).take m)
                    rw [applies] at whole
                    exact whole.2.of_ledgerKept (ledgerKept_ack ids w1)
                  · -- the batch went through whole: the position moves by `m` and nothing else grows
                    have sameMode : (w1.ack ids).2.replaying = w.replaying := by
                      rw [replaying_ack, replaying_of_sourceKept sourceKept, mode]
                    have sameFaults : (w1.ack ids).2.writerFaults.consumes =
                        w'.writerFaults.consumes := by
                      rw [ack_writerFaults, sourceKept.consumes]
                    simp only [remaining, sameMode, sameFaults] at short ⊢
                    omega
              | false =>
                  simp only [Bool.false_eq_true, if_false]
                  obtain ⟨k', pumped, beside, -⟩ := ih (rewound.rewound _)
                  refine ⟨k', pumped, (kept.beside.trans sourceKept.beside).trans
                    ((ledgerKept_ack ids w1).beside.trans
                      ((ledgerKept_rewind _).beside.trans beside)), fun reliable _ => ?_⟩
                  -- with no upsert failing no batch fails
                  have whole := applyBatch_reliable (reliable.of_ledgerKept kept) ((xs.drop k).take m)
                  rw [applies] at whole
                  cases whole.1

/-- The drain with at most `fuel` reads. -/
def drainFor (fuel : Nat) (w : World) : Report × World :=
  match w.setupWithRetries (w.tuning.setupRetries + 1) with
  | (.error f, w') => ({ failure := some (f.under .unavailable "consumer group setup: ") }, w')
  | (.ok (), w') => pump fuel {} w'

/-- A drain of a source that has delivered nothing keeps the law after every read, with the
ledger the acknowledged events replayed over it; with no failure arranged for its upserts or
beyond its setup retries, and more reads than the log has entries, arranged read failures and
one replay, it acknowledges the whole log. -/
theorem drainFor_spec
    (fresh : w.Fresh xs)
    (numbered : w.stores.ledger.Numbered)
    (room : w.stores.ledger.lastId.toInt + xs.length ≤ Int64.maxValue.toInt)
    (fuel : Nat) :
    ∃ k, Law xs k (w.drainFor fuel).1 ∧
      (w.drainFor fuel).2.stores.ledger.view =
        Ledger.replay (decoded (xs.take k)) w.stores.ledger.view ∧
      Beside w (w.drainFor fuel).2 ∧
      (w.Reliable → w.writerFaults.setups ≤ w.tuning.setupRetries →
        w.writerFaults.consumes + xs.length + 1 < fuel → k = xs.length) := by
  obtain ⟨kept, consumes, feeds, succeeds⟩ := fresh.setupWithRetries w.tuning.setupRetries
  unfold drainFor
  cases setup : w.setupWithRetries (w.tuning.setupRetries + 1) with
  | mk result w' =>
      rw [setup] at kept consumes feeds succeeds
      cases result with
      | error f =>
          -- the setup failed: nothing was read
          dsimp only
          refine ⟨0, ⟨Nat.zero_le _, rfl, rfl, by simp⟩, by rw [kept.ledger]; rfl, kept.beside,
            fun _ few _ => ?_⟩
          cases succeeds few
      | ok u =>
          dsimp only
          have pumping : Pumping w.stores.ledger.view xs 0 {} w' :=
            ⟨Law.empty xs, feeds rfl, by rw [kept.ledger]; rfl, by rw [kept.ledger]; exact numbered,
              by rw [kept.ledger]; simpa using room⟩
          obtain ⟨k, pumped, beside, drains⟩ := pumping.pump fuel
          refine ⟨k, pumped.law, by rw [pumped.view, pumped.law.applied], kept.beside.trans beside,
            fun reliable _ short => ?_⟩
          apply drains (reliable.of_ledgerKept kept)
          unfold remaining
          rw [consumes]
          split <;> omega

/-- The acknowledgement law: after every read of a drain of a source that has delivered
nothing, whatever upserts fail, the writer has acknowledged the first `k` entries of the log
and nothing else, its upserts that went through are their events in log order, each once, it
tried no upsert for an entry that could not be read, and the ledger is those events replayed
over what it held; once the whole log is acknowledged, each pair holds its last event's
value. -/
theorem drainFor_obeys_law
    (fresh : w.Fresh xs)
    (numbered : w.stores.ledger.Numbered)
    (room : w.stores.ledger.lastId.toInt + xs.length ≤ Int64.maxValue.toInt)
    (fuel : Nat) :
    ∃ k, Law xs k (w.drainFor fuel).1 ∧
      (w.drainFor fuel).2.stores.ledger.view =
        Ledger.replay (decoded (xs.take k)) w.stores.ledger.view ∧
      (k = xs.length → ∀ key, (w.drainFor fuel).2.stores.ledger.view key =
        (Ledger.lastValue? (decoded xs) key).or (w.stores.ledger.view key)) := by
  obtain ⟨k, law, view, -, -⟩ := drainFor_spec fresh numbered room fuel
  refine ⟨k, law, view, fun done key => ?_⟩
  rw [view, done, List.take_length, Ledger.replay_eq_lastValue?]

/-- A memory source holding an event and an entry that cannot be read, with the first upsert of
the event arranged to fail. -/
def retried : World :=
  { stores := {}, ids := Cache.Tiered.create 0, values := Cache.Tiered.create 0,
    source := .memory
      { entries := [{ id := "1", fields := EventCodec.integers.encode ⟨7, 1, 3⟩ },
          { id := "2", fields := [] }],
        lastId := 2 },
    writerFaults := { upserts := [((7, 1), [true])] } }

/-- What `retried` offers: the event, then the entry that cannot be read. -/
def retriedLog : List Delivery :=
  [{ ackId := "1", event := .ok ⟨7, 1, 3⟩ }, { ackId := "2", event := EventCodec.integers.decode [] }]

theorem drainFor_obeys_law_retried :
    retried.Fresh retriedLog ∧ retried.stores.ledger.Numbered ∧
      retried.stores.ledger.lastId.toInt + retriedLog.length ≤ Int64.maxValue.toInt ∧
      ∃ k, Law retriedLog k (retried.drainFor drainFuel).1 ∧
        (retried.drainFor drainFuel).2.stores.ledger.view =
          Ledger.replay (decoded (retriedLog.take k)) retried.stores.ledger.view ∧
        (k = retriedLog.length → ∀ key, (retried.drainFor drainFuel).2.stores.ledger.view key =
          (Ledger.lastValue? (decoded retriedLog) key).or (retried.stores.ledger.view key)) := by
  have fresh : retried.Fresh retriedLog :=
    ⟨by simp [retried, retriedLog, Entry.delivery, EventCodec.decode_encode], by simp,
      by decide, by simp⟩
  have numbered : retried.stores.ledger.Numbered := ⟨by simp [retried], by simp [retried]⟩
  have room : retried.stores.ledger.lastId.toInt + retriedLog.length ≤ Int64.maxValue.toInt := by
    decide
  exact ⟨fresh, numbered, room, drainFor_obeys_law fresh numbered room drainFuel⟩

end World

end Service
end Tallykeeper
