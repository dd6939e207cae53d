import Mathlib
import Tallykeeper.Proofs.Service.Publishing
import Tallykeeper.Proofs.Service.Draining

/-!
# Write-behind convergence

The counter calls write the counts at once and the durable ledger behind them: each successful
increment or reset publishes its pair's new value, and the durable writer later drains the log
into the ledger. Once the writer has drained a run of increments and resets, the ledger agrees
with the counts: the log holds one event per successful call, in call order, the writer has
acknowledged all of it, each pair's row holds what the count store holds under the pair's key,
and a pair that no call changed has no row.

The proof puts together three facts: the run leaves the tally's published events in the log and
the counts at the tally's map (`World.Unwritten.run`), the tally's map is its published events
replayed (`Tally.counts_after`), and the writer replays the whole log into an empty ledger while
leaving the counts alone (`World.drainFor_spec`).
-/

namespace Tallykeeper
namespace Service

open Change

namespace World

variable {w w' : World} {es : List Event}

/-- A log whose entries all read as events hands the writer exactly those events. -/
theorem decoded_of_events {xs : List Delivery} (events : xs.map (·.event) = es.map .ok) :
    decoded xs = es := by
  have read : decoded xs = (xs.map (·.event)).filterMap Except.toOption := by
    simp [decoded, List.filterMap_map]
  rw [read, events, List.filterMap_map]
  simp [Function.comp_def, Except.toOption]

/-- The writer leaves what the count store holds under every count key, its stream lying apart
from the counts. -/
theorem Beside.holds
    {key : String}
    {v? : Option Int64}
    (beside : Beside w w')
    (apart : w.source.Apart)
    (held : w.stores.holds key v?) :
    w'.stores.holds key v? := by
  unfold Stores.holds at held ⊢
  rw [beside.countHome, beside.counts]
  cases home : w.stores.countHome with
  | memory =>
      rw [home] at held
      exact held
  | server c =>
      rw [home] at held
      dsimp only at held ⊢
      have elsewhere : w.source.key? ≠ some (serverKey key) := by
        intro same
        cases source : w.source with
        | memory s => simp [source, Source.key?] at same
        | silent => simp [source, Source.key?] at same
        | stream src =>
            have streamApart := apart
            rw [source] at streamApart
            simp only [source, Source.key?, Option.some.injEq] at same
            exact streamApart key same
      rw [beside.away (serverKey key) elsewhere]
      exact held

end World

/-- Write-behind converges. Wire the service with a memory source or a stream on the server, any
event codec, counts in memory or on the server under any codec; make increments and resets,
fewer than the 64-bit range holds, with the seeds; then let the writer drain with more reads
than calls. The log holds, in call order, one event per successful call: its pair and the value
the pair holds after it; the writer acknowledges the whole log; each pair's ledger row holds what
the count store holds under its key, and a pair no call changed has no row. -/
theorem wired_writeBehind_converges
    (s : Setup)
    (calls : List Call)
    (calm : s.warmFails = false)
    (apart : s.source.Apart)
    (publishing : s.source ≠ .silent)
    (mutating : ∀ c ∈ calls, c.mutates = true)
    (room : s.seed.length + calls.length < 2 ^ 63)
    (fuel : Nat)
    (enough : calls.length + 1 < fuel) :
    ∃ seeded w, wire s = .ok (seeded, w) ∧
      let run := runSteps s.host (calls.map Call.step) w
      let es := Tally.published calls (Tally.seeded s.seed)
      run.1.map (Except.mapError Fault.sentinel?) =
          (Tally.answers calls (Tally.seeded s.seed)).map (Except.mapError some) ∧
        run.2.log.map (·.event) = es.map .ok ∧
        (run.2.drainFor fuel).1.acks = run.2.log.map (·.ackId) ∧
        ∀ id userId,
          (run.2.drainFor fuel).2.stores.holds (counterKey id userId)
            ((run.2.drainFor fuel).2.stores.ledger.view (id, userId)) ∧
          ((id, userId) ∉ es.map (fun e => (e.counterId, e.userId)) →
            (run.2.drainFor fuel).2.stores.ledger.view (id, userId) = none) := by
  obtain ⟨seeded, w, wired, agrees⟩ := wire_agrees s calm apart (by omega)
  refine ⟨seeded, w, wired, ?_⟩
  obtain ⟨agrees₁, unwritten⟩ := (wire_unwritten calm publishing wired).run agrees s.host calls mutating
  rw [List.nil_append] at unwritten
  have short := Tally.length_published calls (Tally.seeded s.seed)
  have counted := Tally.counts_after calls (Tally.seeded s.seed)
  rw [Tally.counts_seeded] at counted
  dsimp only
  refine ⟨agrees.runSteps s.host calls (Tally.seeded_room room), ?_⟩
  generalize (runSteps s.host (calls.map Call.step) w).2 = w₁ at agrees₁ unwritten ⊢
  generalize Tally.after calls (Tally.seeded s.seed) = t₁ at agrees₁ counted
  generalize Tally.published calls (Tally.seeded s.seed) = es at unwritten short counted ⊢
  have events := unwritten.logs.events
  have logLength : w₁.log.length = es.length := by simpa using congrArg List.length events
  -- the writer starts from an empty ledger, with the whole log to read
  have fresh := unwritten.logs.fresh agrees₁.stores.healthy (by unfold Numeral.unsignedMax; omega)
  have numbered : w₁.stores.ledger.Numbered := ⟨by simp [unwritten.rows], by simp [unwritten.rows]⟩
  have ledgerRoom : w₁.stores.ledger.lastId.toInt + w₁.log.length ≤ Int64.maxValue.toInt := by
    rw [unwritten.lastId, logLength, Int64.toInt_maxValue]
    simp only [Int64.toInt_zero, zero_add]
    omega
  have blank : w₁.stores.ledger.view = fun _ => none := by
    funext key
    simp [Ledger.Store.view, Ledger.Store.find?, unwritten.rows]
  obtain ⟨k, law, view, beside, finishes⟩ := World.drainFor_spec fresh numbered ledgerRoom fuel
  have reliable : w₁.Reliable := ⟨agrees₁.stores.opened, by simp [unwritten.faults]⟩
  have whole : k = w₁.log.length :=
    finishes reliable (by simp [unwritten.faults]) (by simp [unwritten.faults, logLength]; omega)
  subst whole
  -- the ledger replays the published events over nothing, as the tally's counts do
  have replayed : (w₁.drainFor fuel).2.stores.ledger.view = t₁.counts := by
    rw [view, List.take_length, World.decoded_of_events events, blank, counted]
  refine ⟨events, by rw [law.acks, List.take_length], fun id userId => ⟨?_, ?_⟩⟩
  · rw [replayed]
    exact beside.holds agrees₁.apart (agrees₁.stores.counts id userId)
  · intro untouched
    have unpublished : es.filter (fun e => (e.counterId, e.userId) == (id, userId)) = [] := by
      rw [List.filter_eq_nil_iff]
      intro e member same
      exact untouched (List.mem_map.mpr ⟨e, member, by simpa using same⟩)
    rw [replayed, counted, Ledger.replay_eq_lastValue?]
    simp [Ledger.lastValue?, unpublished]

/-- Counts on the server under the binary codec, packed events on the default stream, one
counter seeded. -/
def packedOnServer : Setup :=
  { countsOnServer := true, valueCodec := .binary, source := .stream "" 0,
    eventCodec := EventCodec.packed, seed := [{ name := .ofString "likes" }] }

/-- Two increments of a registered counter, a reset, and an increment of an unregistered one. -/
def packedCalls : List Call :=
  [.increment (.ofString "likes") 7 5, .increment (.ofString "likes") 8 0,
    .reset (.ofString "likes") 7, .increment (.ofString "shares") 7 1]

theorem wired_writeBehind_converges_packed :
    packedOnServer.warmFails = false ∧ packedOnServer.source.Apart ∧
      packedOnServer.source ≠ .silent ∧ (∀ c ∈ packedCalls, c.mutates = true) ∧
      packedOnServer.seed.length + packedCalls.length < 2 ^ 63 ∧ packedCalls.length + 1 < 6 ∧
      ∃ seeded w, wire packedOnServer = .ok (seeded, w) ∧
        let run := runSteps packedOnServer.host (packedCalls.map Call.step) w
        let es := Tally.published packedCalls (Tally.seeded packedOnServer.seed)
        run.1.map (Except.mapError Fault.sentinel?) =
            (Tally.answers packedCalls (Tally.seeded packedOnServer.seed)).map (Except.mapError some) ∧
          run.2.log.map (·.event) = es.map .ok ∧
          (run.2.drainFor 6).1.acks = run.2.log.map (·.ackId) ∧
          ∀ id userId,
            (run.2.drainFor 6).2.stores.holds (counterKey id userId)
              ((run.2.drainFor 6).2.stores.ledger.view (id, userId)) ∧
            ((id, userId) ∉ es.map (fun e => (e.counterId, e.userId)) →
              (run.2.drainFor 6).2.stores.ledger.view (id, userId) = none) := by
  have calm : packedOnServer.warmFails = false := rfl
  have apart : packedOnServer.source.Apart := by
    intro k same
    have first := congrArg (fun s : String => s.toList.head?) same
    simp [serverKey, String.toList_append] at first
  have publishing : packedOnServer.source ≠ .silent := by decide
  have mutating : ∀ c ∈ packedCalls, c.mutates = true := by decide
  have room : packedOnServer.seed.length + packedCalls.length < 2 ^ 63 := by decide
  have enough : packedCalls.length + 1 < 6 := by decide
  exact ⟨calm, apart, publishing, mutating, room, enough,
    wired_writeBehind_converges packedOnServer packedCalls calm apart publishing mutating room 6
      enough⟩

end Service
end Tallykeeper
