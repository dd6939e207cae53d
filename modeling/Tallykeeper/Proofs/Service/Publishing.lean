import Mathlib
import Tallykeeper.Proofs.Service.Feeding
import Tallykeeper.Proofs.Service.Refinement
import Tallykeeper.Proofs.Change.Codec

/-!
# The log that counter calls publish

Each increment or reset that succeeds publishes one event to the change source: a memory source
appends an entry numbered from one, a stream source appends the event's fields, as text, to the
stream on the server under the next id at the server's clock. Everything else a call does to
the world (its caches, the catalog, the counts) leaves the log alone, since no count's server
key is the stream's (`World.Aside`).

`World.Unwritten w es` says that the source holds the events `es` in publishing order, nothing
delivered, with the ledger empty and nothing arranged for the writer. Wiring starts there with
no event, each call keeps it while adding the event the tally publishes for the call, and so a
run of increments and resets leaves the tally's published events in the log
(`Unwritten.run`). Such a log reads back as those events and offers the writer all of it.
-/

namespace Tallykeeper

open Redis

namespace Change

/-! ## Sources after publishing -/

variable {codec : EventCodec} {es : List Event} {e : Event} {now : Nat}

/-- Numbered items mapped by what they carry are the items mapped. -/
theorem map_zipIdx_of_fst {α β : Type} (l : List α) (f : α × Nat → β) (g : α → β)
    (carried : ∀ p, f p = g p.1) :
    l.zipIdx.map f = l.map g :=
  calc l.zipIdx.map f = l.zipIdx.map (g ∘ Prod.fst) := List.map_congr_left fun p _ => carried p
    _ = (l.zipIdx.map Prod.fst).map g := (List.map_map ..).symm
    _ = l.map g := by rw [List.zipIdx_map_fst]

/-- Numbered items mapped by their numbers are the numbers mapped. -/
theorem map_zipIdx_of_snd {α β : Type} (l : List α) (f : α × Nat → β) (g : Nat → β)
    (numbered : ∀ p, f p = g p.2) :
    l.zipIdx.map f = (List.range' 0 l.length).map g :=
  calc l.zipIdx.map f = l.zipIdx.map (g ∘ Prod.snd) := List.map_congr_left fun p _ => numbered p
    _ = (l.zipIdx.map Prod.snd).map g := (List.map_map ..).symm
    _ = (List.range' 0 l.length).map g := by rw [List.zipIdx_map_snd]

/-- The memory source after events were published to an empty one. -/
def MemSource.published (codec : EventCodec) (es : List Event) : MemSource :=
  es.foldl (fun s e => (s.propagate codec e).2) {}

theorem MemSource.published_concat :
    MemSource.published codec (es ++ [e]) = ((MemSource.published codec es).propagate codec e).2 :=
  List.foldl_append

/-- Publishing numbers the entries from one, in order, none of them delivered. -/
theorem MemSource.entries_published (codec : EventCodec) (es : List Event) :
    (MemSource.published codec es).entries =
        es.zipIdx.map (fun p => { id := toString (p.2 + 1), fields := codec.encode p.1 }) ∧
      (MemSource.published codec es).lastId = es.length := by
  induction es using List.reverseRecOn with
  | nil => exact ⟨rfl, rfl⟩
  | append_singleton es e ih =>
      rw [MemSource.published_concat]
      obtain ⟨entries, lastId⟩ := ih
      simp [MemSource.propagate, entries, lastId, List.zipIdx_append]

/-- The fields a stream source writes for an event: the codec's fields as text. -/
def wireFields (codec : EventCodec) (e : Event) : List (String × String) :=
  (codec.encode e).map fun (n, v) => (n, v.wire)

theorem wireFields_ne_nil (codec : EventCodec) (e : Event) : wireFields codec e ≠ [] := by
  unfold wireFields EventCodec.encode
  split
  · simp
  · split <;> simp

/-- The stream after events were appended to an empty one at one clock reading. -/
def publishedStream (codec : EventCodec) (now : Nat) (es : List Event) : Stream :=
  es.foldl (fun st e => (st.append now (wireFields codec e)).2) {}

theorem publishedStream_concat :
    publishedStream codec now (es ++ [e]) =
      ((publishedStream codec now es).append now (wireFields codec e)).2 :=
  List.foldl_append

/-- Appending at one clock reading numbers the entries by their place, with no group. -/
theorem entries_publishedStream :
    (publishedStream codec now es).entries =
        es.zipIdx.map (fun p => { id := ⟨now, p.2⟩, fields := wireFields codec p.1 }) ∧
      (publishedStream codec now es).lastId =
        (if es = [] then none else some ⟨now, es.length - 1⟩) ∧
      (publishedStream codec now es).groups = [] := by
  induction es using List.reverseRecOn with
  | nil => exact ⟨rfl, rfl, rfl⟩
  | append_singleton es e ih =>
      rw [publishedStream_concat]
      obtain ⟨entries, lastId, groups⟩ := ih
      have next : EntryId.next now (publishedStream codec now es).lastId = ⟨now, es.length⟩ := by
        rw [lastId]
        split
        · rename_i empty
          simp [EntryId.next, empty]
        · rename_i nonempty
          have positive : 0 < es.length := List.length_pos_iff.mpr nonempty
          simp [EntryId.next, EntryId.lt]
          omega
      simp [Stream.append, entries, groups, next, List.zipIdx_append]

theorem decode_wireFields (codec : EventCodec) (e : Event) :
    codec.decode ((wireFields codec e).map fun (n, v) => (n, .text v)) = .ok e :=
  EventCodec.decode_wire codec e

/-- Entries appended at a clock past zero and within the range of ids, fewer than the range
holds, are in id order. -/
theorem orderly_publishedStream
    (codec : EventCodec)
    (positive : 0 < now)
    (bounded : now ≤ Numeral.unsignedMax)
    (short : es.length ≤ Numeral.unsignedMax) :
    Orderly (publishedStream codec now es).entries := by
  rw [entries_publishedStream.1]
  refine ⟨?_, ?_, ?_⟩
  · -- the ids share the clock reading and count up from zero
    have counted : (es.zipIdx.map Prod.snd).Pairwise (· < ·) := by
      rw [List.zipIdx_map_snd]
      exact List.pairwise_lt_range'
    rw [List.pairwise_map] at counted ⊢
    apply counted.imp
    intro p q earlier
    simp [EntryId.lt, earlier]
  · intro en member
    obtain ⟨p, -, rfl⟩ := List.mem_map.mp member
    simp [EntryId.lt, EntryId.zero, positive]
  · intro en member
    obtain ⟨⟨e, i⟩, inZip, rfl⟩ := List.mem_map.mp member
    have placed := (List.mem_zipIdx' inZip).1
    exact ⟨bounded, show i ≤ Numeral.unsignedMax by omega⟩

/-- Publishing to a stream on a healthy server appends the event's fields to the stream under
the source's key, creating it. -/
theorem StreamSource.propagate_snd
    {src : StreamSource}
    {srv : Server}
    {st? : Option Stream}
    (healthy : srv.ready = .ok ())
    (found : srv.streamAt? src.key = .ok st?)
    (e : Event) :
    (src.propagate codec e srv).2 =
      srv.store src.key (.stream ((st?.getD {}).append srv.now (wireFields codec e)).2) := by
  have appended := Server.xadd_of_stream healthy (wireFields_ne_nil codec e) found
  unfold wireFields at appended ⊢
  simp [StreamSource.propagate, appended]

end Change

namespace Service

open Change

namespace World

variable {w w' w₁ : World} {es : List Event} {e : Event}

/-! ## The log of a world -/

/-- The deliveries the change source holds for the writer, in order: the memory source's
entries, or the entries of the stream under the source's key. -/
def log (w : World) : List Delivery :=
  match w.source with
  | .memory s => s.entries.map (Entry.delivery w.eventCodec)
  | .silent => []
  | .stream src =>
    match w.stores.server.find? src.key with
    | some (.stream st) => st.entries.map (StreamSource.delivery w.eventCodec)
    | _ => []

/-- The change source holds the events `es` in publishing order, none of them delivered: the
memory source as publishing them to an empty one leaves it; the stream source about to replay
from the start, its stream as appending them at the server's clock leaves it, and that clock
past zero and within the range of ids. -/
def Logs (w : World) (es : List Event) : Prop :=
  match w.source with
  | .memory s => s = MemSource.published w.eventCodec es
  | .silent => False
  | .stream src =>
    src.replaying = true ∧ src.cursor = "0" ∧
      0 < w.stores.server.now ∧ w.stores.server.now ≤ Numeral.unsignedMax ∧
      (es = [] ∧ w.stores.server.find? src.key = none ∨
        w.stores.server.find? src.key =
          some (.stream (publishedStream w.eventCodec w.stores.server.now es)))

/-- Nothing of the log is written yet: the source holds the events `es`, the ledger is empty
and nothing is arranged for the writer. -/
structure Unwritten (w : World) (es : List Event) : Prop where
  logs : w.Logs es
  rows : w.stores.ledger.rows = []
  lastId : w.stores.ledger.lastId = 0
  faults : w.writerFaults = {}

theorem Logs.aside (logs : w.Logs es) (aside : Aside w w') : w'.Logs es := by
  unfold Logs at logs ⊢
  rw [aside.source, aside.eventCodec, aside.now]
  cases source : w.source with
  | memory s =>
      rw [source] at logs
      exact logs
  | silent =>
      rw [source] at logs
      exact logs
  | stream src =>
      rw [source] at logs
      dsimp only at logs ⊢
      rw [aside.stream src source]
      exact logs

theorem Unwritten.aside (unwritten : w.Unwritten es) (aside : Aside w w') : w'.Unwritten es where
  logs := unwritten.logs.aside aside
  rows := by rw [aside.ledger]; exact unwritten.rows
  lastId := by rw [aside.ledger]; exact unwritten.lastId
  faults := by rw [aside.writerFaults]; exact unwritten.faults

/-- Publishing an event on a healthy server adds it to the end of the log, and leaves the
ledger and the writer's arrangements alone. -/
theorem Unwritten.propagate
    (unwritten : w.Unwritten es)
    (healthy : w.stores.server.ready = .ok ())
    (e : Event) :
    (w.propagate e).2.Unwritten (es ++ [e]) := by
  have logs := unwritten.logs
  unfold Logs at logs
  cases source : w.source with
  | memory s =>
      rw [source] at logs
      have published : (w.propagate e).2 =
          { w with source := .memory ((MemSource.published w.eventCodec es).propagate
            w.eventCodec e).2 } := by
        simp [World.propagate, source, logs]
      rw [published]
      exact ⟨MemSource.published_concat.symm, unwritten.rows, unwritten.lastId, unwritten.faults⟩
  | silent =>
      rw [source] at logs
      exact logs.elim
  | stream src =>
      rw [source] at logs
      obtain ⟨replaying, cursor, positive, bounded, stream⟩ := logs
      -- the stream so far reads as the events so far, also before the first append
      have found : w.stores.server.streamAt? src.key =
          .ok (some (publishedStream w.eventCodec w.stores.server.now es)) ∨
          (es = [] ∧ w.stores.server.streamAt? src.key = .ok none) := by
        rcases stream with ⟨empty, absent⟩ | present
        · exact .inr ⟨empty, by simp [Server.streamAt?, absent]⟩
        · exact .inl (Server.streamAt?_of_found present)
      have appended : ∃ st? : Option Stream, w.stores.server.streamAt? src.key = .ok st? ∧
          st?.getD {} = publishedStream w.eventCodec w.stores.server.now es := by
        rcases found with present | ⟨empty, absent⟩
        · exact ⟨_, present, rfl⟩
        · exact ⟨none, absent, by rw [empty]; rfl⟩
      obtain ⟨st?, read, sofar⟩ := appended
      have published : (w.propagate e).2 = { w with stores := { w.stores with
          server := w.stores.server.store src.key (.stream
            (publishedStream w.eventCodec w.stores.server.now (es ++ [e]))) } } := by
        rw [publishedStream_concat, ← sofar, ← StreamSource.propagate_snd healthy read e]
        simp [World.propagate, source, World.onServer, World.onStores, Stores.onServer]
      rw [published]
      refine ⟨?_, unwritten.rows, unwritten.lastId, unwritten.faults⟩
      simp only [Logs, source]
      exact ⟨replaying, cursor, positive, bounded, .inr (by simp)⟩

/-- The log of a source holding `es` carries their events, in order. -/
theorem Logs.events (logs : w.Logs es) : w.log.map (·.event) = es.map .ok := by
  unfold Logs at logs
  unfold log
  cases source : w.source with
  | memory s =>
      rw [source] at logs
      dsimp only at logs ⊢
      rw [logs, List.map_map, (MemSource.entries_published _ _).1, List.map_map]
      exact map_zipIdx_of_fst _ _ _ fun p => by simp [Entry.delivery, EventCodec.decode_encode]
  | silent =>
      rw [source] at logs
      exact logs.elim
  | stream src =>
      rw [source] at logs
      obtain ⟨-, -, -, -, stream⟩ := logs
      dsimp only
      rcases stream with ⟨rfl, absent⟩ | present
      · simp [absent]
      · rw [present]
        dsimp only
        rw [List.map_map, entries_publishedStream.1, List.map_map]
        exact map_zipIdx_of_fst _ _ _ fun p => by simp [StreamSource.delivery, decode_wireFields]

/-- A source holding `es`, on a healthy server and fewer than the range of ids, offers the writer
its whole log. -/
theorem Logs.fresh
    (logs : w.Logs es)
    (healthy : w.stores.server.ready = .ok ())
    (short : es.length ≤ Numeral.unsignedMax) :
    w.Fresh w.log := by
  unfold Logs at logs
  unfold Fresh log
  cases source : w.source with
  | memory s =>
      rw [source] at logs
      dsimp only at logs ⊢
      subst logs
      have entries := MemSource.entries_published w.eventCodec es
      refine ⟨by simp, ?_, ?_, by simp⟩
      · intro en member
        rw [entries.1] at member
        obtain ⟨p, -, rfl⟩ := List.mem_map.mp member
        rfl
      · -- the entries are numbered by their place from one
        have numbered : ((MemSource.published w.eventCodec es).entries.map
            (Entry.delivery w.eventCodec)).map (·.ackId) =
              (List.range' 0 es.length).map fun i => toString (i + 1) := by
          rw [List.map_map, entries.1, List.map_map]
          exact map_zipIdx_of_snd _ _ _ fun p => rfl
        rw [numbered]
        apply List.Nodup.map _ List.nodup_range'
        intro i j same
        have := Nat.repr_inj.mp same
        omega
  | silent => rfl
  | stream src =>
      rw [source] at logs
      obtain ⟨replaying, cursor, positive, bounded, stream⟩ := logs
      dsimp only
      have resumes : ∀ ent : List StreamEntry, (∀ en ∈ ent, EntryId.lt EntryId.zero en.id = true) →
          src.replaying = true → src.ResumesAt ent 0 := by
        intro ent after _
        refine ⟨EntryId.zero, by rw [cursor]; exact EntryId.parse?_zero, ?_⟩
        simpa using after
      rcases stream with ⟨rfl, absent⟩ | present
      · refine ⟨[], by simp [absent], healthy, ⟨by simp, by simp, by simp⟩,
          resumes [] (by simp), .inl ⟨absent, rfl⟩⟩
      · have orderly := orderly_publishedStream w.eventCodec positive bounded short
        refine ⟨_, by rw [present], ⟨healthy, orderly, resumes _ orderly.positive, .inr ⟨_, present,
          rfl, .inl ?_⟩⟩⟩
        simp [Redis.Stream.group?, entries_publishedStream.2.2]

/-- A call that publishes `e?` adds it to the end of the log. -/
theorem Unwritten.publishes
    {e? : Option Event}
    (unwritten : w.Unwritten es)
    (healthy : w.stores.server.ready = .ok ())
    (publishes : Publishes w w₁ e?) :
    w₁.Unwritten (es ++ e?.toList) := by
  obtain ⟨w', aside, rfl⟩ := publishes
  cases e? with
  | none => simpa using unwritten.aside aside
  | some e =>
      exact (unwritten.aside aside).propagate (by rw [aside.ready]; exact healthy) e

/-! ## Runs of increments and resets -/

variable {t : Tally}

theorem runSteps_snd_cons (host : String) (step : Step) (rest : List Step) (w : World) :
    (runSteps host (step :: rest) w).2 = (runSteps host rest (runStep host step w).2).2 :=
  rfl

/-- An increment or a reset keeps the agreement and publishes the tally's event. -/
theorem Agrees.mutate
    (agrees : w.Agrees t)
    (host : String)
    {c : Call}
    (mutating : c.mutates = true) :
    (runStep host c.step w).2.Agrees (t.step c).2 ∧ Publishes w (runStep host c.step w).2 (t.event c) := by
  rcases Call.mutates_cases mutating with ⟨name, userId, delta, rfl⟩ | ⟨name, userId, rfl⟩
  · obtain ⟨-, kept, publishes⟩ := counterIncrement_of_agrees agrees name userId delta
    simp only [Call.step, runStep, reply_snd]
    exact ⟨kept, publishes⟩
  · obtain ⟨-, kept, publishes⟩ := counterReset_of_agrees agrees name userId
    simp only [Call.step, runStep, reply_snd]
    exact ⟨kept, publishes⟩

/-- A run of increments and resets keeps the agreement, and adds the events the tally publishes
to the end of the log, in call order. -/
theorem Unwritten.run
    (agrees : w.Agrees t)
    (unwritten : w.Unwritten es)
    (host : String)
    (calls : List Call)
    (mutating : ∀ c ∈ calls, c.mutates = true) :
    (runSteps host (calls.map Call.step) w).2.Agrees (t.after calls) ∧
      (runSteps host (calls.map Call.step) w).2.Unwritten (es ++ t.published calls) := by
  induction calls generalizing w t es with
  | nil => simpa [Service.runSteps, Tally.after, Tally.published] using ⟨agrees, unwritten⟩
  | cons c rest ih =>
      -- the first call is one step of the invariant, the rest a shorter run
      obtain ⟨kept, publishes⟩ := agrees.mutate host (mutating c List.mem_cons_self)
      have logged := unwritten.publishes agrees.stores.healthy publishes
      have later := ih kept logged fun c' member => mutating c' (List.mem_cons_of_mem c member)
      rw [List.map_cons, runSteps_snd_cons, Tally.after, Tally.published, ← List.append_assoc]
      exact later

end World

/-! ## The wired start -/

/-- Creating the seeds keeps the ledger and the server. -/
theorem Stores.seed_keeps
    {α : Type}
    {f : α × Stores → Catalog.Entry → α × Stores}
    {seeds : List Catalog.Entry}
    {acc result : α × Stores}
    (folded : seeds.foldl f acc = result)
    (creates : ∀ acc e, (f acc e).2 = (acc.2.catalogCall .create fun b c => c.create b e).2) :
    result.2.ledger = acc.2.ledger ∧ result.2.server = acc.2.server := by
  subst folded
  induction seeds generalizing acc with
  | nil => exact ⟨rfl, rfl⟩
  | cons e rest ih =>
      obtain ⟨ledger, server⟩ := @ih (f acc e)
      have created := Stores.catalogCall_keeps .create (fun b c => c.create b e) acc.2
      rw [creates] at ledger server
      exact ⟨ledger.trans created.1, server.trans created.2⟩

/-- The wired service has published nothing: its source is empty and about to replay from the
start, its ledger is empty, and nothing is arranged for the writer. -/
theorem wire_unwritten
    {s : Setup}
    {seeded : List (Except Fault Catalog.Entry)}
    {w : World}
    (calm : s.warmFails = false)
    (publishing : s.source ≠ .silent)
    (wired : wire s = .ok (seeded, w)) :
    w.Unwritten [] := by
  unfold wire at wired
  simp only [calm, Bool.false_eq_true, if_false] at wired
  generalize folded : List.foldl _ _ s.seed = result at wired
  obtain ⟨ledger, server⟩ := Stores.seed_keeps folded fun _ _ => rfl
  split at wired
  · cases wired
  · rename_i pairs stores warmed
    -- a warm-up only queries the catalog
    have kept : stores.ledger = result.2.ledger ∧ stores.server = result.2.server := by
      split at warmed
      · split at warmed
        · rename_i queried
          cases warmed
          have called := Stores.catalogCall_keeps .query (fun b c => c.query b {}) result.2
          rw [queried] at called
          exact called
        · cases warmed
      · cases warmed
        exact ⟨rfl, rfl⟩
    simp only [Except.ok.injEq, Prod.mk.injEq] at wired
    obtain ⟨-, rfl⟩ := wired
    have empty := Ledger.Store.setup_rows (b := { engine := s.engine }) (s := {})
    refine ⟨?_, by rw [kept.1, ledger]; exact empty.1, by rw [kept.1, ledger]; exact empty.2, rfl⟩
    unfold World.Logs
    cases kind : s.source with
    | memory => rfl
    | silent => exact absurd kind publishing
    | stream key count =>
        dsimp only
        rw [kept.2, server]
        exact ⟨rfl, rfl, (by decide : 0 < Redis.startClock),
          (by decide : Redis.startClock ≤ Numeral.unsignedMax), .inl ⟨rfl, rfl⟩⟩

end Service
end Tallykeeper
