import Mathlib
import Tallykeeper.Proofs.Service.Tally
import Tallykeeper.Proofs.Count.Home
import Tallykeeper.Proofs.Cache.Coherence

/-!
# When the wired service agrees with the map

The wired service agrees with a `Tally` when its catalog holds the tally's entries and
sequence, every store answers, every pair's value is held under its counter key, and the
two caches hold nothing the tally does not: the `ids` cache only registered names with
their ids, the `values` cache only counter keys with their pairs' values. A change source
on the server keeps its stream apart from the counts.

What stays the same under this agreement is collected here: answers are compared by
sentinel, a name resolves to its registered id, publishing and dropping a cached pair
change nothing the tally sees.

The change log sees a call from the other side: a world stays `Aside` of its log when the
source, the ledger and the server's stream are as they were, and a call `Publishes` an
event when it leaves the world aside and then publishes that event.
-/

namespace Tallykeeper
namespace Service

open Catalog Cache
open Text (ByteString)

/-- A service answer matches a model answer: the same value, or a fault under the same
sentinel. -/
def Answers {α : Type} (r : Except Fault α) (a : Except Sentinel α) : Prop :=
  r.mapError Fault.sentinel? = a.mapError some

theorem answers_ok {α : Type} (v : α) : Answers (.ok v) (.ok v) := rfl

theorem answers_error
    {α : Type}
    {f : Fault}
    {s : Sentinel}
    (is : f.is s = true) :
    Answers (α := α) (.error f) (.error s) := by
  have same : f.sentinel? = some s := by simpa [Fault.is] using is
  simp [Answers, Except.mapError, same]

theorem Answers.map
    {α β : Type}
    {r : Except Fault α}
    {a : Except Sentinel α}
    (answers : Answers r a)
    (g : α → β) :
    Answers (r.map g) (a.map g) := by
  cases r <;> cases a <;> simp_all [Answers, Except.mapError, Except.map]

/-! ## The relations -/

namespace Tally

/-- A name registered under an id. -/
def Named (t : Tally) (name : ByteString) (id : Int64) : Prop :=
  t.idOf name = some id

/-- A counter key whose pair holds a value. -/
def Counted (t : Tally) (key : String) (v : Int64) : Prop :=
  ∃ id userId, key = counterKey id userId ∧ t.counts (id, userId) = some v

end Tally

namespace Stores

/-- The stores agree with a tally: the catalog holds its entries and sequence, numbered,
the backend's clock reads as the tally's, every store answers, and each pair's value is held
under its counter key. -/
structure Agrees (s : Stores) (t : Tally) : Prop where
  entries : s.catalog.entries = t.entries
  lastId : s.catalog.lastId = t.lastId
  clock : s.backend.clock = t.clock
  numbered : s.catalog.Numbered
  opened : s.backend.closed = false
  unscripted : s.script.pending = []
  healthy : s.server.ready = .ok ()
  counts : ∀ id userId, s.holds (counterKey id userId) (t.counts (id, userId))

variable {s : Stores} {t : Tally}

/-- With no failure queued, a catalog call is the store method itself. -/
theorem catalogCall_of_unscripted
    {α : Type}
    (unscripted : s.script.pending = [])
    (m : Method)
    (op : Storage.Backend → Catalog.Store → Except Fault α × Catalog.Store) :
    s.catalogCall m op =
      ((op s.backend s.catalog).1, { s with catalog := (op s.backend s.catalog).2 }) := by
  have untouched : s.script.take m = (none, s.script) := by
    simp [Script.take, unscripted, Script.takeFirst]
  simp [catalogCall, untouched]

/-- A catalog call changes the catalog and its queued failures alone. -/
theorem catalogCall_keeps
    {α : Type}
    (m : Method)
    (op : Storage.Backend → Catalog.Store → Except Fault α × Catalog.Store)
    (s : Stores) :
    (s.catalogCall m op).2.ledger = s.ledger ∧ (s.catalogCall m op).2.server = s.server := by
  unfold catalogCall
  split
  · exact ⟨rfl, rfl⟩
  · exact ⟨rfl, rfl⟩

theorem Agrees.readied (agrees : s.Agrees t) :
    ({ s with catalog := s.catalog.readied } : Stores).Agrees t where
  entries := by simp [agrees.entries]
  lastId := by simp [agrees.lastId]
  clock := agrees.clock
  numbered := agrees.numbered.readied
  opened := agrees.opened
  unscripted := agrees.unscripted
  healthy := agrees.healthy
  counts := agrees.counts

/-- A lookup by name answers the entry registered under it and only readies the table. -/
theorem lookup_of_agrees (agrees : s.Agrees t) (name : ByteString) :
    s.catalogCall .get (fun b c => c.get b name) =
      ((named? t.entries name).elim (.error (missingName name)) .ok,
        { s with catalog := s.catalog.readied }) := by
  rw [catalogCall_of_unscripted agrees.unscripted,
    Catalog.Store.get_of_opened agrees.opened agrees.numbered, agrees.entries]

/-- The `ids` cache loads a name's id from the catalog; absence reads as a missing key. -/
theorem loadId_of_agrees (agrees : s.Agrees t) (name : ByteString) :
    loadId name s =
      ((t.idOf name).elim (.error (.bare .keyNotFound)) .ok,
        { s with catalog := s.catalog.readied }) := by
  rw [loadId, lookup_of_agrees agrees]
  unfold Tally.idOf
  cases named? t.entries name with
  | none => rfl
  | some e => rfl

/-- Writing the server at a key that is no count's keeps the agreement. -/
theorem Agrees.server_store
    (agrees : s.Agrees t)
    {key : String}
    (apart : ∀ k, key ≠ serverKey k)
    (d : Redis.Datum) :
    ({ s with server := s.server.store key d } : Stores).Agrees t where
  entries := agrees.entries
  lastId := agrees.lastId
  clock := agrees.clock
  numbered := agrees.numbered
  opened := agrees.opened
  unscripted := agrees.unscripted
  healthy := by simpa using agrees.healthy
  counts := by
    intro id userId
    have held := agrees.counts id userId
    cases home : s.countHome with
    | memory =>
        simp only [holds, home] at held ⊢
        exact held
    | server c =>
        have elsewhere : serverKey (counterKey id userId) ≠ key :=
          fun same => apart (counterKey id userId) same.symm
        simp only [holds, home] at held ⊢
        simpa [elsewhere] using held

end Stores

/-- A change source whose stream, if it has one, lies apart from every count. -/
def Source.Apart : Source → Prop
  | .stream src => ∀ key, src.key ≠ serverKey key
  | _ => True

namespace World

/-- The wired service agrees with a tally. -/
structure Agrees (w : World) (t : Tally) : Prop where
  stores : w.stores.Agrees t
  ids : w.ids.Within t.Named
  values : w.values.Within t.Counted
  apart : w.source.Apart

variable {w : World} {t : Tally}

theorem onStores_eq {α : Type} (op : Stores → α × Stores) :
    w.onStores op = ((op w.stores).1, { w with stores := (op w.stores).2 }) :=
  rfl

theorem resolveId_eq (name : ByteString) :
    w.resolveId name =
      ((w.ids.get idsDelegate name w.stores).1,
        { w with
          ids := (w.ids.get idsDelegate name w.stores).2.1
          stores := (w.ids.get idsDelegate name w.stores).2.2 }) :=
  rfl

/-- The catalog half of the agreement: the stores agree with the tally and the `ids` cache
holds only registered names with their ids. Catalog calls need nothing more. -/
structure Catalogued (w : World) (t : Tally) : Prop where
  stores : w.stores.Agrees t
  ids : w.ids.Within t.Named

theorem Agrees.catalogued (agrees : w.Agrees t) : w.Catalogued t :=
  ⟨agrees.stores, agrees.ids⟩

/-- A catalog call that leaves the `values` cache, the source and the counts as they were
keeps the whole agreement. -/
theorem Catalogued.agrees
    {w' : World}
    {t' : Tally}
    (catalogued : w'.Catalogued t')
    (agrees : w.Agrees t)
    (values : w'.values = w.values)
    (source : w'.source = w.source)
    (counts : t'.counts = t.counts) :
    w'.Agrees t' where
  stores := catalogued.stores
  ids := catalogued.ids
  values := by
    have counted : t'.Counted = t.Counted := by
      funext key v
      simp [Tally.Counted, counts]
    rw [values, counted]
    exact agrees.values
  apart := by
    rw [source]
    exact agrees.apart

/-- Resolving a name changes nothing but what the `ids` read changes. -/
theorem resolve_snd (name : ByteString) : (resolve name w).2 = (w.resolveId name).2 := by
  unfold resolve
  split
  · rename_i read
    rw [read]
  · rename_i read
    split <;> rw [read]

/-- A name resolves through the cache to the id the tally registers for it, and only the
cache and the table's readiness change. -/
theorem resolve_of_catalogued (catalogued : w.Catalogued t) (name : ByteString) :
    (resolve name w).1 = (t.idOf name).elim (.error (unregistered name)) .ok ∧
      (resolve name w).2.Catalogued t := by
  have loaded := Stores.loadId_of_agrees catalogued.stores name
  have answered : (w.resolveId name).1 = (t.idOf name).elim (.error (.bare .keyNotFound)) .ok := by
    rw [resolveId_eq, Tiered.get_fst_of_within catalogued.ids]
    · simp [idsDelegate, loaded]
    · intro id named
      simp only [Tally.Named] at named
      simp [idsDelegate, loaded, named]
  have kept : (w.resolveId name).2.Catalogued t := by
    rw [resolveId_eq]
    refine ⟨?_, ?_⟩
    · show (w.ids.get idsDelegate name w.stores).2.2.Agrees t
      apply Tiered.get_snd_snd (fun s : Stores => s.Agrees t) catalogued.stores
      simpa [idsDelegate, loaded] using catalogued.stores.readied
    · apply catalogued.ids.get
      intro id read
      cases found : t.idOf name <;> simp_all [idsDelegate, Tally.Named]
  unfold resolve
  cases read : w.resolveId name with
  | mk r w' =>
      rw [read] at answered kept
      cases found : t.idOf name with
      | none =>
          simp only [found, Option.elim_none] at answered
          subst answered
          exact ⟨rfl, kept⟩
      | some id =>
          simp only [found, Option.elim_some] at answered
          subst answered
          exact ⟨rfl, kept⟩

/-- A name resolves through the cache to the id the tally registers for it, and only the
cache and the table's readiness change. -/
theorem resolve_of_agrees (agrees : w.Agrees t) (name : ByteString) :
    (resolve name w).1 = (t.idOf name).elim (.error (unregistered name)) .ok ∧
      (resolve name w).2.Agrees t := by
  obtain ⟨answered, kept⟩ := resolve_of_catalogued agrees.catalogued name
  have values : (resolve name w).2.values = w.values := by
    rw [resolve_snd, resolveId_eq]
  have source : (resolve name w).2.source = w.source := by
    rw [resolve_snd, resolveId_eq]
  exact ⟨answered, kept.agrees agrees values source rfl⟩

/-- Publishing changes at most the source and the stream's own key. -/
theorem Agrees.propagate (agrees : w.Agrees t) (e : Event) : (w.propagate e).2.Agrees t := by
  unfold World.propagate
  split
  · exact ⟨agrees.stores, agrees.ids, agrees.values, trivial⟩
  · exact agrees
  · rename_i src stream
    have apart : ∀ key, src.key ≠ serverKey key := by
      have := agrees.apart
      rw [stream] at this
      exact this
    -- the source answers what the append answers, and the server is the append's
    have appended : (src.propagate w.eventCodec e w.stores.server).2 =
        (w.stores.server.xadd src.key
          ((w.eventCodec.encode e).map fun field => (field.1, field.2.wire))).2 := by
      unfold Change.StreamSource.propagate
      split <;> simp_all
    refine ⟨?_, agrees.ids, agrees.values, agrees.apart⟩
    show ({ w.stores with server := (src.propagate w.eventCodec e w.stores.server).2 } :
      Stores).Agrees t
    rw [appended]
    rcases Redis.Server.xadd_snd src.key _ w.stores.server with same | ⟨d, stored⟩
    · rw [same]
      exact agrees.stores
    · rw [stored]
      exact agrees.stores.server_store apart d

theorem Agrees.invalidateIds (agrees : w.Agrees t) (key : ByteString) :
    ({ w with ids := w.ids.invalidate key } : World).Agrees t :=
  ⟨agrees.stores, agrees.ids.invalidate fun _ _ _ named => named, agrees.values, agrees.apart⟩

theorem Agrees.invalidateValues (agrees : w.Agrees t) (key : String) :
    ({ w with values := w.values.invalidate key } : World).Agrees t :=
  ⟨agrees.stores, agrees.ids, agrees.values.invalidate fun _ _ _ counted => counted,
    agrees.apart⟩

/-! ## Away from the change log -/

variable {w' w'' : World}

/-- The world changed away from its change log: the source and its codec, the ledger, the
writer's arrangements and the server's clock and readiness are as they were, and so is the
server at the source's stream. -/
structure Aside (w w' : World) : Prop where
  source : w'.source = w.source
  eventCodec : w'.eventCodec = w.eventCodec
  ledger : w'.stores.ledger = w.stores.ledger
  writerFaults : w'.writerFaults = w.writerFaults
  now : w'.stores.server.now = w.stores.server.now
  ready : w'.stores.server.ready = w.stores.server.ready
  stream : ∀ src, w.source = .stream src →
    w'.stores.server.find? src.key = w.stores.server.find? src.key

theorem Aside.trans (first : Aside w w') (second : Aside w' w'') : Aside w w'' where
  source := second.source.trans first.source
  eventCodec := second.eventCodec.trans first.eventCodec
  ledger := second.ledger.trans first.ledger
  writerFaults := second.writerFaults.trans first.writerFaults
  now := second.now.trans first.now
  ready := second.ready.trans first.ready
  stream := by
    intro src source
    rw [second.stream src (first.source.trans source), first.stream src source]

/-- A step of the caches and the catalog keeps the world aside of its change log. -/
theorem Aside.of_stores
    (source : w'.source = w.source)
    (eventCodec : w'.eventCodec = w.eventCodec)
    (writerFaults : w'.writerFaults = w.writerFaults)
    (ledger : w'.stores.ledger = w.stores.ledger)
    (server : w'.stores.server = w.stores.server) :
    Aside w w' :=
  ⟨source, eventCodec, ledger, writerFaults, by rw [server], by rw [server],
    fun _ _ => by rw [server]⟩

/-- Resolving a name reads the catalog through the `ids` cache and keeps the world aside of its
change log. -/
theorem resolve_aside (name : ByteString) (w : World) : Aside w (resolve name w).2 := by
  have kept := Tiered.get_snd_snd (t := w.ids) (d := idsDelegate) (k := name)
    (fun s : Stores => s.ledger = w.stores.ledger ∧ s.server = w.stores.server) ⟨rfl, rfl⟩ (by
      show (Stores.loadId name w.stores).2.ledger = _ ∧ (Stores.loadId name w.stores).2.server = _
      have called := Stores.catalogCall_keeps .get (fun b c => c.get b name) w.stores
      unfold Stores.loadId
      split <;> rename_i loaded <;> rw [loaded] at called <;> exact called)
  rw [resolve_snd, resolveId_eq]
  exact Aside.of_stores rfl rfl rfl kept.1 kept.2

/-- A name the tally does not hold resolves to not found; the world still agrees and is
aside of the one before. -/
theorem resolve_of_unregistered
    (agrees : w.Agrees t)
    {name : ByteString}
    (found : t.idOf name = none) :
    ∃ w1, resolve name w = (.error (unregistered name), w1) ∧ w1.Agrees t ∧ Aside w w1 := by
  obtain ⟨resolved, kept⟩ := resolve_of_agrees agrees name
  rw [found, Option.elim_none] at resolved
  exact ⟨_, by rw [← resolved], kept, resolve_aside name w⟩

/-- A name the tally holds resolves to its id; the world still agrees and is aside of the one
before. -/
theorem resolve_of_registered
    (agrees : w.Agrees t)
    {name : ByteString}
    {id : Int64}
    (found : t.idOf name = some id) :
    ∃ w1, resolve name w = (.ok id, w1) ∧ w1.Agrees t ∧ Aside w w1 := by
  obtain ⟨resolved, kept⟩ := resolve_of_agrees agrees name
  rw [found, Option.elim_some] at resolved
  exact ⟨_, by rw [← resolved], kept, resolve_aside name w⟩

/-- Changing one count keeps the world aside of its change log, as no count's server key is
the stream's. -/
theorem Aside.counted
    {key : String}
    {s : Stores}
    (apart : w.source.Apart)
    (only : Stores.CountOnly key w.stores s)
    (values : Tiered String Int64) :
    Aside w { w with stores := s, values } where
  source := rfl
  eventCodec := rfl
  ledger := only.ledger
  writerFaults := rfl
  now := only.server.now
  ready := only.server.ready
  stream := by
    intro src source
    have elsewhere : src.key ≠ serverKey key := by
      have streamApart := apart
      rw [source] at streamApart
      exact streamApart key
    exact only.server.others src.key elsewhere

/-- The world after a call that publishes `e?`: one aside of `w`, with `e?` published there. -/
def Publishes (w w₁ : World) (e? : Option Event) : Prop :=
  ∃ w', Aside w w' ∧ w₁ = e?.elim w' fun e => (w'.propagate e).2

end World

/-- Caching an entry's id always succeeds and touches only the `ids` tier. -/
theorem cacheEntry_eq (e : Entry) (w : World) :
    cacheEntry e w =
      (.ok e, { w with ids := { w.ids with tier := w.ids.tier.add e.name e.id } }) :=
  rfl

/-- Caching the id a tally registers for a name keeps the catalog in agreement. -/
theorem World.Catalogued.cacheEntry
    {w : World}
    {t : Tally}
    (catalogued : w.Catalogued t)
    {e : Entry}
    (named : t.Named e.name e.id) :
    (cacheEntry e w).2.Catalogued t := by
  rw [cacheEntry_eq]
  exact ⟨catalogued.stores, catalogued.ids.add named fun _ _ _ kept => kept⟩

end Service
end Tallykeeper
