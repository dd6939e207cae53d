import Mathlib
import Tallykeeper.Proofs.Service.Registration
import Tallykeeper.Proofs.Service.Counting

/-!
# The counter service refines the map

Every call of a session over the wired service answers what the tally answers, up to the
sentinel of a fault: `session_answers_as_tally`. The proof is a simulation. Wiring creates
the seed entries and yields a service that agrees with the tally of those seeds; each call
answers as the tally does and keeps the agreement (`World.Agrees.step`); so a whole run
does (`World.Agrees.runSteps`).

The agreement needs the catalog's id sequence to have room for the next id: ids are 64-bit
and a creation past the largest one would wrap. A run of fewer calls than the range holds
never gets there. It also needs the change stream, when there is one on the server, to lie
apart from the counts, so that publishing writes no count.
-/

namespace Tallykeeper
namespace Service

open Catalog Cache

/-! ## The id sequence -/

/-- A sequence that stays or moves one up, from below the largest value, moves by at most
one. -/
theorem toInt_le_succ
    {a b : Int64}
    (step : b = a ∨ b = a + 1)
    (room : a.toInt < Int64.maxValue.toInt) :
    b.toInt ≤ a.toInt + 1 := by
  rcases step with rfl | rfl
  · omega
  · have low := a.minValue_le_toInt
    have one : (1 : Int64).toInt = 1 := rfl
    rw [toInt_add_of_fits a 1 (by omega) (by omega), one]

namespace Tally

variable {t : Tally}

theorem create_lastId (t : Tally) (e : Entry) :
    (t.create e).lastId = t.lastId ∨ (t.create e).lastId = t.lastId + 1 := by
  unfold create
  split
  · exact .inr rfl
  · exact .inl rfl

/-- Creating entries hands out at most one id each. -/
theorem foldl_create_lastId
    (seeds : List Entry)
    (room : t.lastId.toInt + seeds.length ≤ Int64.maxValue.toInt) :
    (seeds.foldl create t).lastId.toInt ≤ t.lastId.toInt + seeds.length := by
  induction seeds generalizing t with
  | nil => simp
  | cons e rest ih =>
      simp only [List.length_cons, Nat.cast_add, Nat.cast_one] at room ⊢
      have next := toInt_le_succ (create_lastId t e) (by omega)
      have later := ih (t := t.create e) (by omega)
      simp only [List.foldl_cons]
      omega

/-- Seeds and calls that fit in the 64-bit id range leave the seeds' tally room for every call. -/
theorem seeded_room {seeds : List Entry} {n : Nat} (room : seeds.length + n < 2 ^ 63) :
    (seeded seeds).lastId.toInt + n ≤ Int64.maxValue.toInt := by
  have start : empty.lastId.toInt = 0 := rfl
  have seedRoom := foldl_create_lastId (t := empty) seeds (by
    rw [start, Int64.toInt_maxValue]
    omega)
  rw [start] at seedRoom
  rw [seeded, Int64.toInt_maxValue]
  omega

/-- Creation keeps names distinct: it appends only under a free name. -/
theorem names_create
    (names : (t.entries.map (·.name)).Nodup)
    (e : Entry) :
    ((t.create e).entries.map (·.name)).Nodup := by
  unfold create
  split
  · rename_i accepted
    have outside : e.name ∉ t.entries.map (·.name) := by
      intro member
      obtain ⟨o, inEntries, same⟩ := List.mem_map.mp member
      exact named?_none accepted.2 o inEntries same
    simpa [enroll, made, List.nodup_append, names] using outside
  · exact names

theorem names_seeded
    (seeds : List Entry)
    (names : (t.entries.map (·.name)).Nodup) :
    ((seeds.foldl create t).entries.map (·.name)).Nodup := by
  induction seeds generalizing t with
  | nil => exact names
  | cons e rest ih => exact ih (names_create names e)

end Tally

/-! ## Wiring -/

namespace Stores

variable {s : Stores} {t : Tally}

/-- A creation keeps the agreement with the tally that creates the same entry. -/
theorem Agrees.create
    (agrees : s.Agrees t)
    (room : t.lastId.toInt < Int64.maxValue.toInt)
    (e : Entry) :
    (s.catalogCall .create (fun b c => c.create b e)).2.Agrees (t.create e) := by
  cases sound : e.flaw? with
  | some f =>
      rw [agrees.create_flawed sound]
      simpa [Tally.create, sound] using agrees
  | none =>
      cases taken : named? t.entries e.name with
      | none =>
          obtain ⟨s', created, sAgrees⟩ := agrees.create_fresh room sound taken
          rw [created]
          simpa [Tally.create, sound, taken] using sAgrees
      | some o =>
          -- the name is taken: the store refuses, having readied its table
          have occupied : s.catalog.entries.any (·.name == e.name) = true := by
            rw [agrees.entries]
            obtain ⟨member, same⟩ := named?_some taken
            exact List.any_eq_true.mpr ⟨o, member, by simp [same]⟩
          rw [catalogCall_of_unscripted agrees.unscripted,
            Catalog.Store.create_of_taken agrees.opened agrees.numbered (agrees.lastId ▸ room)
              (Catalog.Entry.validate_of_sound sound) occupied]
          simpa [Tally.create, taken] using agrees.readied

/-- Creating the seeds one after another keeps the agreement with the tally of the seeds. -/
theorem Agrees.seed
    {α : Type}
    {f : α × Stores → Entry → α × Stores}
    {seeds : List Entry}
    {acc result : α × Stores}
    (folded : seeds.foldl f acc = result)
    (creates : ∀ acc e, (f acc e).2 = (acc.2.catalogCall .create fun b c => c.create b e).2)
    (agrees : acc.2.Agrees t)
    (room : t.lastId.toInt + seeds.length ≤ Int64.maxValue.toInt) :
    result.2.Agrees (seeds.foldl Tally.create t) := by
  subst folded
  induction seeds generalizing acc t with
  | nil => exact agrees
  | cons e rest ih =>
      simp only [List.length_cons, Nat.cast_add, Nat.cast_one] at room
      have next := toInt_le_succ (Tally.create_lastId t e) (by omega)
      have created : (f acc e).2.Agrees (t.create e) := by
        rw [creates]
        exact agrees.create (by omega) e
      exact ih created (by omega)

end Stores

/-- A kind of source whose stream, if it has one, lies apart from every count. -/
def SourceKind.Apart : SourceKind → Prop
  | .stream key _ => ∀ k, key ≠ serverKey k
  | _ => True

/-- The stream of a wired source: the asked key, or the default one. -/
theorem SourceKind.Apart.wired
    {key : String}
    (apart : ∀ k, key ≠ serverKey k) :
    ∀ k, (if key.isEmpty then "counter_updates" else key) ≠ serverKey k := by
  intro k
  split
  · intro same
    have first := congrArg (fun s : String => s.toList.head?) same
    simp [serverKey, String.toList_append] at first
  · exact apart k

/-- Before the seeds, the stores are empty tables on an open backend. -/
theorem Stores.Agrees.started (engine : Storage.Engine) (home : CountHome) :
    ({ backend := { engine }
       catalog := ((Catalog.Store.ofEngine engine).setup { engine }).2
       ledger := (Ledger.Store.setup { engine } {}).2
       countHome := home } : Stores).Agrees Tally.empty := by
  have opened : ({ engine } : Storage.Backend).closed = false := by
    simp [Storage.Backend.closed]
  obtain ⟨c0, setup, entries, lastId, numbered⟩ := Catalog.Store.setup_ofEngine opened engine
  rw [setup]
  exact
    { entries := entries
      lastId := lastId
      clock := rfl
      numbered := numbered
      opened := opened
      unscripted := rfl
      healthy := rfl
      counts := by
        intro id userId
        cases home <;> rfl }

/-- Wiring yields a service whose catalog agrees with the tally of the seeds, with an empty
`values` cache and a source whose stream lies apart from the counts when the asked one does. -/
theorem wire_catalogued
    (s : Setup)
    (calm : s.warmFails = false)
    (room : s.seed.length < 2 ^ 63) :
    ∃ seeded w, wire s = .ok (seeded, w) ∧ w.Catalogued (Tally.seeded s.seed) ∧
      w.values = Tiered.create s.valueCapacity ∧ (s.source.Apart → w.source.Apart) := by
  unfold wire
  simp only [calm, Bool.false_eq_true, if_false]
  generalize folded : List.foldl _ _ s.seed = result
  have start : Tally.empty.lastId.toInt = 0 := rfl
  have seeded : result.2.Agrees (Tally.seeded s.seed) :=
    Stores.Agrees.seed folded (fun _ _ => rfl) (Stores.Agrees.started _ _)
      (by rw [start, Int64.toInt_maxValue]; omega)
  have names : ((Tally.seeded s.seed).entries.map (·.name)).Nodup :=
    Tally.names_seeded s.seed List.nodup_nil
  cases warm : s.warm
  case' false =>
    -- no warm-up: the `ids` cache starts empty
    refine ⟨_, _, rfl, ⟨seeded, (Tiered.within_create _).warm [] (by simp)⟩, rfl, ?_⟩
  case' true =>
    -- the warm-up loads every entry's id, which the tally registers under its name
    have pairs : ∀ p ∈ (Tally.seeded s.seed).entries.map (fun e => (e.name, e.id)),
        (Tally.seeded s.seed).Named p.1 p.2 := by
      intro p member
      obtain ⟨e, inEntries, rfl⟩ := List.mem_map.mp member
      have found := named?_of_mem names inEntries
      simp [Tally.Named, Tally.idOf, found]
    simp only [if_true, Stores.catalogCall_of_unscripted seeded.unscripted,
      Catalog.Store.query_of_opened seeded.opened seeded.numbered, Catalog.Query.select_all,
      seeded.entries]
    refine ⟨_, _, rfl, ⟨seeded.readied, (Tiered.within_create _).warm _ pairs⟩, rfl, ?_⟩
  -- either way the source is the asked one with its defaults filled in
  all_goals
    intro apart
    cases kind : s.source with
    | memory => trivial
    | silent => trivial
    | stream key count =>
        rw [kind] at apart
        exact SourceKind.Apart.wired apart

/-- Wiring yields a service that agrees with the tally of the seeds. -/
theorem wire_agrees
    (s : Setup)
    (calm : s.warmFails = false)
    (apart : s.source.Apart)
    (room : s.seed.length < 2 ^ 63) :
    ∃ seeded w, wire s = .ok (seeded, w) ∧ w.Agrees (Tally.seeded s.seed) := by
  obtain ⟨seeded, w, wired, catalogued, values, sourceApart⟩ := wire_catalogued s calm room
  refine ⟨seeded, w, wired, catalogued.stores, catalogued.ids, ?_, sourceApart apart⟩
  rw [values]
  exact Tiered.within_create _

/-! ## Runs -/

theorem reply_fst {α : Type} (shown : α → Reply) (r : Except Fault α × World) :
    (reply shown r).1 = r.1.map shown := by
  obtain ⟨a, w⟩ := r
  cases a <;> rfl

theorem reply_snd {α : Type} (shown : α → Reply) (r : Except Fault α × World) :
    (reply shown r).2 = r.2 := by
  obtain ⟨a, w⟩ := r
  cases a <;> rfl

namespace World

variable {w : World} {t : Tally}

/-- One call answers as the tally does and keeps the agreement. -/
theorem Agrees.step
    (agrees : w.Agrees t)
    (room : t.lastId.toInt < Int64.maxValue.toInt)
    (host : String)
    (c : Call) :
    Service.Answers (runStep host c.step w).1 (t.step c).1 ∧
      (runStep host c.step w).2.Agrees (t.step c).2 := by
  cases c with
  | register name description defaultValue =>
      obtain ⟨answered, kept⟩ := register_of_agrees agrees room name description defaultValue
      simp only [Call.step, runStep, reply_fst, reply_snd]
      exact ⟨answered.map _, kept⟩
  | update id p =>
      obtain ⟨answered, kept⟩ := catalogUpdate_of_agrees agrees id p
      simp only [Call.step, runStep, reply_fst, reply_snd]
      exact ⟨answered.map _, kept⟩
  | increment name userId delta =>
      obtain ⟨answered, kept, -⟩ := counterIncrement_of_agrees agrees name userId delta
      simp only [Call.step, runStep, reply_fst, reply_snd]
      exact ⟨answered.map _, kept⟩
  | reset name userId =>
      obtain ⟨answered, kept, -⟩ := counterReset_of_agrees agrees name userId
      simp only [Call.step, runStep, reply_fst, reply_snd]
      exact ⟨answered.map _, kept⟩
  | get name userId =>
      obtain ⟨answered, kept⟩ := counterGet_of_agrees agrees name userId
      simp only [Call.step, runStep, reply_fst, reply_snd]
      exact ⟨answered.map _, kept⟩
  | expire cache key =>
      cases cache with
      | ids => exact ⟨answers_ok _, agrees.invalidateIds (.ofString key)⟩
      | values => exact ⟨answers_ok _, agrees.invalidateValues key⟩

/-- A run of calls answers as the tally does, while the id sequence has room for every
call. -/
theorem Agrees.runSteps
    (agrees : w.Agrees t)
    (host : String)
    (calls : List Call)
    (room : t.lastId.toInt + calls.length ≤ Int64.maxValue.toInt) :
    (runSteps host (calls.map Call.step) w).1.map (Except.mapError Fault.sentinel?) =
      (t.answers calls).map (Except.mapError some) := by
  induction calls generalizing w t with
  | nil => rfl
  | cons c rest ih =>
      simp only [List.length_cons, Nat.cast_add, Nat.cast_one] at room
      obtain ⟨answered, kept⟩ := agrees.step (by omega) host c
      have next := toInt_le_succ (Tally.step_lastId t c) (by omega)
      have later := ih kept (by omega)
      simp only [List.map_cons, Service.runSteps, Tally.answers]
      rw [later]
      exact congrArg (· :: _) answered

end World

/-- A session over the wired counter service answers every call as the tally of its seeds
does, faults compared by sentinel; whether the counts live in memory or on the server
under any codec, for any cache capacities and any expiry of cached pairs. The seeds and
calls are fewer than the 64-bit id range holds, the warm-up query is not made to fail, and
a change stream on the server lies apart from the counts. -/
theorem session_answers_as_tally
    (s : Setup)
    (calls : List Call)
    (calm : s.warmFails = false)
    (apart : s.source.Apart)
    (room : s.seed.length + calls.length < 2 ^ 63) :
    (session s (calls.map Call.step)).map (fun r => r.2.map (Except.mapError Fault.sentinel?)) =
      .ok ((Tally.answers calls (Tally.seeded s.seed)).map (Except.mapError some)) := by
  obtain ⟨seeded, w, wired, agrees⟩ := wire_agrees s calm apart (by omega)
  simp only [session, wired, Except.map]
  rw [agrees.runSteps s.host calls (Tally.seeded_room room)]

/-- Counts on the server under the binary codec, published to the default stream. -/
def binaryOnServer : Setup :=
  { countsOnServer := true, valueCodec := .binary, source := .stream "" 0 }

theorem binaryOnServer_answers_as_tally :
    binaryOnServer.warmFails = false ∧ binaryOnServer.source.Apart ∧
      binaryOnServer.seed.length +
          [Call.register (.ofString "likes") .empty 0,
            Call.increment (.ofString "likes") 7 5].length <
        2 ^ 63 ∧
      (session binaryOnServer
          ([Call.register (.ofString "likes") .empty 0,
            Call.increment (.ofString "likes") 7 5].map Call.step)).map
          (fun r => r.2.map (Except.mapError Fault.sentinel?)) =
        .ok ((Tally.answers
          [Call.register (.ofString "likes") .empty 0, Call.increment (.ofString "likes") 7 5]
          (Tally.seeded binaryOnServer.seed)).map (Except.mapError some)) := by
  have calm : binaryOnServer.warmFails = false := rfl
  have apart : binaryOnServer.source.Apart := by
    intro k same
    have first := congrArg (fun s : String => s.toList.head?) same
    simp [serverKey, String.toList_append] at first
  have room : binaryOnServer.seed.length +
      [Call.register (.ofString "likes") .empty 0,
        Call.increment (.ofString "likes") 7 5].length < 2 ^ 63 := by
    decide
  exact ⟨calm, apart, room, session_answers_as_tally binaryOnServer _ calm apart room⟩

end Service
end Tallykeeper
