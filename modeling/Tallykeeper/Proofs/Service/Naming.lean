import Mathlib
import Tallykeeper.Proofs.Service.Refinement
import Tallykeeper.Proofs.Catalog.Run

/-!
# Names resolve as the catalog says

The `ids` cache in front of the catalog has a delegate that only reads, so nothing below the
service keeps it right: registration must cache the id of the entry it answers, and an update
that renames an entry must drop the old name before caching the new one. This module shows
that it does. Through any run of registrations, updates, resolutions, lookups, listings and
expiries of cached names, over either engine, with or without warm-up and with any capacity,
the service keeps its catalog in agreement with the tally and the catalog's names distinct
(`World.Indexed`). From that, in every state of such a run (`CatalogCoherent`):

* a name resolves to an id exactly when the durable catalog holds an entry with that name and
  id, and is reported unregistered exactly when it holds none;
* registering a registered name answers its stored entry and changes no entry;
* a registration or an update that fails leaves the durable catalog and the `ids` cache as
  they were.

Renames, renames back and swaps of names between entries are all runs of updates, so they are
covered too.
-/

namespace Tallykeeper
namespace Service

open Catalog Cache

/-- A call on the catalog through the service. -/
inductive CatalogCall
  | register (name description : Text.ByteString) (defaultValue : Int64)
  | update (id : Int64) (patch : Patch)
  | resolve (name : Text.ByteString)
  | get (name : Text.ByteString)
  | list
  /-- A cached name dropped by its time to live or by an eviction. -/
  | expire (name : String)

namespace CatalogCall

/-- The session step that makes a call. -/
def step : CatalogCall → Step
  | .register name description defaultValue => .register name description defaultValue
  | .update id patch => .catalogUpdate id patch
  | .resolve name => .resolve name
  | .get name => .catalogGet name
  | .list => .catalogList
  | .expire name => .invalidate .ids name

/-- The tally after a call: registrations and updates may change it, the other calls read. -/
def tally (t : Tally) : CatalogCall → Tally
  | .register name description defaultValue => (t.register name description defaultValue).2
  | .update id patch => (t.update id patch).2
  | _ => t

end CatalogCall

/-! ## The tally's names -/

namespace Tally

variable {t : Tally}

theorem register_snd (name description : Text.ByteString) (defaultValue : Int64) :
    (t.register name description defaultValue).2 = t.create { name, description, defaultValue } := by
  unfold register create
  cases found : named? t.entries name with
  | some e => simp
  | none =>
      cases flawed : ({ name, description, defaultValue } : Entry).flaw? with
      | some f => simp [flawed]
      | none => simp [flawed]

/-- A refused registration leaves the tally as it was. -/
theorem register_of_error
    {name description : Text.ByteString}
    {defaultValue : Int64}
    {s : Sentinel}
    (refused : (t.register name description defaultValue).1 = .error s) :
    (t.register name description defaultValue).2 = t := by
  unfold register at refused ⊢
  cases found : named? t.entries name with
  | some e => simp [found] at refused
  | none =>
      cases flawed : ({ name, description, defaultValue } : Entry).flaw? with
      | some f => simp [flawed]
      | none => simp [found, flawed] at refused

/-- A refused update leaves the tally as it was. -/
theorem update_of_error
    {id : Int64}
    {p : Patch}
    {s : Sentinel}
    (refused : (t.update id p).1 = .error s) :
    (t.update id p).2 = t := by
  unfold update at refused ⊢
  by_cases empty : p.isEmpty = true
  · simp [empty]
  · cases found : withId? t.entries id with
    | none => simp [empty]
    | some current =>
        by_cases rejected : (p.apply current).flaw?.isSome ∨
            ∃ o ∈ t.entries, o.id ≠ id ∧ o.name = (p.apply current).name
        · simp only [empty, rejected, if_true, Bool.false_eq_true, if_false]
        · simp [empty, found, rejected] at refused

/-- Registration keeps the names distinct. -/
theorem names_register
    (names : (t.entries.map (·.name)).Nodup)
    (name description : Text.ByteString)
    (defaultValue : Int64) :
    ((t.register name description defaultValue).2.entries.map (·.name)).Nodup := by
  rw [register_snd]
  exact names_create names _

/-- An update keeps the names distinct: it replaces the one entry of its id, under a name no
other entry holds. -/
theorem names_update
    (names : (t.entries.map (·.name)).Nodup)
    (ids : (t.entries.map (·.id)).Nodup)
    (id : Int64)
    (p : Patch) :
    ((t.update id p).2.entries.map (·.name)).Nodup := by
  unfold update
  by_cases empty : p.isEmpty = true
  · simpa [empty] using names
  · cases found : withId? t.entries id with
    | none => simpa [empty, found] using names
    | some current =>
        by_cases rejected : (p.apply current).flaw?.isSome ∨
            ∃ o ∈ t.entries, o.id ≠ id ∧ o.name = (p.apply current).name
        · simpa [empty, found, rejected] using names
        · have free : ∀ o ∈ t.entries, o.id ≠ id → o.name ≠ (p.apply current).name :=
            fun o member other same => rejected (.inr ⟨o, member, other, same⟩)
          simp only [empty, rejected, Bool.false_eq_true, if_false]
          exact names_rewrite names ids free

theorem tally_lastId (t : Tally) (c : CatalogCall) :
    (c.tally t).lastId = t.lastId ∨ (c.tally t).lastId = t.lastId + 1 := by
  cases c with
  | register name description defaultValue =>
      exact step_lastId t (.register name description defaultValue)
  | update id p => exact step_lastId t (.update id p)
  | resolve => exact .inl rfl
  | get => exact .inl rfl
  | list => exact .inl rfl
  | expire => exact .inl rfl

end Tally

/-! ## Answers -/

theorem Answers.eq_ok {α : Type} {r : Except Fault α} {v : α} (answers : Answers r (.ok v)) :
    r = .ok v := by
  cases r with
  | ok w =>
      simp only [Answers, Except.mapError] at answers
      rw [Except.ok.inj answers]
  | error f => cases answers

theorem Answers.error_of_error
    {α : Type}
    {f : Fault}
    {a : Except Sentinel α}
    (answers : Answers (.error f) a) :
    ∃ s, a = .error s := by
  cases a with
  | ok v => cases answers
  | error s => exact ⟨s, rfl⟩

/-! ## The service keeps its catalog indexed -/

namespace World

variable {w : World} {t : Tally}

/-- The catalog agrees with the tally, whose names are distinct: the `ids` cache then indexes
the durable catalog. -/
structure Indexed (w : World) (t : Tally) : Prop where
  catalogued : w.Catalogued t
  names : (t.entries.map (·.name)).Nodup

theorem Indexed.ids (indexed : w.Indexed t) : (t.entries.map (·.id)).Nodup := by
  rw [← indexed.catalogued.stores.entries]
  exact indexed.catalogued.stores.numbered.numbering.distinct

/-- A failed registration touches neither the `ids` cache: only a success caches an id. -/
theorem register_ids_of_error
    {name description : Text.ByteString}
    {defaultValue : Int64}
    {f : Fault}
    (failed : (register name description defaultValue w).1 = .error f) :
    (register name description defaultValue w).2.ids = w.ids := by
  -- every path that caches an id answers its entry
  revert failed
  simp only [register, cacheEntry_eq, World.onStores_eq]
  repeat' split
  all_goals
    intro failed
    simp only [Prod.mk.injEq] at *
    try casesm* _ ∧ _
    subst_vars
    simp_all

/-- A failed update touches no cached name. -/
theorem catalogUpdate_ids_of_error
    {id : Int64}
    {p : Patch}
    {f : Fault}
    (failed : (catalogUpdate id p w).1 = .error f) :
    (catalogUpdate id p w).2.ids = w.ids := by
  revert failed
  simp only [catalogUpdate, cacheEntry_eq, World.onStores_eq, forgetId_eq]
  repeat' split
  all_goals
    intro failed
    simp only [Prod.mk.injEq] at *
  all_goals
    try casesm* _ ∧ _
    subst_vars
    simp_all

/-- Reading an entry from the store only readies the table. -/
theorem catalogGet_of_catalogued (catalogued : w.Catalogued t) (name : Text.ByteString) :
    (catalogGet name w).2.Catalogued t := by
  have looked := Stores.lookup_of_agrees catalogued.stores name
  have readied : ({ w with stores := { w.stores with
      catalog := w.stores.catalog.readied } } : World).Catalogued t :=
    ⟨catalogued.stores.readied, catalogued.ids⟩
  unfold catalogGet
  rw [onStores_eq, looked]
  cases named? t.entries name with
  | none =>
      split
      · rename_i f w' read
        cases read
      · rename_i f w' read
        simp only [Option.elim_none, Prod.mk.injEq] at read
        rw [← read.2]
        split <;> exact readied
  | some e =>
      split
      · rename_i e' w' read
        simp only [Option.elim_some, Prod.mk.injEq] at read
        rw [← read.2]
        exact readied
      · rename_i f w' read
        cases read

/-- Listing the entries only readies the table. -/
theorem catalogList_of_catalogued (catalogued : w.Catalogued t) :
    catalogList w = (.ok t.entries, { w with stores := { w.stores with
      catalog := w.stores.catalog.readied } }) ∧
      (catalogList w).2.Catalogued t := by
  have listed : w.stores.catalogCall .query (fun b c => c.query b {}) =
      (.ok t.entries, { w.stores with catalog := w.stores.catalog.readied }) := by
    rw [Stores.catalogCall_of_unscripted catalogued.stores.unscripted,
      Catalog.Store.query_of_opened catalogued.stores.opened catalogued.stores.numbered,
      Query.select_all, catalogued.stores.entries]
  have answered : catalogList w = (.ok t.entries, { w with stores := { w.stores with
      catalog := w.stores.catalog.readied } }) := by
    simp [catalogList, onStores_eq, listed]
  rw [answered]
  exact ⟨rfl, catalogued.stores.readied, catalogued.ids⟩

/-- One catalog call keeps the catalog indexed, with the tally moved as the call moves it. -/
theorem Indexed.step
    (indexed : w.Indexed t)
    (room : t.lastId.toInt < Int64.maxValue.toInt)
    (host : String)
    (c : CatalogCall) :
    (runStep host c.step w).2.Indexed (c.tally t) := by
  have catalogued := indexed.catalogued
  cases c with
  | register name description defaultValue =>
      obtain ⟨-, kept⟩ := register_of_catalogued catalogued room name description defaultValue
      simp only [CatalogCall.step, CatalogCall.tally, runStep, reply_snd]
      exact ⟨kept, Tally.names_register indexed.names name description defaultValue⟩
  | update id p =>
      obtain ⟨-, kept⟩ := catalogUpdate_of_catalogued catalogued id p
      simp only [CatalogCall.step, CatalogCall.tally, runStep, reply_snd]
      exact ⟨kept, Tally.names_update indexed.names indexed.ids id p⟩
  | resolve name =>
      simp only [CatalogCall.step, CatalogCall.tally, runStep, reply_snd]
      exact ⟨(resolve_of_catalogued catalogued name).2, indexed.names⟩
  | get name =>
      simp only [CatalogCall.step, CatalogCall.tally, runStep, reply_snd]
      exact ⟨catalogGet_of_catalogued catalogued name, indexed.names⟩
  | list =>
      simp only [CatalogCall.step, CatalogCall.tally, runStep, reply_snd]
      exact ⟨(catalogList_of_catalogued catalogued).2, indexed.names⟩
  | expire key =>
      exact ⟨⟨catalogued.stores, catalogued.ids.invalidate fun _ _ _ named => named⟩,
        indexed.names⟩

/-- A run of catalog calls keeps the catalog indexed while the id sequence has room for every
call, and hands out at most one id per call. -/
theorem Indexed.run
    (indexed : w.Indexed t)
    (host : String)
    (calls : List CatalogCall)
    (room : t.lastId.toInt + calls.length ≤ Int64.maxValue.toInt) :
    (runSteps host (calls.map CatalogCall.step) w).2.Indexed (calls.foldl CatalogCall.tally t) ∧
      (calls.foldl CatalogCall.tally t).lastId.toInt ≤ t.lastId.toInt + calls.length := by
  induction calls generalizing w t with
  | nil => exact ⟨indexed, by simp⟩
  | cons c rest ih =>
      simp only [List.length_cons, Nat.cast_add, Nat.cast_one] at room ⊢
      have kept := indexed.step (by omega) host c
      have next := toInt_le_succ (Tally.tally_lastId t c) (by omega)
      obtain ⟨later, grown⟩ := ih kept (by omega)
      exact ⟨later, by simp only [List.foldl_cons]; omega⟩

end World

/-! ## What callers see -/

/-- What callers of the catalog may rely on in a state of the service. -/
structure CatalogCoherent (w : World) : Prop where
  /-- A name resolves to an id exactly when the durable catalog holds an entry with that name
  and that id. -/
  resolves : ∀ name id, (resolve name w).1 = .ok id ↔
    ∃ e ∈ w.stores.catalog.entries, e.name = name ∧ e.id = id
  /-- A name is reported unregistered exactly when the durable catalog holds no entry with
  that name. -/
  unknown : ∀ name, (resolve name w).1 = .error (unregistered name) ↔
    ∀ e ∈ w.stores.catalog.entries, e.name ≠ name
  /-- Registering a registered name answers its stored entry and changes no entry. -/
  registered : ∀ e ∈ w.stores.catalog.entries, ∀ description defaultValue,
    (register e.name description defaultValue w).1 = .ok e ∧
      (register e.name description defaultValue w).2.stores.catalog.entries =
        w.stores.catalog.entries ∧
      (register e.name description defaultValue w).2.stores.catalog.lastId =
        w.stores.catalog.lastId
  /-- A failed registration leaves the durable catalog and the `ids` cache as they were. -/
  registerFails : ∀ name description defaultValue f,
    (register name description defaultValue w).1 = .error f →
      (register name description defaultValue w).2.stores.catalog.entries =
        w.stores.catalog.entries ∧
      (register name description defaultValue w).2.stores.catalog.lastId =
        w.stores.catalog.lastId ∧
      (register name description defaultValue w).2.ids = w.ids
  /-- A failed update leaves the durable catalog and the `ids` cache as they were. -/
  updateFails : ∀ id p f, (catalogUpdate id p w).1 = .error f →
    (catalogUpdate id p w).2.stores.catalog.entries = w.stores.catalog.entries ∧
      (catalogUpdate id p w).2.stores.catalog.lastId = w.stores.catalog.lastId ∧
      (catalogUpdate id p w).2.ids = w.ids

namespace World

variable {w : World} {t : Tally}

theorem Indexed.resolves (indexed : w.Indexed t) (name : Text.ByteString) (id : Int64) :
    (resolve name w).1 = .ok id ↔ ∃ e ∈ w.stores.catalog.entries, e.name = name ∧ e.id = id := by
  rw [(resolve_of_catalogued indexed.catalogued name).1, indexed.catalogued.stores.entries]
  constructor
  · intro resolved
    cases found : named? t.entries name with
    | none => simp [Tally.idOf, found] at resolved
    | some e =>
        simp only [Tally.idOf, found, Option.map_some, Option.elim_some,
          Except.ok.injEq] at resolved
        obtain ⟨member, named⟩ := named?_some found
        exact ⟨e, member, named, resolved⟩
  · rintro ⟨e, member, rfl, rfl⟩
    simp [Tally.idOf, named?_of_mem indexed.names member]

theorem Indexed.unknown (indexed : w.Indexed t) (name : Text.ByteString) :
    (resolve name w).1 = .error (unregistered name) ↔
      ∀ e ∈ w.stores.catalog.entries, e.name ≠ name := by
  rw [(resolve_of_catalogued indexed.catalogued name).1, indexed.catalogued.stores.entries]
  cases found : named? t.entries name with
  | none => simpa [Tally.idOf, found] using named?_none found
  | some e =>
      obtain ⟨member, named⟩ := named?_some found
      simp only [Tally.idOf, found, Option.map_some, Option.elim_some, reduceCtorEq, false_iff,
        not_forall, not_not]
      exact ⟨e, member, named⟩

theorem Indexed.registered
    (indexed : w.Indexed t)
    (room : t.lastId.toInt < Int64.maxValue.toInt)
    {e : Entry}
    (member : e ∈ w.stores.catalog.entries)
    (description : Text.ByteString)
    (defaultValue : Int64) :
    (register e.name description defaultValue w).1 = .ok e ∧
      (register e.name description defaultValue w).2.stores.catalog.entries =
        w.stores.catalog.entries ∧
      (register e.name description defaultValue w).2.stores.catalog.lastId =
        w.stores.catalog.lastId := by
  have stored := indexed.catalogued.stores
  obtain ⟨answered, kept⟩ :=
    register_of_catalogued indexed.catalogued room e.name description defaultValue
  have found : named? t.entries e.name = some e :=
    named?_of_mem indexed.names (stored.entries ▸ member)
  have modelled : t.register e.name description defaultValue = (.ok e, t) := by
    simp [Tally.register, found]
  rw [modelled] at answered kept
  exact ⟨answered.eq_ok, kept.stores.entries.trans stored.entries.symm,
    kept.stores.lastId.trans stored.lastId.symm⟩

theorem Indexed.registerFails
    (indexed : w.Indexed t)
    (room : t.lastId.toInt < Int64.maxValue.toInt)
    {name description : Text.ByteString}
    {defaultValue : Int64}
    {f : Fault}
    (failed : (register name description defaultValue w).1 = .error f) :
    (register name description defaultValue w).2.stores.catalog.entries =
        w.stores.catalog.entries ∧
      (register name description defaultValue w).2.stores.catalog.lastId =
        w.stores.catalog.lastId ∧
      (register name description defaultValue w).2.ids = w.ids := by
  have stored := indexed.catalogued.stores
  obtain ⟨answered, kept⟩ :=
    register_of_catalogued indexed.catalogued room name description defaultValue
  rw [failed] at answered
  -- the tally refuses too, and so stays as it was
  obtain ⟨s, refused⟩ := answered.error_of_error
  rw [Tally.register_of_error refused] at kept
  exact ⟨kept.stores.entries.trans stored.entries.symm, kept.stores.lastId.trans stored.lastId.symm,
    register_ids_of_error failed⟩

theorem Indexed.updateFails
    (indexed : w.Indexed t)
    {id : Int64}
    {p : Patch}
    {f : Fault}
    (failed : (catalogUpdate id p w).1 = .error f) :
    (catalogUpdate id p w).2.stores.catalog.entries = w.stores.catalog.entries ∧
      (catalogUpdate id p w).2.stores.catalog.lastId = w.stores.catalog.lastId ∧
      (catalogUpdate id p w).2.ids = w.ids := by
  have stored := indexed.catalogued.stores
  obtain ⟨answered, kept⟩ := catalogUpdate_of_catalogued indexed.catalogued id p
  rw [failed] at answered
  obtain ⟨s, refused⟩ := answered.error_of_error
  rw [Tally.update_of_error refused] at kept
  exact ⟨kept.stores.entries.trans stored.entries.symm, kept.stores.lastId.trans stored.lastId.symm,
    catalogUpdate_ids_of_error failed⟩

theorem Indexed.coherent
    (indexed : w.Indexed t)
    (room : t.lastId.toInt < Int64.maxValue.toInt) :
    CatalogCoherent w where
  resolves := indexed.resolves
  unknown := indexed.unknown
  registered := fun _ member => indexed.registered room member
  registerFails := fun _ _ _ _ failed => indexed.registerFails room failed
  updateFails := fun _ _ _ failed => indexed.updateFails failed

end World

/-- After any run of catalog calls over the wired service, on either engine, with or without
warm-up and with any capacity of the `ids` cache, resolving a name answers what the durable
catalog holds, and registrations and updates behave as `CatalogCoherent` says. The seeds, the
calls and one more call are fewer than the 64-bit id range holds, and the warm-up query is not
made to fail. As every run's prefix is a run, this covers every call along every run. -/
theorem resolve_follows_catalog
    (s : Setup)
    (calm : s.warmFails = false)
    (calls : List CatalogCall)
    (room : s.seed.length + calls.length + 1 < 2 ^ 63) :
    ∃ seeded w, wire s = .ok (seeded, w) ∧
      CatalogCoherent (runSteps s.host (calls.map CatalogCall.step) w).2 := by
  obtain ⟨seeded, w, wired, catalogued, -, -⟩ := wire_catalogued s calm (by omega)
  have indexed : w.Indexed (Tally.seeded s.seed) :=
    ⟨catalogued, Tally.names_seeded s.seed List.nodup_nil⟩
  have start : (Tally.seeded s.seed).lastId.toInt + (calls.length + 1 : Nat) ≤
      Int64.maxValue.toInt :=
    Tally.seeded_room room
  obtain ⟨ran, grown⟩ := indexed.run s.host calls (by omega)
  exact ⟨seeded, w, wired, ran.coherent (by omega)⟩

/-- A warmed relational catalog with one seed and a one-pair `ids` cache, through a
registration, a swap of two names by way of a third, and an expiry. -/
theorem resolve_follows_catalog_swapped :
    let setup : Setup :=
      { engine := .relational, warm := true, catalogCapacity := 1,
        seed := [{ name := .ofString "a" }] }
    let calls := [CatalogCall.register (.ofString "b") .empty 0,
      .update 1 { name := some (.ofString "t") }, .update 2 { name := some (.ofString "a") },
      .update 1 { name := some (.ofString "b") }, .expire "a", .resolve (.ofString "b")]
    setup.warmFails = false ∧ setup.seed.length + calls.length + 1 < 2 ^ 63 ∧
      ∃ seeded w, wire setup = .ok (seeded, w) ∧
        CatalogCoherent (runSteps setup.host (calls.map CatalogCall.step) w).2 := by
  intro setup calls
  have room : setup.seed.length + calls.length + 1 < 2 ^ 63 := by simp [setup, calls]
  exact ⟨rfl, room, resolve_follows_catalog setup rfl calls room⟩

end Service
end Tallykeeper
