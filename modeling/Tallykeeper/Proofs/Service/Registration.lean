import Mathlib
import Tallykeeper.Proofs.Service.Agreement

/-!
# Registering and updating entries

Registration and updates answer as the tally does and keep the agreement. A registered
name is answered from the store and its id cached; a new valid name is created under the
next id, which the tally hands out too; an invalid one is refused before the store is
touched. An update rewrites the entry of its id, and the `ids` cache follows: a renamed
entry's old name is dropped and its new name cached, and every other cached name still
finds its entry, since ids are distinct and the new name was free.
-/

namespace Tallykeeper
namespace Service

open Catalog Cache

namespace Tally

variable {t : Tally}

theorem Named.enroll {name : Text.ByteString} {id : Int64} (named : t.Named name id) (e : Entry) :
    (t.enroll e).Named name id := by
  unfold Named idOf at named ⊢
  obtain ⟨o, found, rfl⟩ := Option.map_eq_some_iff.mp named
  exact Option.map_eq_some_iff.mpr ⟨o, named?_append_of_some found _, rfl⟩

theorem named_enroll {e : Entry} (free : named? t.entries e.name = none) :
    (t.enroll e).Named e.name (t.lastId + 1) := by
  have found : named? (t.entries ++ [t.made e]) e.name = some (t.made e) := by
    rw [named?_append_of_none free]
    simp [named?, made]
  show ((named? (t.entries ++ [t.made e]) e.name).map (·.id)) = some (t.lastId + 1)
  rw [found]
  rfl

/-- The tally after the entry of an id is rewritten. -/
def rewritten (t : Tally) (id : Int64) (next : Entry) : Tally :=
  { t with entries := rewrite t.entries id next }

section Rewrite

variable {id : Int64} {old next : Entry}

/-- With distinct ids, the entry found under an id is the only one carrying it. -/
theorem unique_of_withId
    (distinct : (t.entries.map (·.id)).Nodup)
    (found : withId? t.entries id = some old) :
    ∀ x ∈ t.entries, x.id = id → x = old := by
  intro x member same
  have itself := withId?_of_mem distinct member
  rw [same, found] at itself
  exact (Option.some.inj itself).symm

theorem named_rewritten
    (member : old ∈ t.entries)
    (numbered : old.id = id)
    (keeps : next.id = id)
    (free : ∀ o ∈ t.entries, o.id ≠ id → o.name ≠ next.name) :
    (t.rewritten id next).Named next.name id := by
  simp [Named, idOf, rewritten, named?_rewrite_next member numbered free, keeps]

theorem Named.rewritten
    {name : Text.ByteString}
    {v : Int64}
    (named : t.Named name v)
    (unique : ∀ x ∈ t.entries, x.id = id → x = old)
    (free : ∀ o ∈ t.entries, o.id ≠ id → o.name ≠ next.name)
    (other : name ≠ old.name) :
    (t.rewritten id next).Named name v := by
  unfold Named idOf at named ⊢
  obtain ⟨o, found, rfl⟩ := Option.map_eq_some_iff.mp named
  exact Option.map_eq_some_iff.mpr ⟨o, named?_rewrite_other unique free other found, rfl⟩

/-- A name that keeps its entry's id through a rewrite that leaves it on the entry. -/
theorem Named.rewritten_same
    {v : Int64}
    (named : t.Named next.name v)
    (member : old ∈ t.entries)
    (numbered : old.id = id)
    (keeps : next.id = id)
    (free : ∀ o ∈ t.entries, o.id ≠ id → o.name ≠ next.name) :
    (t.rewritten id next).Named next.name v := by
  unfold Named idOf at named
  obtain ⟨o, found, rfl⟩ := Option.map_eq_some_iff.mp named
  obtain ⟨inEntries, same⟩ := named?_some found
  have carries : o.id = id := by
    by_contra differs
    exact free o inEntries differs same
  rw [carries]
  exact named_rewritten member numbered keeps free

end Rewrite

end Tally

namespace Stores

variable {s : Stores} {t : Tally}

/-- An invalid entry is refused before the store is touched. -/
theorem Agrees.create_flawed
    (agrees : s.Agrees t)
    {e : Entry}
    {f : Flaw}
    (flawed : e.flaw? = some f) :
    s.catalogCall .create (fun b c => c.create b e) = (.error f.fault, s) := by
  rw [catalogCall_of_unscripted agrees.unscripted,
    Catalog.Store.create_of_invalid (Catalog.Entry.validate_of_flaw flawed)]

/-- A valid entry with a free name is created as the tally registers it: under the id the
tally hands out next, stamped with the clock reading. -/
theorem Agrees.create_fresh
    (agrees : s.Agrees t)
    (room : t.lastId.toInt < Int64.maxValue.toInt)
    {e : Entry}
    (sound : e.flaw? = none)
    (free : named? t.entries e.name = none) :
    ∃ s', s.catalogCall .create (fun b c => c.create b e) = (.ok (t.made e), s') ∧
      s'.Agrees (t.enroll e) := by
  have unused : s.catalog.entries.any (·.name == e.name) = false := by
    rw [agrees.entries, List.any_eq_false]
    intro o member
    simpa using named?_none free o member
  obtain ⟨c', created, entries, lastId, numbered⟩ :=
    Catalog.Store.create_of_free agrees.opened agrees.numbered (agrees.lastId ▸ room)
      (Catalog.Entry.validate_of_sound sound) unused
  have made :
      ({ e with
          id := s.catalog.lastId + 1
          createdAt := s.backend.clock
          updatedAt := s.backend.clock } : Entry) = t.made e := by
    rw [agrees.lastId, agrees.clock]
    rfl
  rw [catalogCall_of_unscripted agrees.unscripted, created, made]
  refine ⟨_, rfl, ?_⟩
  exact
    { entries := by simp [Tally.enroll, entries, agrees.entries, made]
      lastId := by simp [Tally.enroll, lastId, agrees.lastId]
      clock := agrees.clock
      numbered := numbered
      opened := agrees.opened
      unscripted := agrees.unscripted
      healthy := agrees.healthy
      counts := agrees.counts }

/-- A lookup by id answers the entry carrying it and only readies the table. -/
theorem getById_of_agrees (agrees : s.Agrees t) (id : Int64) :
    s.catalogCall .getById (fun b c => c.getById b id) =
      ((withId? t.entries id).elim (.error (missingId id)) .ok,
        { s with catalog := s.catalog.readied }) := by
  rw [catalogCall_of_unscripted agrees.unscripted,
    Catalog.Store.getById_of_opened agrees.opened agrees.numbered, agrees.entries]

section Update

variable {id : Int64} {p : Patch} {old : Entry}

/-- An update to an invalid entry is refused and changes nothing the tally sees. -/
theorem Agrees.update_flawed
    (agrees : s.Agrees t)
    (nonEmpty : p.isEmpty = false)
    (found : withId? t.entries id = some old)
    {f : Flaw}
    (flawed : (p.apply old).flaw? = some f) :
    ∃ s', s.catalogCall .update (fun b c => c.update b id p) = (.error f.fault, s') ∧
      s'.Agrees t := by
  have located : withId? s.catalog.entries id = some old := agrees.entries ▸ found
  rw [catalogCall_of_unscripted agrees.unscripted,
    Catalog.Store.update_of_invalid agrees.opened agrees.numbered nonEmpty located
      (Catalog.Entry.validate_of_flaw flawed)]
  exact ⟨_, rfl, agrees.readied⟩

/-- An update onto a name another entry holds is refused and changes nothing the tally
sees. -/
theorem Agrees.update_occupied
    (agrees : s.Agrees t)
    (nonEmpty : p.isEmpty = false)
    (found : withId? t.entries id = some old)
    (sound : (p.apply old).flaw? = none)
    (occupied : ∃ o ∈ t.entries, o.id ≠ id ∧ o.name = (p.apply old).name) :
    ∃ s', s.catalogCall .update (fun b c => c.update b id p) =
        (.error (taken (p.apply old).name), s') ∧ s'.Agrees t := by
  have located : withId? s.catalog.entries id = some old := agrees.entries ▸ found
  have held : s.catalog.entries.any
      (fun o => o.id != id && o.name == (p.apply old).name) = true := by
    rw [agrees.entries]
    obtain ⟨o, member, differs, same⟩ := occupied
    exact List.any_eq_true.mpr ⟨o, member, by simp [differs, same]⟩
  rw [catalogCall_of_unscripted agrees.unscripted,
    Catalog.Store.update_of_taken agrees.opened agrees.numbered nonEmpty located
      (Catalog.Entry.validate_of_sound sound) held]
  exact ⟨_, rfl, agrees.readied⟩

/-- An update to a valid entry under a free name rewrites the entry of its id as the tally
patches it, stamped with the clock reading. -/
theorem Agrees.update_applied
    (agrees : s.Agrees t)
    (nonEmpty : p.isEmpty = false)
    (found : withId? t.entries id = some old)
    (sound : (p.apply old).flaw? = none)
    (free : ¬ ∃ o ∈ t.entries, o.id ≠ id ∧ o.name = (p.apply old).name) :
    ∃ s', s.catalogCall .update (fun b c => c.update b id p) = (.ok (t.patched p old), s') ∧
      s'.Agrees (t.rewritten id (t.patched p old)) := by
  have located : withId? s.catalog.entries id = some old := agrees.entries ▸ found
  have clear : s.catalog.entries.any
      (fun o => o.id != id && o.name == (p.apply old).name) = false := by
    rw [agrees.entries, List.any_eq_false]
    intro o member
    simpa using fun differs same => free ⟨o, member, differs, same⟩
  obtain ⟨c', updated, entries, lastId, numbered⟩ :=
    Catalog.Store.update_of_free agrees.opened agrees.numbered nonEmpty located
      (Catalog.Entry.validate_of_sound sound) clear
  have patched : ({ p.apply old with updatedAt := s.backend.clock } : Entry) = t.patched p old := by
    rw [agrees.clock]
    rfl
  rw [catalogCall_of_unscripted agrees.unscripted, updated, patched]
  refine ⟨_, rfl, ?_⟩
  exact
    { entries := by rw [entries, agrees.entries, patched]; rfl
      lastId := by simp [Tally.rewritten, lastId, agrees.lastId]
      clock := agrees.clock
      numbered := numbered
      opened := agrees.opened
      unscripted := agrees.unscripted
      healthy := agrees.healthy
      counts := agrees.counts }

end Update

end Stores

namespace World

variable {w : World} {t : Tally}

/-- Registration answers as the tally does and keeps the catalog in agreement. -/
theorem register_of_catalogued
    (agrees : w.Catalogued t)
    (room : t.lastId.toInt < Int64.maxValue.toInt)
    (name description : Text.ByteString)
    (defaultValue : Int64) :
    Service.Answers (register name description defaultValue w).1
        (t.register name description defaultValue).1 ∧
      (register name description defaultValue w).2.Catalogued
        (t.register name description defaultValue).2 := by
  have looked := Stores.lookup_of_agrees agrees.stores name
  -- every path starts with a lookup, which readies the table
  have readied : ({ w with stores := { w.stores with
      catalog := w.stores.catalog.readied } } : World).Catalogued t :=
    ⟨agrees.stores.readied, agrees.ids⟩
  cases found : named? t.entries name with
  | some e =>
      -- the name is registered: its entry is answered and its id cached
      have named : t.Named e.name e.id := by
        obtain ⟨_, same⟩ := named?_some found
        simp [Tally.Named, Tally.idOf, same, found]
      have registered : register name description defaultValue w =
          cacheEntry e { w with stores := { w.stores with
            catalog := w.stores.catalog.readied } } := by
        simp [register, onStores_eq, looked, found]
      rw [registered]
      simp only [Tally.register, found]
      exact ⟨answers_ok e, readied.cacheEntry named⟩
  | none =>
      cases sound : ({ name, description, defaultValue } : Entry).flaw? with
      | some f =>
          -- an invalid entry is refused and nothing changes
          have refused := agrees.stores.readied.create_flawed sound
          have registered : register name description defaultValue w =
              (.error (f.fault.under .invalidEntity ""), { w with stores := { w.stores with
                catalog := w.stores.catalog.readied } }) := by
            simp [register, onStores_eq, looked, found, missingName, refused,
              Catalog.Flaw.fault_is]
          rw [registered]
          simp only [Tally.register, found, sound]
          exact ⟨answers_error (by simp [Fault.under]), readied⟩
      | none =>
          -- a valid new name is created under the next id and cached
          have free : named? t.entries ({ name, description, defaultValue } : Entry).name = none :=
            found
          obtain ⟨s', created, sAgrees⟩ := agrees.stores.readied.create_fresh room sound free
          have registered : register name description defaultValue w =
              cacheEntry (t.made { name, description, defaultValue }) { w with stores := s' } := by
            simp [register, onStores_eq, looked, found, missingName, created]
          have named : (t.enroll { name, description, defaultValue }).Named name (t.lastId + 1) :=
            Tally.named_enroll free
          have next : ({ w with stores := s' } : World).Catalogued
              (t.enroll { name, description, defaultValue }) :=
            ⟨sAgrees, agrees.ids.mono fun _ _ kept => kept.enroll _⟩
          rw [registered]
          simp only [Tally.register, found, sound]
          exact ⟨answers_ok _, next.cacheEntry named⟩

theorem forgetId_eq (name : Text.ByteString) :
    w.forgetId name = (.ok (), { w with ids := w.ids.invalidate name }) :=
  rfl

/-- An update answers as the tally does and keeps the catalog in agreement; the `ids` cache
follows a rename. -/
theorem catalogUpdate_of_catalogued (agrees : w.Catalogued t) (id : Int64) (p : Patch) :
    Service.Answers (catalogUpdate id p w).1 (t.update id p).1 ∧
      (catalogUpdate id p w).2.Catalogued (t.update id p).2 := by
  by_cases empty : p.isEmpty = true
  · have refused : catalogUpdate id p w =
        (.error (.wrap .notFound ("no fields to update for " ++ Numeral.decimal id)), w) := by
      simp [catalogUpdate, empty]
    have modelled : t.update id p = (.error .notFound, t) := by
      simp [Tally.update, empty]
    rw [refused, modelled]
    exact ⟨answers_error (by simp), agrees⟩
  have nonEmpty : p.isEmpty = false := by simpa using empty
  have fetched := Stores.getById_of_agrees agrees.stores id
  have readied : ({ w with stores := { w.stores with
      catalog := w.stores.catalog.readied } } : World).Catalogued t :=
    ⟨agrees.stores.readied, agrees.ids⟩
  cases found : withId? t.entries id with
  | none =>
      have refused : catalogUpdate id p w =
          (.error (noEntry id), { w with stores := { w.stores with
            catalog := w.stores.catalog.readied } }) := by
        simp [catalogUpdate, nonEmpty, onStores_eq, fetched, found, missingId]
      have modelled : t.update id p = (.error .notFound, t) := by
        simp [Tally.update, nonEmpty, found]
      rw [refused, modelled]
      exact ⟨answers_error (by simp [noEntry]), readied⟩
  | some old =>
      obtain ⟨member, numbered⟩ := withId?_some found
      cases sound : (p.apply old).flaw? with
      | some f =>
          -- the patched entry is invalid
          obtain ⟨s', call, sAgrees⟩ := readied.stores.update_flawed nonEmpty found sound
          have refused : catalogUpdate id p w =
              (.error (f.fault.under .invalidEntity ""), { w with stores := s' }) := by
            simp [catalogUpdate, nonEmpty, onStores_eq, fetched, found, call, Flaw.fault]
          have modelled : t.update id p = (.error .invalidEntity, t) := by
            simp [Tally.update, nonEmpty, found, sound]
          rw [refused, modelled]
          exact ⟨answers_error (by simp [Fault.under]), ⟨sAgrees, agrees.ids⟩⟩
      | none =>
          by_cases occupied : ∃ o ∈ t.entries, o.id ≠ id ∧ o.name = (p.apply old).name
          · -- the new name belongs to another entry
            obtain ⟨s', call, sAgrees⟩ :=
              readied.stores.update_occupied nonEmpty found sound occupied
            have refused : catalogUpdate id p w =
                (.error ((taken (p.apply old).name).under .invalidEntity ""),
                  { w with stores := s' }) := by
              simp [catalogUpdate, nonEmpty, onStores_eq, fetched, found, call, taken]
            have modelled : t.update id p = (.error .invalidEntity, t) := by
              simp only [Tally.update, nonEmpty, found, sound, Option.isSome_none]
              simp [occupied]
            rw [refused, modelled]
            exact ⟨answers_error (by simp [Fault.under]), ⟨sAgrees, agrees.ids⟩⟩
          · -- the entry is rewritten; the cache drops a renamed entry's old name
            obtain ⟨s', call, sAgrees⟩ :=
              readied.stores.update_applied nonEmpty found sound occupied
            have keeps : (t.patched p old).id = id := numbered
            have distinct : (t.entries.map (·.id)).Nodup := by
              rw [← agrees.stores.entries]
              exact agrees.stores.numbered.numbering.distinct
            have unique := Tally.unique_of_withId distinct found
            have free : ∀ o ∈ t.entries, o.id ≠ id → o.name ≠ (t.patched p old).name :=
              fun o inEntries differs same => occupied ⟨o, inEntries, differs, same⟩
            have named : (t.rewritten id (t.patched p old)).Named (t.patched p old).name
                (t.patched p old).id := by
              rw [keeps]
              exact Tally.named_rewritten member numbered keeps free
            have modelled : t.update id p =
                (.ok (t.patched p old), t.rewritten id (t.patched p old)) := by
              simp only [Tally.update, nonEmpty, found, sound, Option.isSome_none]
              simp [occupied, Tally.rewritten]
            rw [modelled]
            by_cases renamed : old.name = (t.patched p old).name
            · have updated : catalogUpdate id p w =
                  cacheEntry (t.patched p old) { w with stores := s' } := by
                simp [catalogUpdate, nonEmpty, onStores_eq, fetched, found, call, renamed]
              have kept : ({ w with stores := s' } : World).Catalogued
                  (t.rewritten id (t.patched p old)) := by
                refine ⟨sAgrees, agrees.ids.mono ?_⟩
                intro name v before
                by_cases same : name = old.name
                · rw [same, renamed] at before ⊢
                  exact before.rewritten_same member numbered keeps free
                · exact before.rewritten unique free same
              rw [updated]
              exact ⟨answers_ok _, kept.cacheEntry named⟩
            · have updated : catalogUpdate id p w =
                  cacheEntry (t.patched p old)
                    { w with stores := s', ids := w.ids.invalidate old.name } := by
                simp [catalogUpdate, nonEmpty, onStores_eq, fetched, found, call, renamed,
                  forgetId_eq]
              have kept : ({ w with stores := s', ids := w.ids.invalidate old.name } :
                  World).Catalogued (t.rewritten id (t.patched p old)) :=
                ⟨sAgrees, agrees.ids.invalidate fun _ _ other before =>
                  before.rewritten unique free other⟩
              rw [updated]
              exact ⟨answers_ok _, kept.cacheEntry named⟩

/-- Registration touches only the stores and the `ids` cache. -/
theorem register_touches (name description : Text.ByteString) (defaultValue : Int64) :
    (register name description defaultValue w).2.values = w.values ∧
      (register name description defaultValue w).2.source = w.source := by
  -- every path ends in a world built from `w` by store calls and an `ids` write
  simp only [register, cacheEntry_eq, World.onStores_eq]
  repeat' split
  all_goals
    simp only [Prod.mk.injEq] at *
    try casesm* _ ∧ _
    subst_vars
    simp

/-- An update touches only the stores and the `ids` cache. -/
theorem catalogUpdate_touches (id : Int64) (p : Patch) :
    (catalogUpdate id p w).2.values = w.values ∧ (catalogUpdate id p w).2.source = w.source := by
  simp only [catalogUpdate, cacheEntry_eq, World.onStores_eq, World.forgetId]
  repeat' split
  all_goals
    simp only [Prod.mk.injEq] at *
    try casesm* _ ∧ _
    subst_vars
    simp

/-- Registration answers as the tally does and keeps the agreement. -/
theorem register_of_agrees
    (agrees : w.Agrees t)
    (room : t.lastId.toInt < Int64.maxValue.toInt)
    (name description : Text.ByteString)
    (defaultValue : Int64) :
    Service.Answers (register name description defaultValue w).1
        (t.register name description defaultValue).1 ∧
      (register name description defaultValue w).2.Agrees
        (t.register name description defaultValue).2 := by
  obtain ⟨answered, kept⟩ :=
    register_of_catalogued agrees.catalogued room name description defaultValue
  obtain ⟨values, source⟩ := register_touches (w := w) name description defaultValue
  exact ⟨answered, kept.agrees agrees values source (Tally.counts_register _ _ _)⟩

/-- An update answers as the tally does and keeps the agreement; the `ids` cache follows a
rename. -/
theorem catalogUpdate_of_agrees (agrees : w.Agrees t) (id : Int64) (p : Patch) :
    Service.Answers (catalogUpdate id p w).1 (t.update id p).1 ∧
      (catalogUpdate id p w).2.Agrees (t.update id p).2 := by
  obtain ⟨answered, kept⟩ := catalogUpdate_of_catalogued agrees.catalogued id p
  obtain ⟨values, source⟩ := catalogUpdate_touches (w := w) id p
  exact ⟨answered, kept.agrees agrees values source (Tally.counts_update _ _)⟩

end World

end Service
end Tallykeeper
