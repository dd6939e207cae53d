import Mathlib
import Tallykeeper.Proofs.Catalog.Run

/-!
# The contracts of the memory catalog store

Every run of the memory store from the empty store leaves its entries settled (`Settled`):
the names are distinct, every entry is valid, the ids are exactly `1, …, n` in order, and
the sequence stands at `n`. One command keeps this while the sequence has room
(`Command.onView_settled`), so a whole run does (`Command.runAll_settled`); together with the
map keeping each entry under its own id this is `MemoryStore.Sound`.

A sound store keeps each method's contract (`MemoryStore.Obeys`). A failing command leaves
the store as it was. A creation answers its entry under the next id, stamped with its clock
reading, and appends it. An update keeps the id and the creation stamp, sets exactly the
fields its patch sets and the update stamp, and rewrites the entry in place. A lookup by
name or by id answers exactly the entries that carry it, and a query the admitted entries
in ascending id order, cut to a positive limit.
-/

namespace Tallykeeper
namespace Catalog

open Text (ByteString)

/-- The entries a run of the memory store leaves: distinct names, valid entries, the ids
`1, …, n` in order, and the sequence at `n`. -/
structure Settled (es : List Entry) (last : Int64) : Prop where
  names : (es.map (·.name)).Nodup
  valid : ∀ e ∈ es, e.validate = .ok ()
  ids : es.map (·.id.toInt) = (List.range' 1 es.length).map Int.ofNat
  last : last.toInt = es.length

namespace Settled

variable {es : List Entry} {last : Int64}

theorem nil : Settled [] 0 :=
  ⟨List.nodup_nil, by simp, rfl, rfl⟩

/-- Every id lies between one and the sequence. -/
theorem bounds (settled : Settled es last) :
    ∀ e ∈ es, 1 ≤ e.id.toInt ∧ e.id.toInt ≤ last.toInt := by
  intro e member
  have counted : e.id.toInt ∈ (List.range' 1 es.length).map Int.ofNat := by
    rw [← settled.ids]
    exact List.mem_map_of_mem member
  obtain ⟨k, within, same⟩ := List.mem_map.mp counted
  rw [List.mem_range'_1] at within
  rw [Int.ofNat_eq_natCast] at same
  rw [settled.last]
  omega

theorem numbering (settled : Settled es last) : Numbering es last where
  rising := by
    have counting : ((List.range' 1 es.length).map Int.ofNat).Pairwise (· < ·) :=
      List.pairwise_map.mpr ((List.pairwise_lt_range' 1).imp Int.ofNat_lt.mpr)
    rw [← settled.ids] at counting
    exact counting
  below e member := (settled.bounds e member).2

/-- No entry carries the id after the last, also where the sequence wraps around. -/
theorem fresh (settled : Settled es last) : ∀ e ∈ es, e.id ≠ last + 1 := by
  intro e member same
  obtain ⟨low, high⟩ := settled.bounds e member
  by_cases full : last = Int64.maxValue
  · -- the id after the largest is the least
    have wrapped : last + 1 = Int64.minValue := by
      rw [full]
      decide
    rw [same, wrapped, Int64.toInt_minValue] at low
    omega
  · have room : last.toInt < Int64.maxValue.toInt :=
      lt_of_le_of_ne (Int64.toInt_le last) (fun equal => full (Int64.toInt_inj.mp equal))
    rw [same, toInt_add_one_of_lt room] at high
    omega

/-- A valid entry under a free name, appended under the next id, keeps the entries settled
while the sequence has room. -/
theorem append
    (settled : Settled es last)
    (room : last.toInt < Int64.maxValue.toInt)
    {e : Entry}
    (valid : e.validate = .ok ())
    (free : es.any (·.name == e.name) = false)
    (now : Int64) :
    Settled (es ++ [{ e with id := last + 1, createdAt := now, updatedAt := now }]) (last + 1) := by
  have next : (last + 1).toInt = es.length + 1 := by
    rw [toInt_add_one_of_lt room, settled.last]
  constructor
  · have outside : e.name ∉ es.map (·.name) := by
      intro member
      obtain ⟨o, inEntries, same⟩ := List.mem_map.mp member
      exact List.any_eq_false.mp free o inEntries (by simp [same])
    simpa [List.nodup_append, settled.names] using outside
  · intro o member
    rcases List.mem_append.mp member with old | new
    · exact settled.valid o old
    · rw [List.mem_singleton.mp new]
      exact valid
  · rw [List.length_append, List.length_singleton, List.range'_concat, List.map_append,
      List.map_append, settled.ids, List.map_singleton, List.map_singleton, next]
    simp only [List.append_cancel_left_eq, List.cons.injEq, and_true, Int.ofNat_eq_natCast]
    omega
  · rw [next, List.length_append, List.length_singleton]
    push_cast
    rfl

/-- A valid entry written under the id of a stored one, with a name no other entry holds,
keeps the entries settled. -/
theorem rewrite
    (settled : Settled es last)
    {id : Int64}
    {next : Entry}
    (keeps : next.id = id)
    (valid : next.validate = .ok ())
    (free : es.any (fun o => o.id != id && o.name == next.name) = false) :
    Settled (rewrite es id next) last := by
  have apart : ∀ o ∈ es, o.id ≠ id → o.name ≠ next.name := by
    intro o member differs same
    exact List.any_eq_false.mp free o member (by simp [differs, same])
  have length : (Catalog.rewrite es id next).length = es.length := List.length_map _
  constructor
  · exact names_rewrite settled.names settled.numbering.distinct apart
  · intro o member
    obtain ⟨a, inEntries, rfl⟩ := List.mem_map.mp member
    by_cases same : a.id = id
    · simp only [same, if_true]
      exact valid
    · simp only [same, if_false]
      exact settled.valid a inEntries
  · have same : ((Catalog.rewrite es id next).map (·.id)).map Int64.toInt =
        (es.map (·.id)).map Int64.toInt := by
      rw [ids_rewrite keeps]
    rw [length, ← settled.ids]
    simpa only [List.map_map, Function.comp_def] using same
  · rw [length]
    exact settled.last

end Settled

namespace Command

variable {v : List Entry × Int64}

/-- One command keeps the entries settled while the sequence has room. -/
theorem onView_settled
    (settled : Settled v.1 v.2)
    (room : v.2.toInt < Int64.maxValue.toInt)
    (c : Command) :
    Settled (c.onView v).2.1 (c.onView v).2.2 := by
  rcases onView_cases c v with same | ⟨now, e, -, valid, free, made⟩ |
      ⟨now, id, p, current, -, found, valid, free, written⟩ | ⟨-, cleared⟩
  · rw [same]
    exact settled
  · rw [made]
    exact settled.append room valid free now
  · rw [written]
    exact settled.rewrite (withId?_some found).2 valid free
  · rw [cleared]
    exact Settled.nil

/-- A run keeps the entries settled while it is shorter than the sequence's room. -/
theorem runAll_settled :
    ∀ (cmds : List Command) (v : List Entry × Int64), Settled v.1 v.2 →
      v.1.length + cmds.length < 2 ^ 63 →
      Settled (runAll onView cmds v).2.1 (runAll onView cmds v).2.2
  | [], _, settled, _ => settled
  | c :: rest, v, settled, room => by
      have roomy : v.2.toInt < Int64.maxValue.toInt := by
        rw [Int64.toInt_maxValue, settled.last]
        simp only [List.length_cons] at room
        omega
      have stepped := onView_settled settled roomy c
      -- the step moves the sequence, which counts the entries, one up at most
      obtain ⟨-, moved⟩ := onView_numbering settled.numbering roomy c
      have grown : (c.onView v).2.1.length ≤ v.1.length + 1 := by
        have counted : ((c.onView v).2.2.toInt : Int) = (c.onView v).2.1.length := stepped.last
        rcases moved with same | up | zero
        · rw [same, settled.last] at counted
          omega
        · rw [up, toInt_add_one_of_lt roomy, settled.last] at counted
          omega
        · rw [zero, Int64.toInt_zero] at counted
          omega
      simp only [runAll]
      exact runAll_settled rest (c.onView v).2 stepped
        (by simp only [List.length_cons] at room; omega)

end Command

namespace MemoryStore

/-- What every run of the memory store keeps: each binding under its entry's own id, and
settled entries. -/
structure Sound (s : MemoryStore) : Prop where
  keyed : s.Keyed
  settled : Settled s.entries s.lastId

/-- What the store promises at a state. A failing command changes nothing. A creation
answers its entry under the next id with both stamps at its clock reading, and appends it.
An update answers the entry of its id with the same id and creation stamp, the fields its
patch sets, the others kept, and the update stamp at its clock reading, and puts it in the
entry's place. A lookup by name or by id answers exactly the entries that carry it, and
reports a missing one. A query answers the admitted entries in ascending id order, cut to a
positive limit. -/
structure Obeys (s : MemoryStore) : Prop where
  unchanged : ∀ (c : Command) (f : Fault), (c.onMemory s).1 = .error f → (c.onMemory s).2 = s
  created : ∀ (now : Int64) (e made : Entry), (s.create now e).1 = .ok made →
    made = { e with id := s.lastId + 1, createdAt := now, updatedAt := now } ∧
      (s.create now e).2.entries = s.entries ++ [made] ∧ (s.create now e).2.lastId = made.id
  updated : ∀ (now id : Int64) (p : Patch) (next : Entry), (s.update now id p).1 = .ok next →
    ∃ old ∈ s.entries, old.id = id ∧
      next.id = old.id ∧ next.createdAt = old.createdAt ∧ next.updatedAt = now ∧
      next.name = p.name.getD old.name ∧ next.description = p.description.getD old.description ∧
      next.defaultValue = p.defaultValue.getD old.defaultValue ∧
      (s.update now id p).2.entries = rewrite s.entries id next ∧
      (s.update now id p).2.lastId = s.lastId
  named : ∀ (name : ByteString) (e : Entry), s.get name = .ok e ↔ e ∈ s.entries ∧ e.name = name
  unnamed : ∀ name : ByteString,
    s.get name = .error (missingName name) ↔ ∀ e ∈ s.entries, e.name ≠ name
  numbered : ∀ (id : Int64) (e : Entry), s.getById id = .ok e ↔ e ∈ s.entries ∧ e.id = id
  unnumbered : ∀ id : Int64,
    s.getById id = .error (missingId id) ↔ ∀ e ∈ s.entries, e.id ≠ id
  queried : ∀ q : Query, s.query q = q.select s.entries ∧
    (s.query q).Pairwise fun a b => a.id.toInt < b.id.toInt

variable {s : MemoryStore}

/-- Keyed stores with the same entries and sequence are equal: the map is the entries, each
under its id. -/
theorem eq_of_keyed
    {t : MemoryStore}
    (keyed : s.Keyed)
    (keyedToo : t.Keyed)
    (sameEntries : s.entries = t.entries)
    (sameLast : s.lastId = t.lastId) :
    s = t := by
  have slots : ∀ u : MemoryStore, u.Keyed → u.slots = u.entries.map fun e => (e.id, e) := by
    intro u keyedU
    rw [entries, List.map_map]
    conv_lhs => rw [← List.map_id u.slots]
    exact List.map_congr_left fun p member => Prod.ext (keyedU p member) rfl
  obtain ⟨sSlots, sLast⟩ := s
  obtain ⟨tSlots, tLast⟩ := t
  have same := (slots _ keyed).trans (sameEntries ▸ (slots _ keyedToo).symm)
  simp only at same sameLast
  rw [same, sameLast]

/-- A creation that succeeds answers its entry under the next id and appends it. -/
theorem create_of_ok
    (sound : s.Sound)
    {now : Int64}
    {e made : Entry}
    (succeeded : (s.create now e).1 = .ok made) :
    made = { e with id := s.lastId + 1, createdAt := now, updatedAt := now } ∧
      (s.create now e).2.entries = s.entries ++ [made] ∧ (s.create now e).2.lastId = made.id := by
  cases valid : e.validate with
  | error f => simp [create_of_invalid valid] at succeeded
  | ok u =>
      by_cases held : s.entries.any (·.name == e.name) = true
      · simp [create_of_taken valid held] at succeeded
      · have free : s.entries.any (·.name == e.name) = false := by simpa using held
        rw [create_of_free sound.keyed sound.settled.fresh valid free] at succeeded ⊢
        cases succeeded
        simp [MemoryStore.entries]

/-- An update that succeeds answers the patched entry of its id with the update stamp, and
writes it in the entry's place. -/
theorem update_of_ok
    (sound : s.Sound)
    {now id : Int64}
    {p : Patch}
    {next : Entry}
    (succeeded : (s.update now id p).1 = .ok next) :
    ∃ old ∈ s.entries, old.id = id ∧ next = { p.apply old with updatedAt := now } ∧
      (s.update now id p).2.entries = rewrite s.entries id next ∧
      (s.update now id p).2.lastId = s.lastId := by
  by_cases empty : p.isEmpty = true
  · simp [update_of_empty empty] at succeeded
  have nonEmpty : p.isEmpty = false := by simpa using empty
  cases found : withId? s.entries id with
  | none => simp [update_of_missing sound.keyed nonEmpty found] at succeeded
  | some current =>
      obtain ⟨member, numbered⟩ := withId?_some found
      rw [update_of_found sound.keyed nonEmpty found] at succeeded ⊢
      cases valid : (p.apply current).validate with
      | error f => simp [valid] at succeeded
      | ok u =>
          by_cases held :
              s.entries.any (fun o => o.id != id && o.name == (p.apply current).name) = true
          · simp [valid, held] at succeeded
          · simp only [valid, held, Bool.false_eq_true, if_false] at succeeded ⊢
            cases succeeded
            have keeps : ({ p.apply current with updatedAt := now } : Entry).id = id := numbered
            obtain ⟨rewritten, -⟩ :=
              put_found sound.keyed sound.settled.numbering.distinct found keeps
            exact ⟨current, member, numbered, rfl, rewritten, trivial⟩

/-- A sound memory store keeps every contract. -/
theorem Sound.obeys (sound : s.Sound) : s.Obeys where
  unchanged := by
    intro c f failed
    have numbering := sound.settled.numbering
    obtain ⟨answered, viewed, keyed⟩ :=
      Command.onMemory_view sound.keyed numbering sound.settled.fresh c
    rw [answered] at failed
    rw [Command.onView_of_error failed, Prod.mk.injEq] at viewed
    exact eq_of_keyed keyed sound.keyed viewed.1 viewed.2
  created _ _ _ := create_of_ok sound
  updated := by
    intro now id p next succeeded
    obtain ⟨old, member, numbered, rfl, rewritten, last⟩ := update_of_ok sound succeeded
    exact ⟨old, member, numbered, rfl, rfl, rfl, rfl, rfl, rfl, rewritten, last⟩
  named := by
    intro name e
    rw [get_eq, elim_eq_ok]
    exact find?_key_eq_some (·.name) sound.settled.names
  unnamed := by
    intro name
    rw [get_eq, elim_eq_error]
    exact find?_key_eq_none (·.name)
  numbered := by
    intro id e
    rw [getById_eq sound.keyed, elim_eq_ok]
    exact find?_key_eq_some (·.id) sound.settled.numbering.distinct
  unnumbered := by
    intro id
    rw [getById_eq sound.keyed, elim_eq_error]
    exact find?_key_eq_none (·.id)
  queried := by
    intro q
    have selected := query_eq sound.settled.numbering q
    refine ⟨selected, ?_⟩
    -- a selection keeps a sublist of the entries, whose ids rise
    have kept : List.Sublist (q.select s.entries) s.entries := by
      unfold Query.select
      split
      · exact (List.take_sublist _ _).trans List.filter_sublist
      · exact List.filter_sublist
    rw [selected]
    exact (List.pairwise_map.mp sound.settled.numbering.rising).sublist kept

end MemoryStore

/-- Through any run of commands the memory store keeps each entry under its own id, distinct
names, valid entries and the ids `1, …, n` under the sequence `n`, and in the state the run
ends in it keeps its contracts. -/
theorem memory_store_keeps_contracts (cmds : List Command) (room : cmds.length < 2 ^ 63) :
    (Command.runAll Command.onMemory cmds {}).2.Sound ∧
      (Command.runAll Command.onMemory cmds {}).2.Obeys := by
  have start : Numbering [] 0 := numbering_nil 0
  obtain ⟨-, viewed, keyed⟩ := Command.runAll_view Command.onMemory (fun s => (s.entries, s.lastId))
    MemoryStore.Keyed
    (fun _ keyed numbering room => Command.onMemory_view keyed numbering (numbering.fresh room))
    cmds {} (fun _ member => by cases member) start le_rfl (by simpa using room)
  have settled := Command.runAll_settled cmds
    (({} : MemoryStore).entries, ({} : MemoryStore).lastId) Settled.nil
    (by simpa [MemoryStore.entries] using room)
  rw [← viewed] at settled
  have sound : (Command.runAll Command.onMemory cmds {}).2.Sound := ⟨keyed, settled⟩
  exact ⟨sound, sound.obeys⟩

/-- A run with a taken name, a rename onto a taken name, a rename, a teardown and a creation
after it. -/
theorem memory_store_keeps_contracts_renames :
    let cmds : List Command :=
      [.create 5 { name := .ofString "a" }, .create 6 { name := .ofString "a" },
        .create 7 { name := .ofString "b" }, .update 8 1 { name := some (.ofString "b") },
        .update 9 2 { name := some (.ofString "c") }, .update 10 1 { name := some (.ofString "b") },
        .teardown, .create 11 { name := .ofString "d" }]
    cmds.length < 2 ^ 63 ∧
      (Command.runAll Command.onMemory cmds {}).2.Sound ∧
      (Command.runAll Command.onMemory cmds {}).2.Obeys := by
  intro cmds
  have room : cmds.length < 2 ^ 63 := by simp [cmds]
  exact ⟨room, memory_store_keeps_contracts cmds room⟩

end Catalog
end Tallykeeper
