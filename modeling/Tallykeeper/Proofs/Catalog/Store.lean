import Mathlib
import Tallykeeper.Proofs.Catalog.Memory
import Tallykeeper.Proofs.Catalog.Relational

/-!
# The wired catalog store

A service calls its catalog store without knowing which one it is, so what it relies on is
stated here once for both. Between calls the store keeps its shape (the memory store's map
keyed by ids, the relational store's table present once readied) and the numbering of its
entries (`Numbered`). On an open database every method is then a function of the entries:
a lookup answers the entry carrying a name or an id, a query the admitted entries, a
creation appends a valid entry with a free name under the next id, stamped with the clock
reading, and an update rewrites the entry of its id. A call that fails, or only reads,
leaves the store as it was, save that the relational store readies its table (`readied`).
-/

namespace Tallykeeper
namespace Catalog
namespace Store

open Storage Text

/-- The shape a store keeps between calls. -/
def Shaped : Store → Prop
  | .memory s => s.Keyed
  | .relational s => s.Coherent

/-- What the store keeps between calls: its shape, and its entries numbered under the last
id handed out. -/
structure Numbered (s : Store) : Prop where
  shaped : s.Shaped
  numbering : Numbering s.entries s.lastId

/-- The store after a call that readied its table; the memory store has none. -/
def readied : Store → Store
  | .memory s => .memory s
  | .relational s => .relational s.readied

@[simp] theorem entries_memory (m : MemoryStore) : (memory m).entries = m.entries := rfl

@[simp] theorem entries_relational (r : RelationalStore) : (relational r).entries = r.entries :=
  rfl

@[simp] theorem lastId_memory (m : MemoryStore) : (memory m).lastId = m.lastId := rfl

@[simp] theorem lastId_relational (r : RelationalStore) : (relational r).lastId = r.lastId :=
  rfl

variable {b : Backend} {s : Store}

@[simp] theorem readied_entries : s.readied.entries = s.entries := by
  cases s <;> simp [readied]

@[simp] theorem readied_lastId : s.readied.lastId = s.lastId := by
  cases s <;> simp [readied]

theorem Numbered.readied (numbered : s.Numbered) : s.readied.Numbered := by
  obtain ⟨shaped, numbering⟩ := numbered
  cases s with
  | memory m => exact ⟨shaped, numbering⟩
  | relational r =>
      refine ⟨RelationalStore.readied_coherent r, ?_⟩
      simpa [Store.readied] using numbering

/-- The store an engine starts from, set up on an open database: no entries and a fresh
sequence. -/
theorem setup_ofEngine (opened : b.closed = false) (engine : Engine) :
    ∃ s', (ofEngine engine).setup b = (.ok (), s') ∧ s'.entries = [] ∧ s'.lastId = 0 ∧
      s'.Numbered := by
  have start : Numbering [] 0 := numbering_nil 0
  cases engine with
  | memory =>
      have keyed : ({} : MemoryStore).Keyed := fun _ member => absurd member List.not_mem_nil
      exact ⟨.memory {}, rfl, rfl, rfl, keyed, start⟩
  | relational =>
      have empty : ({} : RelationalStore).entries = [] ∧ ({} : RelationalStore).lastId = 0 :=
        ⟨rfl, rfl⟩
      refine ⟨.relational ({} : RelationalStore).readied, ?_, ?_, ?_, ?_⟩
      · simp [ofEngine, setup, lift, RelationalStore.setup_of_opened opened]
      · simp [empty.1]
      · simp [empty.2]
      · refine ⟨RelationalStore.readied_coherent _, ?_⟩
        simpa [empty.1, empty.2] using start

/-! ## Reading -/

section Read

variable (opened : b.closed = false) (numbered : s.Numbered)
include opened numbered

theorem query_of_opened (q : Query) : query b q s = (.ok (q.select s.entries), s.readied) := by
  obtain ⟨shaped, numbering⟩ := numbered
  cases s with
  | memory m => simp [query, readied, MemoryStore.query_eq numbering]
  | relational r =>
      simp [query, lift, readied, RelationalStore.query_of_opened opened shaped numbering]

theorem get_of_opened (name : ByteString) :
    get b name s = ((named? s.entries name).elim (.error (missingName name)) .ok, s.readied) := by
  obtain ⟨shaped, numbering⟩ := numbered
  cases s with
  | memory m => simp [get, readied, MemoryStore.get_eq]
  | relational r =>
      simp [get, lift, readied, RelationalStore.get_of_opened opened shaped numbering]

theorem getById_of_opened (id : Int64) :
    getById b id s = ((withId? s.entries id).elim (.error (missingId id)) .ok, s.readied) := by
  obtain ⟨shaped, numbering⟩ := numbered
  cases s with
  | memory m => simp [getById, readied, MemoryStore.getById_eq shaped]
  | relational r =>
      simp [getById, lift, readied, RelationalStore.getById_of_opened opened shaped numbering]

end Read

/-! ## Creating -/

section Create

variable {e : Entry}

theorem create_of_invalid {f : Fault} (invalid : e.validate = .error f) :
    create b e s = (.error f, s) := by
  cases s with
  | memory m => simp [create, lift, MemoryStore.create_of_invalid invalid]
  | relational r => simp [create, lift, RelationalStore.create_of_invalid invalid]

variable (opened : b.closed = false) (numbered : s.Numbered)
  (room : s.lastId.toInt < Int64.maxValue.toInt) (valid : e.validate = .ok ())
include opened numbered room valid

theorem create_of_taken (held : s.entries.any (·.name == e.name) = true) :
    create b e s = (.error (taken e.name), s.readied) := by
  obtain ⟨shaped, numbering⟩ := numbered
  cases s with
  | memory m => simp [create, lift, readied, MemoryStore.create_of_taken valid held]
  | relational r =>
      simp [create, lift, readied,
        RelationalStore.create_of_taken opened shaped numbering room valid held]

/-- A valid entry under a free name is created under the next id, stamped with the clock
reading, and appended. -/
theorem create_of_free (free : s.entries.any (·.name == e.name) = false) :
    ∃ s', create b e s =
        (.ok { e with id := s.lastId + 1, createdAt := b.clock, updatedAt := b.clock }, s') ∧
      s'.entries = s.entries ++
        [{ e with id := s.lastId + 1, createdAt := b.clock, updatedAt := b.clock }] ∧
      s'.lastId = s.lastId + 1 ∧ s'.Numbered := by
  obtain ⟨shaped, numbering⟩ := numbered
  have appended : Numbering
      (s.entries ++ [{ e with id := s.lastId + 1, createdAt := b.clock, updatedAt := b.clock }])
      (s.lastId + 1) :=
    numbering.append room rfl
  cases s with
  | memory m =>
      rw [create, MemoryStore.create_of_free shaped (numbering.fresh room) valid free]
      refine ⟨_, rfl, by simp [MemoryStore.entries], rfl, ?_, ?_⟩
      · exact shaped.append
          { e with id := m.lastId + 1, createdAt := b.clock, updatedAt := b.clock }
      · simpa [MemoryStore.entries] using appended
  | relational r =>
      rw [create, RelationalStore.create_of_free opened shaped numbering room valid free]
      refine ⟨_, rfl, ?_, ?_, fun _ => rfl, ?_⟩
      · simp [RelationalStore.entries_eq, Row.entry]
      · simp [RelationalStore.lastId_eq]
      · simpa [RelationalStore.entries_eq, RelationalStore.lastId_eq, Row.entry] using appended

end Create

/-! ## Updating -/

section Update

variable {id : Int64} {p : Patch}

theorem update_of_empty (empty : p.isEmpty = true) :
    update b id p s = (.error (noFields id), s) := by
  cases s with
  | memory m => simp [update, lift, MemoryStore.update_of_empty empty]
  | relational r => simp [update, lift, RelationalStore.update_of_empty empty]

/-- The relational store finds the entry of an id as the row that carries it. -/
theorem row_of_found
    {r : RelationalStore}
    {current : Entry}
    (found : withId? r.entries id = some current) :
    ∃ row, (r.table.getD {}).rows.find? (·.id == id) = some row ∧ row.entry = current := by
  rw [RelationalStore.withId?_entries] at found
  exact Option.map_eq_some_iff.mp found

variable (opened : b.closed = false) (numbered : s.Numbered) (nonEmpty : p.isEmpty = false)
include opened numbered nonEmpty

theorem update_of_missing (absent : withId? s.entries id = none) :
    update b id p s = (.error (missingId id), s.readied) := by
  obtain ⟨shaped, numbering⟩ := numbered
  cases s with
  | memory m => simp [update, lift, readied, MemoryStore.update_of_missing shaped nonEmpty absent]
  | relational r =>
      simp [update, lift, readied,
        RelationalStore.update_of_missing opened shaped numbering nonEmpty absent]

variable {current : Entry} (found : withId? s.entries id = some current)
include found

/-- An update whose patched entry is invalid is refused. -/
theorem update_of_invalid {f : Fault} (invalid : (p.apply current).validate = .error f) :
    update b id p s = (.error f, s.readied) := by
  obtain ⟨shaped, numbering⟩ := numbered
  cases s with
  | memory m =>
      simp [update, lift, readied, MemoryStore.update_of_found shaped nonEmpty found, invalid]
  | relational r =>
      obtain ⟨row, located, rfl⟩ := row_of_found found
      simp [update, lift, readied,
        RelationalStore.update_of_found opened shaped numbering nonEmpty located, invalid]

/-- An update onto a name another entry holds is refused. -/
theorem update_of_taken
    (valid : (p.apply current).validate = .ok ())
    (held : s.entries.any (fun o => o.id != id && o.name == (p.apply current).name) = true) :
    update b id p s = (.error (taken (p.apply current).name), s.readied) := by
  obtain ⟨shaped, numbering⟩ := numbered
  cases s with
  | memory m =>
      simp only [entries] at held
      simp [update, lift, readied, MemoryStore.update_of_found shaped nonEmpty found, valid, held]
  | relational r =>
      obtain ⟨row, located, rfl⟩ := row_of_found found
      simp only [entries] at held
      simp [update, lift, readied,
        RelationalStore.update_of_found opened shaped numbering nonEmpty located, valid, held]

/-- A valid update under a free name rewrites the entry of its id with the patched fields and
the clock reading as its update stamp. -/
theorem update_of_free
    (valid : (p.apply current).validate = .ok ())
    (free : s.entries.any (fun o => o.id != id && o.name == (p.apply current).name) = false) :
    ∃ s', update b id p s = (.ok { p.apply current with updatedAt := b.clock }, s') ∧
      s'.entries = rewrite s.entries id { p.apply current with updatedAt := b.clock } ∧
      s'.lastId = s.lastId ∧ s'.Numbered := by
  obtain ⟨shaped, numbering⟩ := numbered
  have keeps : ({ p.apply current with updatedAt := b.clock } : Entry).id = id :=
    (withId?_some found).2
  have rewritten := numbering.rewrite keeps
  cases s with
  | memory m =>
      simp only [entries_memory] at free found rewritten
      obtain ⟨written, stillKeyed⟩ := MemoryStore.put_found shaped numbering.distinct found keeps
      rw [update, MemoryStore.update_of_found shaped nonEmpty found]
      simp only [valid, free, Bool.false_eq_true, if_false]
      refine ⟨_, rfl, written, rfl, stillKeyed, ?_⟩
      simpa only [entries_memory, lastId_memory, written] using rewritten
  | relational r =>
      obtain ⟨row, located, rfl⟩ := row_of_found found
      simp only [entries_relational] at free rewritten
      have viewed := Table.entries_rewritten (r.table.getD {}) id row p b.clock
      rw [update, RelationalStore.update_of_found opened shaped numbering nonEmpty located]
      simp only [valid, free, Bool.false_eq_true, if_false]
      refine ⟨_, rfl, ?_, ?_, fun _ => rfl, ?_⟩
      · rw [entries_relational, RelationalStore.entries_eq, Option.getD_some, viewed,
          entries_relational, RelationalStore.entries_eq r]
      · simp [RelationalStore.lastId_eq]
      · rw [entries_relational, RelationalStore.entries_eq, Option.getD_some, viewed,
          lastId_relational, RelationalStore.lastId_eq, Option.getD_some]
        simpa [RelationalStore.entries_eq r, RelationalStore.lastId_eq r] using rewritten

end Update

end Store
end Catalog
end Tallykeeper
