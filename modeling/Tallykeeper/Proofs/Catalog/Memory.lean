import Mathlib
import Tallykeeper.Proofs.Catalog.Lookup

/-!
# The memory catalog store

The memory store keeps each binding of its map keyed by its entry's own id (`Keyed`). The
map's lookup of an id is then a lookup of the entries by id, binding a fresh id appends,
and binding the id of a stored entry rewrites that entry in place. So every method is a
function of the entries: a lookup answers the first entry carrying its name or id, a
query the admitted entries, which need no sorting while the numbering holds, a creation
appends under the next id, and an update rewrites the entry of its id.
-/

namespace Tallykeeper
namespace Catalog
namespace MemoryStore

open Text (ByteString)

/-- Every binding is keyed by its entry's own id. -/
def Keyed (s : MemoryStore) : Prop :=
  ∀ p ∈ s.slots, p.1 = p.2.id

variable {s : MemoryStore}

@[simp] theorem entries_mk (slots : List (Int64 × Entry)) (lastId : Int64) :
    ({ slots, lastId } : MemoryStore).entries = slots.map (·.2) :=
  rfl

theorem keys_eq_ids (keyed : s.Keyed) : s.slots.map (·.1) = s.entries.map (·.id) := by
  rw [entries, List.map_map]
  exact List.map_congr_left keyed

/-! ## Binding an id -/

section Put

variable {id : Int64} {e : Entry} {slots : List (Int64 × Entry)}

/-- Binding an id no binding has appends. -/
theorem put_of_absent (absent : ∀ p ∈ slots, p.1 ≠ id) : put id e slots = slots ++ [(id, e)] := by
  induction slots with
  | nil => rfl
  | cons p rest ih =>
      have other : p.1 ≠ id := absent p (List.mem_cons_self ..)
      have later := ih fun q member => absent q (List.mem_cons_of_mem _ member)
      obtain ⟨k, o⟩ := p
      simp only at other
      simp [put, other, later]

/-- Binding a bound id, under distinct keys, replaces its binding in place. -/
theorem put_of_present
    (distinct : (slots.map (·.1)).Nodup)
    (present : id ∈ slots.map (·.1)) :
    put id e slots = slots.map fun p => if p.1 = id then (id, e) else p := by
  induction slots with
  | nil => cases present
  | cons p rest ih =>
      obtain ⟨k, o⟩ := p
      simp only [List.map_cons, List.nodup_cons, List.mem_cons] at distinct present
      by_cases here : k = id
      · -- the head is the binding; no later key repeats it
        subst here
        have untouched : ∀ q ∈ rest, q.1 ≠ k := fun q member same =>
          distinct.1 (same ▸ List.mem_map_of_mem member)
        have kept : (rest.map fun q => if q.1 = k then (k, e) else q) = rest := by
          conv_rhs => rw [← List.map_id rest]
          exact List.map_congr_left fun q member => if_neg (untouched q member)
        simp [put, kept]
      · have later : id ∈ rest.map (·.1) := present.resolve_left (Ne.symm here)
        simp [put, here, ih distinct.2 later]

end Put

/-! ## Lookups and queries -/

/-- Under keyed bindings the map's lookup of an id is the entries' lookup by id. -/
theorem lookup_eq (keyed : s.Keyed) (id : Int64) : s.slots.lookup id = withId? s.entries id := by
  obtain ⟨slots, lastId⟩ := s
  unfold Keyed at keyed
  simp only [entries_mk, withId?] at keyed ⊢
  induction slots with
  | nil => rfl
  | cons p rest ih =>
      obtain ⟨k, o⟩ := p
      have own : k = o.id := keyed (k, o) (List.mem_cons_self ..)
      have later := ih fun q member => keyed q (List.mem_cons_of_mem _ member)
      subst own
      by_cases same : o.id = id
      · simp [same]
      · have differs : (id == o.id) = false := by simpa using Ne.symm same
        simp [List.lookup_cons, differs, same, later]

theorem get_eq (name : ByteString) :
    s.get name = (named? s.entries name).elim (.error (missingName name)) .ok := by
  unfold get named?
  cases s.entries.find? (·.name == name) <;> rfl

theorem getById_eq (keyed : s.Keyed) (id : Int64) :
    s.getById id = (withId? s.entries id).elim (.error (missingId id)) .ok := by
  unfold getById
  rw [lookup_eq keyed]
  cases withId? s.entries id <;> rfl

/-- On entries in id order a query is a selection. -/
theorem query_eq (numbering : Numbering s.entries s.lastId) (q : Query) :
    s.query q = q.select s.entries := by
  simp only [query, Query.select, numbering.mergeSort_filter q]

/-! ## Creating -/

section Create

variable {now : Int64} {e : Entry}

theorem create_of_invalid {f : Fault} (invalid : e.validate = .error f) :
    s.create now e = (.error f, s) := by
  simp [create, invalid]

theorem create_of_taken
    (valid : e.validate = .ok ())
    (held : s.entries.any (·.name == e.name) = true) :
    s.create now e = (.error (taken e.name), s) := by
  simp [create, valid, held]

/-- A valid entry under a free name is bound to the next id, which no binding has. -/
theorem create_of_free
    (keyed : s.Keyed)
    (fresh : ∀ o ∈ s.entries, o.id ≠ s.lastId + 1)
    (valid : e.validate = .ok ())
    (free : s.entries.any (·.name == e.name) = false) :
    s.create now e =
      (.ok { e with id := s.lastId + 1, createdAt := now, updatedAt := now },
        { slots := s.slots ++
            [(s.lastId + 1, { e with id := s.lastId + 1, createdAt := now, updatedAt := now })]
          lastId := s.lastId + 1 }) := by
  have absent : ∀ p ∈ s.slots, p.1 ≠ s.lastId + 1 := by
    intro p member
    rw [keyed p member]
    exact fresh p.2 (List.mem_map_of_mem member)
  simp [create, valid, free, put_of_absent absent]

/-- Binding the next id keeps every binding keyed. -/
theorem Keyed.append
    (keyed : s.Keyed)
    (made : Entry) :
    ({ slots := s.slots ++ [(made.id, made)], lastId := made.id } : MemoryStore).Keyed := by
  intro p member
  rcases List.mem_append.mp member with old | new
  · exact keyed p old
  · rw [List.mem_singleton.mp new]

end Create

/-! ## Updating -/

section Update

variable {now id : Int64} {p : Patch}

theorem update_of_empty (empty : p.isEmpty = true) :
    s.update now id p = (.error (noFields id), s) := by
  simp [update, empty]

theorem update_of_missing
    (keyed : s.Keyed)
    (nonEmpty : p.isEmpty = false)
    (absent : withId? s.entries id = none) :
    s.update now id p = (.error (missingId id), s) := by
  simp [update, nonEmpty, lookup_eq keyed, absent]

/-- An update of a stored id with a non-empty patch: validation first, then the names of the
other entries, then the write. -/
theorem update_of_found
    (keyed : s.Keyed)
    (nonEmpty : p.isEmpty = false)
    {current : Entry}
    (found : withId? s.entries id = some current) :
    s.update now id p =
      match (p.apply current).validate with
      | .error f => (.error f, s)
      | .ok () =>
        if s.entries.any (fun o => o.id != id && o.name == (p.apply current).name) then
          (.error (taken (p.apply current).name), s)
        else
          (.ok { p.apply current with updatedAt := now },
            { s with slots := put id { p.apply current with updatedAt := now } s.slots }) := by
  simp only [update, nonEmpty, lookup_eq keyed, found]
  rfl

/-- Writing the entry of a stored id rewrites it in place, and keeps the bindings keyed when
the entry keeps its id. -/
theorem put_found
    (keyed : s.Keyed)
    (distinct : (s.entries.map (·.id)).Nodup)
    {current next : Entry}
    (found : withId? s.entries id = some current)
    (keeps : next.id = id) :
    ({ s with slots := put id next s.slots } : MemoryStore).entries = rewrite s.entries id next ∧
      ({ s with slots := put id next s.slots } : MemoryStore).Keyed := by
  have present : id ∈ s.slots.map (·.1) := by
    rw [keys_eq_ids keyed]
    obtain ⟨member, numbered⟩ := withId?_some found
    exact numbered ▸ List.mem_map_of_mem member
  have written := put_of_present (e := next) (keys_eq_ids keyed ▸ distinct) present
  constructor
  · simp only [entries, written, rewrite, List.map_map]
    apply List.map_congr_left
    intro q member
    have own := keyed q member
    by_cases same : q.1 = id
    · have carries : q.2.id = id := own ▸ same
      simp [same, carries]
    · simp [same, ← own]
  · intro q member
    simp only [written, List.mem_map] at member
    obtain ⟨r, inSlots, rfl⟩ := member
    by_cases same : r.1 = id
    · simp [same, keeps]
    · simpa [same] using keyed r inSlots

end Update

end MemoryStore
end Catalog
end Tallykeeper
