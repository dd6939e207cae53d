import Mathlib
import Tallykeeper.Catalog.Store
import Tallykeeper.Proofs.Count.Overflow

/-!
# Entries in id order

Both catalog stores answer from their entries in id order, so their answers are functions
of a list of entries: a lookup answers the first entry that carries a name or an id, a query
the admitted entries cut to a limit, a creation appends, and an update rewrites the entry of
its id in place.

Both also keep one numbering (`Numbering`): the ids rise along the entries and none lies
past the last id handed out. While the sequence has room, appending under the next id keeps
it, and so does rewriting an entry under its own id.
-/

namespace Tallykeeper
namespace Catalog

open Text (ByteString)

/-- The first entry with a name. -/
def named? (es : List Entry) (name : ByteString) : Option Entry :=
  es.find? (·.name == name)

/-- The first entry with an id. -/
def withId? (es : List Entry) (id : Int64) : Option Entry :=
  es.find? (·.id == id)

theorem named?_some
    {es : List Entry}
    {name : ByteString}
    {e : Entry}
    (found : named? es name = some e) :
    e ∈ es ∧ e.name = name := by
  have member := List.mem_of_find?_eq_some found
  have named := List.find?_some found
  simp only [beq_iff_eq] at named
  exact ⟨member, named⟩

theorem named?_none
    {es : List Entry}
    {name : ByteString}
    (absent : named? es name = none) :
    ∀ e ∈ es, e.name ≠ name := by
  intro e member same
  have none := List.find?_eq_none.mp absent e member
  simp [same] at none

theorem withId?_some
    {es : List Entry}
    {id : Int64}
    {e : Entry}
    (found : withId? es id = some e) :
    e ∈ es ∧ e.id = id := by
  have member := List.mem_of_find?_eq_some found
  have numbered := List.find?_some found
  simp only [beq_iff_eq] at numbered
  exact ⟨member, numbered⟩

/-- When a key of the entries is distinct, the first entry carrying a member's key is that
member. -/
theorem find?_key_of_mem
    {β : Type}
    [BEq β]
    [LawfulBEq β]
    (key : Entry → β)
    {es : List Entry}
    {e : Entry}
    (distinct : (es.map key).Nodup)
    (member : e ∈ es) :
    es.find? (key · == key e) = some e := by
  induction es with
  | nil => cases member
  | cons o rest ih =>
      simp only [List.map_cons, List.nodup_cons, List.mem_map] at distinct
      rcases List.mem_cons.mp member with rfl | later
      · simp
      · have differs : (key o == key e) = false := by
          simpa using fun same => distinct.1 ⟨e, later, same.symm⟩
        simp only [List.find?_cons, differs]
        exact ih distinct.2 later

/-- When a key is distinct, the first entry carrying a key is the member that carries it. -/
theorem find?_key_eq_some
    {β : Type}
    [BEq β]
    [LawfulBEq β]
    (key : Entry → β)
    {es : List Entry}
    (distinct : (es.map key).Nodup)
    {k : β}
    {e : Entry} :
    es.find? (key · == k) = some e ↔ e ∈ es ∧ key e = k := by
  constructor
  · intro found
    have carries := List.find?_some found
    simp only [beq_iff_eq] at carries
    exact ⟨List.mem_of_find?_eq_some found, carries⟩
  · rintro ⟨member, rfl⟩
    exact find?_key_of_mem key distinct member

theorem find?_key_eq_none {β : Type} [BEq β] [LawfulBEq β] (key : Entry → β) {es : List Entry}
    {k : β} : es.find? (key · == k) = none ↔ ∀ e ∈ es, key e ≠ k := by
  simp [List.find?_eq_none]

/-- When ids are distinct, the entry with an id is the only one carrying it. -/
theorem withId?_of_mem
    {es : List Entry}
    {e : Entry}
    (distinct : (es.map (·.id)).Nodup)
    (member : e ∈ es) :
    withId? es e.id = some e :=
  find?_key_of_mem (·.id) distinct member

/-- When names are distinct, the entry with a name is the only one carrying it. -/
theorem named?_of_mem
    {es : List Entry}
    {e : Entry}
    (distinct : (es.map (·.name)).Nodup)
    (member : e ∈ es) :
    named? es e.name = some e :=
  find?_key_of_mem (·.name) distinct member

theorem named?_append_of_some
    {es : List Entry}
    {name : ByteString}
    {e : Entry}
    (found : named? es name = some e)
    (more : List Entry) :
    named? (es ++ more) name = some e := by
  simp [named?, List.find?_append, show es.find? (·.name == name) = some e from found]

theorem named?_append_of_none
    {es : List Entry}
    {name : ByteString}
    (absent : named? es name = none)
    (more : List Entry) :
    named? (es ++ more) name = named? more name := by
  simp [named?, List.find?_append, show es.find? (·.name == name) = none from absent]

/-- A lookup answers what it finds, and fails with its fault when it finds nothing. -/
theorem elim_eq_ok {α : Type} {o : Option α} {f : Fault} {a : α} :
    o.elim (Except.error f) Except.ok = (Except.ok a : Except Fault α) ↔ o = some a := by
  cases o <;> simp

theorem elim_eq_error {α : Type} {o : Option α} {f : Fault} :
    o.elim (.error f) .ok = (.error f : Except Fault α) ↔ o = none := by
  cases o <;> simp

/-! ## Rewriting one entry

An update replaces the entry of an id by its patched form, once no other entry holds the
new name. With distinct ids the entry of the id is the only one replaced, so every other
name still finds its entry and the new name finds the patched one. -/

section Rewrite

variable {es : List Entry} {id : Int64} {old next : Entry}

/-- The entries with the one of an id replaced. -/
def rewrite (es : List Entry) (id : Int64) (next : Entry) : List Entry :=
  es.map fun o => if o.id = id then next else o

theorem rewrite_eq_map :
    rewrite es id next = es.map fun o => if o.id == id then next else o := by
  simp [rewrite]

/-- A rewrite that keeps the id keeps every id. -/
theorem ids_rewrite (keeps : next.id = id) :
    (rewrite es id next).map (·.id) = es.map (·.id) := by
  rw [rewrite, List.map_map]
  apply List.map_congr_left
  intro o _
  by_cases same : o.id = id <;> simp [same, keeps]

/-- A rewrite under a name no other entry holds keeps the names distinct, when the ids are. -/
theorem names_rewrite
    (names : (es.map (·.name)).Nodup)
    (ids : (es.map (·.id)).Nodup)
    (free : ∀ o ∈ es, o.id ≠ id → o.name ≠ next.name) :
    ((rewrite es id next).map (·.name)).Nodup := by
  rw [rewrite, List.map_map]
  refine List.Nodup.map_on ?_ (List.Nodup.of_map (·.id) ids)
  intro a inA b inB same
  by_cases aRenamed : a.id = id <;> by_cases bRenamed : b.id = id
  · exact List.inj_on_of_nodup_map ids inA inB (aRenamed.trans bRenamed.symm)
  · simp only [Function.comp, aRenamed, bRenamed, if_true, if_false] at same
    exact absurd same.symm (free b inB bRenamed)
  · simp only [Function.comp, aRenamed, bRenamed, if_true, if_false] at same
    exact absurd same (free a inA aRenamed)
  · simp only [Function.comp, aRenamed, bRenamed, if_false] at same
    exact List.inj_on_of_nodup_map names inA inB same

/-- The new name finds the patched entry, which stands where the old one stood. -/
theorem named?_rewrite_next
    (member : old ∈ es)
    (numbered : old.id = id)
    (free : ∀ o ∈ es, o.id ≠ id → o.name ≠ next.name) :
    named? (rewrite es id next) next.name = some next := by
  induction es with
  | nil => cases member
  | cons x rest ih =>
      by_cases replaced : x.id = id
      · simp [rewrite, named?, replaced]
      · have kept : x.name ≠ next.name := free x (List.mem_cons_self ..) replaced
        have later : old ∈ rest := by
          rcases List.mem_cons.mp member with same | later
          · subst same
            exact absurd numbered replaced
          · exact later
        have restFree : ∀ o ∈ rest, o.id ≠ id → o.name ≠ next.name :=
          fun o inRest => free o (List.mem_cons_of_mem _ inRest)
        have skipped : (x.name == next.name) = false := by simpa using kept
        simpa [rewrite, named?, replaced, skipped] using ih later restFree

/-- Every other name finds the entry it found before. -/
theorem named?_rewrite_other
    {name : ByteString}
    {o : Entry}
    (unique : ∀ x ∈ es, x.id = id → x = old)
    (free : ∀ x ∈ es, x.id ≠ id → x.name ≠ next.name)
    (other : name ≠ old.name)
    (found : named? es name = some o) :
    named? (rewrite es id next) name = some o := by
  induction es with
  | nil => cases found
  | cons x rest ih =>
      have restUnique : ∀ y ∈ rest, y.id = id → y = old :=
        fun y inRest => unique y (List.mem_cons_of_mem _ inRest)
      have restFree : ∀ y ∈ rest, y.id ≠ id → y.name ≠ next.name :=
        fun y inRest => free y (List.mem_cons_of_mem _ inRest)
      by_cases here : x.name = name
      · -- the entry found is the head, which is not the rewritten one
        have first : o = x := by simpa [named?, here] using found.symm
        subst first
        have kept : o.id ≠ id := fun same =>
          other (here ▸ congrArg Entry.name (unique o (List.mem_cons_self ..) same))
        simp [rewrite, named?, kept, here]
      · have later : named? rest name = some o := by
          simpa [named?, here] using found
        have head : (if x.id = id then next else x).name ≠ name := by
          by_cases replaced : x.id = id
          · -- the patched name is free, so the entry found under `name` is not it
            obtain ⟨inRest, named⟩ := named?_some later
            intro same
            simp only [replaced, if_true] at same
            by_cases itself : o.id = id
            · exact other (named ▸ congrArg Entry.name (restUnique o inRest itself))
            · exact restFree o inRest itself (named.trans same.symm)
          · simpa [replaced] using here
        have skipped : ((if x.id = id then next else x).name == name) = false := by
          simpa using head
        have rest := ih restUnique restFree later
        simp only [rewrite, named?, List.map_cons, List.find?_cons, skipped] at rest ⊢
        exact rest

end Rewrite

theorem Entry.validate_of_flaw {e : Entry} {f : Flaw} (flawed : e.flaw? = some f) :
    e.validate = .error f.fault := by
  simp [Entry.validate, flawed]

theorem Entry.validate_of_sound {e : Entry} (sound : e.flaw? = none) : e.validate = .ok () := by
  simp [Entry.validate, sound]

theorem Flaw.fault_is (f : Flaw) : f.fault.is .invalidEntry = true := by
  simp [Flaw.fault]

/-! ## Queries -/

/-- The entries a query answers from entries in id order: the admitted ones, at most
`limit` of them when the limit is positive. -/
def Query.select (q : Query) (es : List Entry) : List Entry :=
  let hits := es.filter q.admits
  if q.limit > 0 then hits.take q.limit.toNat else hits

theorem Query.select_all (es : List Entry) : ({} : Query).select es = es := by
  simp [Query.select, Query.admits]

theorem select_name
    (es : List Entry)
    (name : ByteString) :
    ({ names := [name], limit := 1 } : Query).select es = (named? es name).toList := by
  have admits : ({ names := [name], limit := 1 } : Query).admits = (·.name == name) := by
    funext e
    simp only [Query.admits, List.isEmpty_nil, Bool.true_or, Bool.true_and, List.isEmpty_cons,
      Bool.false_or, List.contains, List.elem]
    cases e.name == name <;> rfl
  rw [Query.select, admits, named?, ← List.head?_filter]
  cases es.filter (·.name == name) with
  | nil => rfl
  | cons e rest => simp

theorem select_id
    (es : List Entry)
    (id : Int64) :
    ({ ids := [id], limit := 1 } : Query).select es = (withId? es id).toList := by
  have admits : ({ ids := [id], limit := 1 } : Query).admits = (·.id == id) := by
    funext e
    simp only [Query.admits, List.isEmpty_nil, Bool.true_or, List.isEmpty_cons,
      Bool.false_or, List.contains, List.elem]
    cases e.id == id <;> rfl
  rw [Query.select, admits, withId?, ← List.head?_filter]
  cases es.filter (·.id == id) with
  | nil => rfl
  | cons e rest => simp

/-! ## Numbering -/

/-- The ids rise along the entries and none lies past the last id handed out. -/
structure Numbering (es : List Entry) (last : Int64) : Prop where
  rising : (es.map fun e => e.id.toInt).Pairwise (· < ·)
  below : ∀ e ∈ es, e.id.toInt ≤ last.toInt

section Numbering

variable {es : List Entry} {last : Int64}

theorem numbering_nil (last : Int64) : Numbering [] last :=
  ⟨List.Pairwise.nil, by simp⟩

theorem Numbering.distinct (numbering : Numbering es last) : (es.map (·.id)).Nodup := by
  have apart : es.Pairwise fun a b => a.id.toInt < b.id.toInt :=
    List.pairwise_map.mp numbering.rising
  refine List.pairwise_map.mpr (apart.imp ?_)
  intro a b before same
  rw [same] at before
  exact lt_irrefl _ before

/-- Entries in id order need no sorting by id. -/
theorem Numbering.sorted (numbering : Numbering es last) :
    es.Pairwise fun a b => decide (a.id ≤ b.id) = true := by
  refine (List.pairwise_map.mp numbering.rising).imp ?_
  intro a b before
  exact decide_eq_true (Int64.le_iff_toInt_le.mpr before.le)

/-- Appending under the id after the last keeps the numbering, while the sequence has
room. -/
theorem Numbering.append
    (numbering : Numbering es last)
    (room : last.toInt < Int64.maxValue.toInt)
    {made : Entry}
    (fresh : made.id = last + 1) :
    Numbering (es ++ [made]) made.id := by
  have next : made.id.toInt = last.toInt + 1 := by
    rw [fresh]
    exact toInt_add_one_of_lt room
  constructor
  · rw [List.map_append, List.pairwise_append]
    refine ⟨numbering.rising, List.pairwise_singleton _ _, ?_⟩
    -- every old id is at or below `last`, the new one above it
    intro a old b new
    obtain ⟨o, member, rfl⟩ := List.mem_map.mp old
    rw [List.map_singleton, List.mem_singleton] at new
    have := numbering.below o member
    omega
  · intro e member
    rcases List.mem_append.mp member with old | new
    · have := numbering.below e old
      omega
    · rw [List.mem_singleton.mp new]

/-- No entry carries the id after the last while the sequence has room. -/
theorem Numbering.fresh
    (numbering : Numbering es last)
    (room : last.toInt < Int64.maxValue.toInt) :
    ∀ e ∈ es, e.id ≠ last + 1 := by
  intro e member same
  have below := numbering.below e member
  rw [same, toInt_add_one_of_lt room] at below
  omega

/-- Rewriting an entry under its own id keeps the numbering. -/
theorem Numbering.rewrite
    (numbering : Numbering es last)
    {id : Int64}
    {next : Entry}
    (keeps : next.id = id) :
    Numbering (rewrite es id next) last := by
  have ids : (Catalog.rewrite es id next).map (fun e => e.id.toInt) =
      es.map fun e => e.id.toInt := by
    have same : ((Catalog.rewrite es id next).map (·.id)).map Int64.toInt =
        (es.map (·.id)).map Int64.toInt := by
      rw [ids_rewrite keeps]
    simpa only [List.map_map, Function.comp_def] using same
  constructor
  · rw [ids]
    exact numbering.rising
  · intro e member
    have inIds : e.id.toInt ∈ es.map fun e => e.id.toInt := by
      rw [← ids]
      exact List.mem_map_of_mem member
    obtain ⟨o, inEntries, same⟩ := List.mem_map.mp inIds
    rw [← same]
    exact numbering.below o inEntries

/-- A query sorts nothing on entries in id order. -/
theorem Numbering.mergeSort_filter (numbering : Numbering es last) (q : Query) :
    (es.filter q.admits).mergeSort (fun a b => decide (a.id ≤ b.id)) = es.filter q.admits :=
  List.mergeSort_of_pairwise (numbering.sorted.filter q.admits)

end Numbering

end Catalog
end Tallykeeper
