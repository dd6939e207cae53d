import Mathlib
import Tallykeeper.Proofs.Catalog.Lookup

/-!
# The relational catalog store on an open database

While no row passes the sequence, the next rowid is the one after the sequence, so an
insert either meets the unique constraint on a taken name or appends under that id. The
`IN` lists the store binds select exactly the rows whose entries a query admits, and on
rows in id order the select sorts nothing, so a query answers as a selection of the
entries. The `SET` list of a patch, with the update stamp after it, writes the patched
entry with the new stamp.

On an open database whose table exists once the store readied it (`Coherent`), every
method of the relational store is then a function of its entries and its sequence, just
as the memory store's are: the store only readies its table on the way.
-/

namespace Tallykeeper
namespace Catalog

open Storage
open Text (ByteString)

@[simp] theorem Row.entry_id (r : Row) : r.entry.id = r.id := rfl

@[simp] theorem Row.entry_name (r : Row) : r.entry.name = r.name := rfl

namespace Table

variable {t : Table}

/-- The next rowid is the one after the sequence while no row passes it. -/
theorem top_eq (capped : ∀ r ∈ t.rows, r.id.toInt ≤ t.sequence.toInt) : t.top = t.sequence := by
  unfold top
  -- the fold keeps its start, which no rowid passes
  suffices kept : ∀ rows : List Row, (∀ r ∈ rows, r.id.toInt ≤ t.sequence.toInt) →
      rows.foldl (fun m r => if m < r.id then r.id else m) t.sequence = t.sequence from
    kept t.rows capped
  intro rows
  induction rows with
  | nil => intro _; rfl
  | cons r rest ih =>
      intro bounded
      have notAbove : ¬ t.sequence < r.id := by
        rw [Int64.lt_iff_toInt_lt]
        have := bounded r (List.mem_cons_self ..)
        omega
      simp only [List.foldl_cons, notAbove, if_false]
      exact ih fun q member => bounded q (List.mem_cons_of_mem _ member)

section Insert

variable {name description : ByteString} {defaultValue createdAt updatedAt : Int64}

theorem top_ne_maxValue
    (capped : ∀ r ∈ t.rows, r.id.toInt ≤ t.sequence.toInt)
    (room : t.sequence.toInt < Int64.maxValue.toInt) :
    t.top ≠ Int64.maxValue := by
  rw [top_eq capped]
  intro same
  rw [same] at room
  exact lt_irrefl _ room

theorem insert_of_taken
    (capped : ∀ r ∈ t.rows, r.id.toInt ≤ t.sequence.toInt)
    (room : t.sequence.toInt < Int64.maxValue.toInt)
    (held : t.rows.any (·.name == name) = true) :
    t.insert name description defaultValue createdAt updatedAt = .error .unique := by
  simp [insert, top_ne_maxValue capped room, held]

/-- A free name is inserted under the rowid after the sequence, which the sequence then
holds. -/
theorem insert_of_free
    (capped : ∀ r ∈ t.rows, r.id.toInt ≤ t.sequence.toInt)
    (room : t.sequence.toInt < Int64.maxValue.toInt)
    (free : t.rows.any (·.name == name) = false) :
    t.insert name description defaultValue createdAt updatedAt =
      .ok (⟨t.sequence + 1, name, description, defaultValue, createdAt, updatedAt⟩,
        { rows := t.rows ++
            [⟨t.sequence + 1, name, description, defaultValue, createdAt, updatedAt⟩]
          sequence := t.sequence + 1 }) := by
  have notFull : t.sequence ≠ Int64.maxValue := top_eq capped ▸ top_ne_maxValue capped room
  simp [insert, top_eq capped, notFull, free]

end Insert

/-! ## Selecting -/

/-- The lists of a query bound to their `IN` conditions. -/
theorem bind_conditions (q : Query) :
    bind (RelationalStore.conditions q).1 (RelationalStore.conditions q).2 =
      (if q.ids.isEmpty then [] else [(.id, q.ids.map .int)]) ++
        (if q.names.isEmpty then [] else [(.name, q.names.map .text)]) := by
  by_cases noIds : q.ids.isEmpty <;> by_cases noNames : q.names.isEmpty <;>
    simp [RelationalStore.conditions, noIds, noNames, bind]

theorem placeholders_conditions (q : Query) :
    (RelationalStore.conditions q).2.length =
      (Statement.select (RelationalStore.conditions q).1
        (RelationalStore.limitOf q)).placeholders := by
  by_cases noIds : q.ids.isEmpty <;> by_cases noNames : q.names.isEmpty <;>
    simp [RelationalStore.conditions, noIds, noNames, Statement.placeholders]

/-- The bound `IN` lists hold a row exactly when the query admits its entry. -/
theorem within_iff_admits (q : Query) (r : Row) :
    ((bind (RelationalStore.conditions q).1 (RelationalStore.conditions q).2).all
        fun c => c.2.contains (r.get c.1)) = q.admits r.entry := by
  rw [bind_conditions]
  by_cases noIds : q.ids.isEmpty <;> by_cases noNames : q.names.isEmpty <;>
    simp [noIds, noNames, Row.get, Query.admits, List.mem_map]

/-- On rows in id order the select of a query answers the query's selection of their
entries. -/
theorem select_conditions
    (numbering : Numbering (t.rows.map Row.entry) t.sequence)
    (q : Query) :
    (t.select (bind (RelationalStore.conditions q).1 (RelationalStore.conditions q).2)
        (RelationalStore.limitOf q)).map Row.entry = q.select (t.rows.map Row.entry) := by
  have admitted : (t.rows.map Row.entry).filter q.admits =
      (t.rows.filter fun r => (bind (RelationalStore.conditions q).1
        (RelationalStore.conditions q).2).all fun c => c.2.contains (r.get c.1)).map Row.entry := by
    rw [List.filter_map]
    congr 1
    apply List.filter_congr
    intro r _
    exact (within_iff_admits q r).symm
  have unsorted := numbering.mergeSort_filter q
  rw [admitted] at unsorted
  -- the sort sees ids only, which the entries keep
  have sorted : (t.rows.filter fun r => (bind (RelationalStore.conditions q).1
        (RelationalStore.conditions q).2).all fun c => c.2.contains (r.get c.1)).mergeSort
      (fun a b => decide (a.id ≤ b.id)) =
      t.rows.filter fun r => (bind (RelationalStore.conditions q).1
        (RelationalStore.conditions q).2).all fun c => c.2.contains (r.get c.1) := by
    apply List.mergeSort_of_pairwise
    have rows := List.pairwise_map.mp (numbering.sorted)
    exact (rows.filter _).imp id
  unfold select Query.select RelationalStore.limitOf
  by_cases limited : q.limit > 0
  · simp only [sorted, limited, if_true, admitted, List.map_take]
  · simp only [sorted, limited, if_false, admitted]

/-! ## Updating -/

/-- The row an update writes from a row: the fields a patch sets, and the update stamp. -/
def written (r : Row) (p : Patch) (now : Int64) : Row :=
  { r with
    name := p.name.getD r.name
    description := p.description.getD r.description
    defaultValue := p.defaultValue.getD r.defaultValue
    updatedAtNs := now }

@[simp] theorem written_id (r : Row) (p : Patch) (now : Int64) : (written r p now).id = r.id :=
  rfl

theorem written_entry (r : Row) (p : Patch) (now : Int64) :
    (written r p now).entry = { p.apply r.entry with updatedAt := now } :=
  rfl

/-- Writing the row of an id rewrites the entry of that id. -/
theorem entries_rewritten (tb : Table) (id : Int64) (r : Row) (p : Patch) (now : Int64) :
    (tb.rows.map fun o => if o.id == id then written r p now else o).map Row.entry =
      rewrite (tb.rows.map Row.entry) id { p.apply r.entry with updatedAt := now } := by
  rw [List.map_map, rewrite, List.map_map]
  apply List.map_congr_left
  intro o _
  by_cases same : o.id = id
  · simp [same, written_entry]
  · simp [same]

/-- The `SET` list of a patch with the update stamp after it writes the patched row. -/
theorem assignAll_assignments (p : Patch) (now id : Int64) (r : Row) :
    assignAll (((RelationalStore.assignments p).1 ++ [Assignment.updatedAt]).zip
        ((RelationalStore.assignments p).2 ++ [Value.int now, Value.int id])) r =
      some (written r p now) := by
  obtain ⟨defaultValue, description, name⟩ := p
  cases defaultValue <;> cases description <;> cases name <;>
    simp [RelationalStore.assignments, assignAll, Assignment.assign, written]

theorem length_assignments (p : Patch) :
    (RelationalStore.assignments p).2.length = (RelationalStore.assignments p).1.length := by
  obtain ⟨defaultValue, description, name⟩ := p
  cases defaultValue <;> cases description <;> cases name <;> simp [RelationalStore.assignments]

/-! ## Statements on an open database -/

theorem exec_createTable (t : Option Table) :
    exec false .createTable [] t = (.ok [], some (t.getD {})) := by
  simp [exec, Statement.placeholders]

theorem exec_dropTable (t : Option Table) : exec false .dropTable [] t = (.ok [], none) := by
  simp [exec, Statement.placeholders]

theorem exec_insert (tb : Table) (name description : ByteString)
    (defaultValue createdAt updatedAt : Int64) :
    exec false .insert
        [.text name, .text description, .int defaultValue, .int createdAt, .int updatedAt]
        (some tb) =
      match tb.insert name description defaultValue createdAt updatedAt with
      | .ok (row, tb') => (.ok [row], some tb')
      | .error e => (.error e, some tb) := by
  cases inserted : tb.insert name description defaultValue createdAt updatedAt <;>
    simp [exec, Statement.placeholders, inserted]

theorem exec_select
    (tb : Table)
    (conditions : List Within)
    (limit : Option Nat)
    {args : List Value}
    (arity : args.length = (Statement.select conditions limit).placeholders) :
    exec false (.select conditions limit) args (some tb) =
      (.ok (tb.select (bind conditions args) limit), some tb) := by
  simp [exec, arity]

/-- An update binds its assigned values first and the id last. -/
theorem exec_update
    (tb : Table)
    (assignments : List Assignment)
    {values : List Value}
    (id : Int64)
    (arity : values.length = assignments.length) :
    exec false (.update assignments) (values ++ [.int id]) (some tb) =
      match tb.update (assignments.zip (values ++ [.int id])) id with
      | .ok (rows, tb') => (.ok rows, some tb')
      | .error e => (.error e, some tb) := by
  have placed :
      (values ++ [Value.int id]).length = (Statement.update assignments).placeholders := by
    simp [Statement.placeholders, arity]
  have last : (values ++ [Value.int id]).drop assignments.length = [.int id] := by
    rw [← arity, List.drop_left]
  cases updated : tb.update (assignments.zip (values ++ [.int id])) id <;>
    simp [exec, placed, last, updated]

/-- The update of the row an id finds, by the written row. -/
theorem update_of_found
    {assignments : List (Assignment × Value)}
    {id : Int64}
    {r w : Row}
    (found : t.rows.find? (·.id == id) = some r)
    (assigned : assignAll assignments r = some w) :
    t.update assignments id =
      if t.rows.any (fun o => o.id != id && o.name == w.name) then .error .unique
      else .ok ([w], { t with rows := t.rows.map fun o => if o.id == id then w else o }) := by
  simp only [update, found, assigned]

end Table

/-! ## The store on an open database -/

namespace RelationalStore

variable {b : Backend} {s : RelationalStore}

/-- The table exists once the store readied it. -/
def Coherent (s : RelationalStore) : Prop :=
  s.ready = true → s.table.isSome

/-- The store once its table is readied: the table it had, or a fresh one. -/
def readied (s : RelationalStore) : RelationalStore :=
  { table := some (s.table.getD {}), ready := true }

theorem entries_eq (s : RelationalStore) : s.entries = (s.table.getD {}).rows.map Row.entry := by
  unfold entries
  cases s.table <;> rfl

theorem lastId_eq (s : RelationalStore) : s.lastId = (s.table.getD {}).sequence := by
  unfold lastId
  cases s.table <;> rfl

@[simp] theorem readied_entries : s.readied.entries = s.entries := by
  rw [entries_eq, entries_eq s]
  rfl

@[simp] theorem readied_lastId : s.readied.lastId = s.lastId := by
  rw [lastId_eq, lastId_eq s]
  rfl

theorem readied_coherent (s : RelationalStore) : s.readied.Coherent :=
  fun _ => rfl

/-- No row lies past the sequence while the entries keep their numbering. -/
theorem capped_of_numbering (numbering : Numbering s.entries s.lastId) :
    ∀ r ∈ (s.table.getD {}).rows, r.id.toInt ≤ (s.table.getD {}).sequence.toInt := by
  intro r member
  have below := numbering.below r.entry (by rw [entries_eq]; exact List.mem_map_of_mem member)
  rwa [lastId_eq] at below

theorem any_entries (p : Entry → Bool) :
    s.entries.any p = (s.table.getD {}).rows.any (p ∘ Row.entry) := by
  rw [entries_eq, List.any_map]

theorem exec_of_opened (opened : b.closed = false) (st : Statement) (args : List Value) :
    s.exec b st args =
      ((Table.exec false st args s.table).1,
        { s with table := (Table.exec false st args s.table).2 }) := by
  simp [exec, opened]

theorem setup_of_opened (opened : b.closed = false) : s.setup b = (.ok (), s.readied) := by
  simp [setup, exec_of_opened opened, Table.exec_createTable, readied]

theorem teardown_of_opened (opened : b.closed = false) :
    s.teardown b = (.ok (), { table := none, ready := false }) := by
  simp [teardown, exec_of_opened opened, Table.exec_dropTable]

theorem ensure_of_opened (opened : b.closed = false) (coherent : s.Coherent) :
    s.ensure b = (.ok (), s.readied) := by
  unfold ensure
  cases ready : s.ready
  · simp [setup_of_opened opened]
  · -- a ready store already has its table, which readying keeps
    obtain ⟨t, held⟩ := Option.isSome_iff_exists.mp (coherent ready)
    obtain ⟨table, ready'⟩ := s
    simp only at held ready
    subst held ready
    simp [readied]

/-- On an open database a query answers the selection of the entries and only readies the
table. -/
theorem query_of_opened
    (opened : b.closed = false)
    (coherent : s.Coherent)
    (numbering : Numbering s.entries s.lastId)
    (q : Query) :
    query b q s = (.ok (q.select s.entries), s.readied) := by
  have tableNumbering :
      Numbering ((s.table.getD {}).rows.map Row.entry) (s.table.getD {}).sequence := by
    rw [← entries_eq, ← lastId_eq]
    exact numbering
  have selected := Table.select_conditions tableNumbering q
  rw [← entries_eq] at selected
  simp [query, ensure_of_opened opened coherent, exec_of_opened opened, readied,
    Table.exec_select _ _ _ (Table.placeholders_conditions q), selected]

theorem get_of_opened
    (opened : b.closed = false)
    (coherent : s.Coherent)
    (numbering : Numbering s.entries s.lastId)
    (name : ByteString) :
    get b name s = ((named? s.entries name).elim (.error (missingName name)) .ok, s.readied) := by
  rw [get, query_of_opened opened coherent numbering, select_name]
  cases named? s.entries name <;> rfl

theorem getById_of_opened
    (opened : b.closed = false)
    (coherent : s.Coherent)
    (numbering : Numbering s.entries s.lastId)
    (id : Int64) :
    getById b id s = ((withId? s.entries id).elim (.error (missingId id)) .ok, s.readied) := by
  rw [getById, query_of_opened opened coherent numbering, select_id]
  cases withId? s.entries id <;> rfl

/-! ### Creating -/

section Create

variable {e : Entry}

theorem create_of_invalid {f : Fault} (invalid : e.validate = .error f) :
    create b e s = (.error f, s) := by
  simp [create, invalid]

theorem create_of_taken
    (opened : b.closed = false)
    (coherent : s.Coherent)
    (numbering : Numbering s.entries s.lastId)
    (room : s.lastId.toInt < Int64.maxValue.toInt)
    (valid : e.validate = .ok ())
    (held : s.entries.any (·.name == e.name) = true) :
    create b e s = (.error (taken e.name), s.readied) := by
  rw [lastId_eq] at room
  rw [any_entries] at held
  have refused :
      (s.table.getD {}).insert e.name e.description e.defaultValue b.clock b.clock =
        .error .unique :=
    Table.insert_of_taken (capped_of_numbering numbering) room
      (by simpa [Function.comp_def] using held)
  simp [create, valid, ensure_of_opened opened coherent, exec_of_opened opened, readied,
    Table.exec_insert, refused]

/-- A valid entry under a free name is inserted under the id after the sequence, stamped
with the clock reading. -/
theorem create_of_free
    (opened : b.closed = false)
    (coherent : s.Coherent)
    (numbering : Numbering s.entries s.lastId)
    (room : s.lastId.toInt < Int64.maxValue.toInt)
    (valid : e.validate = .ok ())
    (free : s.entries.any (·.name == e.name) = false) :
    create b e s =
      (.ok { e with id := s.lastId + 1, createdAt := b.clock, updatedAt := b.clock },
        { table := some
            { rows := (s.table.getD {}).rows ++
                [⟨s.lastId + 1, e.name, e.description, e.defaultValue, b.clock, b.clock⟩]
              sequence := s.lastId + 1 }
          ready := true }) := by
  rw [lastId_eq] at room ⊢
  rw [any_entries] at free
  have inserted :=
    (Table.insert_of_free (capped_of_numbering numbering) room
      (by simpa [Function.comp_def] using free) :
      (s.table.getD {}).insert e.name e.description e.defaultValue b.clock b.clock = _)
  simp [create, valid, ensure_of_opened opened coherent, exec_of_opened opened, readied,
    Table.exec_insert, inserted, Row.entry]

end Create

/-! ### Updating -/

section Update

variable {id : Int64} {p : Patch}

theorem withId?_entries (s : RelationalStore) (id : Int64) :
    withId? s.entries id = ((s.table.getD {}).rows.find? (·.id == id)).map Row.entry := by
  rw [withId?, entries_eq, List.find?_map]
  rfl

theorem update_of_empty (empty : p.isEmpty = true) :
    update b id p s = (.error (noFields id), s) := by
  simp [update, empty]

theorem update_of_missing
    (opened : b.closed = false)
    (coherent : s.Coherent)
    (numbering : Numbering s.entries s.lastId)
    (nonEmpty : p.isEmpty = false)
    (absent : withId? s.entries id = none) :
    update b id p s = (.error (missingId id), s.readied) := by
  simp [update, nonEmpty, getById_of_opened opened coherent numbering, absent]

/-- An update of a stored id with a non-empty patch: validation first, then the unique
constraint, then the write of the row with the patched fields and the new stamp. -/
theorem update_of_found
    (opened : b.closed = false)
    (coherent : s.Coherent)
    (numbering : Numbering s.entries s.lastId)
    (nonEmpty : p.isEmpty = false)
    {r : Row}
    (found : (s.table.getD {}).rows.find? (·.id == id) = some r) :
    update b id p s =
      match (p.apply r.entry).validate with
      | .error f => (.error f, s.readied)
      | .ok () =>
        if s.entries.any (fun o => o.id != id && o.name == (p.apply r.entry).name) then
          (.error (taken (p.apply r.entry).name), s.readied)
        else
          (.ok { p.apply r.entry with updatedAt := b.clock },
            { table := some { (s.table.getD {}) with
                rows := (s.table.getD {}).rows.map fun o =>
                  if o.id == id then Table.written r p b.clock else o }
              ready := true }) := by
  have located : withId? s.entries id = some r.entry := by
    rw [withId?_entries, found]
    rfl
  have rewritten := Table.update_of_found (t := s.table.getD {}) found
    (Table.assignAll_assignments p b.clock id r)
  have arity : ((assignments p).2 ++ [Value.int b.clock]).length =
      ((assignments p).1 ++ [Assignment.updatedAt]).length := by
    simp [Table.length_assignments]
  have sent := Table.exec_update (s.table.getD {}) ((assignments p).1 ++ [.updatedAt]) id arity
  simp only [List.append_assoc, List.cons_append, List.nil_append] at sent
  cases valid : (p.apply r.entry).validate with
  | error f => simp [update, nonEmpty, getById_of_opened opened coherent numbering, located, valid]
  | ok u =>
      have taken : (s.table.getD {}).rows.any
          (fun o => o.id != id && o.name == (Table.written r p b.clock).name) =
          s.entries.any (fun o => o.id != id && o.name == (p.apply r.entry).name) := by
        rw [any_entries]
        rfl
      by_cases held : s.entries.any (fun o => o.id != id && o.name == (p.apply r.entry).name) = true
      · simp [update, nonEmpty, getById_of_opened opened coherent numbering, located, valid,
          exec_of_opened opened, readied, sent, rewritten, taken, held]
      · simp [update, nonEmpty, getById_of_opened opened coherent numbering, located, valid,
          exec_of_opened opened, readied, sent, rewritten, taken, held, Table.written_entry]

end Update

end RelationalStore

end Catalog
end Tallykeeper
