import Mathlib
import Tallykeeper.Proofs.Ledger.Store

/-!
# The two ledger engines agree up to row ids

A client drives the ledger with reads, creations, updates, upserts and teardowns. While the
database is open, either engine answers every call as a map from (counter, user) pairs to values
does (`Command.onView`), rows shown without their ids; so the memory and the relational ledger
answer every run alike, fault for fault (`ledger_engines_agree`).

They differ in their ids only. Each engine numbers its rows upwards (`Store.Climbing`): ids
increase in row order, are positive, and none passes the sequence, so distinct rows have
distinct ids, and a call other than a teardown keeps every row under its id and key. In memory
the sequence moves only for a new row, so the ids are exactly `1, …, n` (`Store.Counted`); the
relational sequence also moves for an upsert that overwrites a row, so its ids may skip.
-/

namespace Tallykeeper
namespace Ledger

open Storage

/-- A row without its id: its counter, its user and its value. -/
def Row.fields (r : Row) : Int64 × Int64 × Int64 :=
  (r.counterId, r.userId, r.value)

/-- A row's id with its key. -/
def Row.idKey (r : Row) : Int64 × Int64 × Int64 :=
  (r.id, r.counterId, r.userId)

/-- A call of the ledger. -/
inductive Command
  | get (counterId userId : Int64)
  | create (counterId userId value : Int64)
  | update (counterId userId value : Int64)
  | upsert (counterId userId value : Int64)
  | teardown
  deriving DecidableEq, Repr

namespace Command

/-- Runs a command on a backend: the row it answers, none for a teardown. -/
def run (b : Backend) : Command → Store → Except Fault (Option Row) × Store
  | .get c u, s => ((Store.get b c u s).1.map some, (Store.get b c u s).2)
  | .create c u v, s => ((Store.create b c u v s).1.map some, (Store.create b c u v s).2)
  | .update c u v, s => ((Store.update b c u v s).1.map some, (Store.update b c u v s).2)
  | .upsert c u v, s => ((Store.upsert b c u v s).1.map some, (Store.upsert b c u v s).2)
  | .teardown, s => ((Store.teardown b s).1.map fun _ => none, (Store.teardown b s).2)

/-- Runs commands in order, collecting their answers. -/
def runAll (b : Backend) : List Command → Store → List (Except Fault (Option Row)) × Store
  | [], s => ([], s)
  | c :: rest, s =>
    ((c.run b s).1 :: (runAll b rest (c.run b s).2).1, (runAll b rest (c.run b s).2).2)

/-- What a map from pairs to values answers to a command, a row shown by its fields, and the
map after it. -/
def onView (view : Int64 × Int64 → Option Int64) :
    Command → Except Fault (Option (Int64 × Int64 × Int64)) × (Int64 × Int64 → Option Int64)
  | .get c u =>
    ((view (c, u)).elim (.error (.wrap .counterNotFound (Store.keyWords c u)))
      fun v => .ok (some (c, u, v)), view)
  | .create c u v =>
    if (view (c, u)).isSome then (.error (.wrap .counterExists (Store.keyWords c u)), view)
    else (.ok (some (c, u, v)), Function.update view (c, u) (some v))
  | .update c u v =>
    if (view (c, u)).isSome then (.ok (some (c, u, v)), Function.update view (c, u) (some v))
    else (.error (.wrap .counterNotFound (Store.keyWords c u)), view)
  | .upsert c u v => (.ok (some (c, u, v)), Function.update view (c, u) (some v))
  | .teardown => (.ok none, fun _ => none)

/-- What a map answers to commands in order, and the map after them. -/
def runOnView (view : Int64 × Int64 → Option Int64) :
    List Command →
      List (Except Fault (Option (Int64 × Int64 × Int64))) × (Int64 × Int64 → Option Int64)
  | [] => ([], view)
  | c :: rest =>
    ((c.onView view).1 :: (runOnView (c.onView view).2 rest).1,
      (runOnView (c.onView view).2 rest).2)

end Command

namespace Store

variable {b : Backend} {s : Store} {counterId userId value : Int64}

/-- The store once its table is ready for a statement. -/
def readied (b : Backend) (s : Store) : Store :=
  { s with ready := s.ready || b.engine == .relational }

@[simp] theorem readied_rows : (readied b s).rows = s.rows := rfl

@[simp] theorem readied_lastId : (readied b s).lastId = s.lastId := rfl

@[simp] theorem find?_readied : (readied b s).find? counterId userId = s.find? counterId userId :=
  rfl

@[simp] theorem view_readied : (readied b s).view = s.view := rfl

/-- On an open backend readying the table succeeds. -/
theorem prepare_of_opened (opened : b.closed = false) : prepare b s = (.ok (), readied b s) := by
  have ensured : b.ensure s.ready createTable = .ok () := by
    simp [Backend.ensure, Backend.setup, opened]
  simp [prepare, ensured, Backend.run, opened, readied]

/-- The row found for a pair carries the pair, and the view gives the pair its value. -/
theorem find?_some {r : Row} (found : s.find? counterId userId = some r) :
    r.counterId = counterId ∧ r.userId = userId ∧ s.view (counterId, userId) = some r.value := by
  have matched := List.find?_some found
  simp only [Bool.and_eq_true, beq_iff_eq] at matched
  exact ⟨matched.1, matched.2, by simp [view, found]⟩

theorem view_of_absent (absent : s.find? counterId userId = none) :
    s.view (counterId, userId) = none := by
  simp [view, absent]

/-- A new row in the readied table gives its pair the value. -/
theorem view_insert_readied (absent : s.find? counterId userId = none) (value : Int64) :
    ((readied b s).insert counterId userId value).2.view =
      Function.update s.view (counterId, userId) (some value) := by
  simpa using view_insert (s := readied b s) (by simpa using absent)

/-! ## Each statement on an open backend -/

section Opened

variable (opened : b.closed = false)
include opened

theorem get_of_found {r : Row} (found : s.find? counterId userId = some r) :
    get b counterId userId s = (.ok r, readied b s) := by
  simp [get, prepare_of_opened opened, found]

theorem get_of_absent (absent : s.find? counterId userId = none) :
    get b counterId userId s =
      (.error (.wrap .counterNotFound (keyWords counterId userId)), readied b s) := by
  simp [get, prepare_of_opened opened, absent]

theorem create_of_found {r : Row} (found : s.find? counterId userId = some r) :
    create b counterId userId value s =
      (.error (.wrap .counterExists (keyWords counterId userId)), readied b s) := by
  simp [create, prepare_of_opened opened, found]

theorem create_of_absent (absent : s.find? counterId userId = none) :
    create b counterId userId value s =
      (.ok ((readied b s).insert counterId userId value).1,
        ((readied b s).insert counterId userId value).2) := by
  simp [create, prepare_of_opened opened, absent]

theorem update_of_found {r : Row} (found : s.find? counterId userId = some r) :
    update b counterId userId value s =
      (.ok ((readied b s).overwrite r value).1, ((readied b s).overwrite r value).2) := by
  simp [update, prepare_of_opened opened, found]

theorem update_of_absent (absent : s.find? counterId userId = none) :
    update b counterId userId value s =
      (.error (.wrap .counterNotFound (keyWords counterId userId)), readied b s) := by
  simp [update, prepare_of_opened opened, absent]

theorem upsert_of_absent (absent : s.find? counterId userId = none) :
    upsert b counterId userId value s =
      (.ok ((readied b s).insert counterId userId value).1,
        ((readied b s).insert counterId userId value).2) := by
  simp [upsert, prepare_of_opened opened, absent]

/-- An upsert of a pair that has a row overwrites it, the relational table spending an id. -/
theorem upsert_of_found {r : Row} (found : s.find? counterId userId = some r) (value : Int64) :
    ∃ spent : Store, spent.rows = s.rows ∧
      (spent.lastId = s.lastId ∨ (b.engine = .relational ∧ spent.lastId = s.lastId + 1)) ∧
      upsert b counterId userId value s = (.ok (spent.overwrite r value).1,
        (spent.overwrite r value).2) := by
  by_cases relational : b.engine = .relational
  · refine ⟨{ readied b s with lastId := s.lastId + 1 }, rfl, .inr ⟨relational, rfl⟩, ?_⟩
    simp [upsert, prepare_of_opened opened, found, relational]
  · refine ⟨readied b s, rfl, .inl rfl, ?_⟩
    simp [upsert, prepare_of_opened opened, found, relational]

theorem teardown_of_opened :
    teardown b s = (.ok (), { rows := [], lastId := 0, ready := b.engine == .memory }) := by
  simp [teardown, Backend.teardown, opened]

end Opened

end Store

namespace Command

open Store

variable {b : Backend} {s : Store}

/-- What a command does to the rows on an open backend: it keeps them, adds a row for a pair
that has none, overwrites the row of a pair (the relational table spending an id on an upsert),
or clears the table. -/
theorem run_cases (opened : b.closed = false) (c : Command) (s : Store) :
    ((c.run b s).2.rows = s.rows ∧ (c.run b s).2.lastId = s.lastId) ∨
      (∃ counterId userId value, s.find? counterId userId = none ∧
        (c.run b s).2.rows = (s.insert counterId userId value).2.rows ∧
        (c.run b s).2.lastId = s.lastId + 1) ∨
      (∃ counterId userId value r, s.find? counterId userId = some r ∧
        (c.run b s).2.rows = (s.overwrite r value).2.rows ∧
        ((c.run b s).2.lastId = s.lastId ∨
          (b.engine = .relational ∧ (c.run b s).2.lastId = s.lastId + 1))) ∨
      (c = .teardown ∧ (c.run b s).2.rows = [] ∧ (c.run b s).2.lastId = 0) := by
  cases c with
  | get counterId userId =>
      left
      cases found : s.find? counterId userId with
      | none => simp [run, get_of_absent opened found]
      | some r => simp [run, get_of_found opened found]
  | create counterId userId value =>
      cases found : s.find? counterId userId with
      | none =>
          refine .inr (.inl ⟨counterId, userId, value, found, ?_, ?_⟩) <;>
            simp [run, create_of_absent opened found, Store.insert]
      | some r =>
          left
          simp [run, create_of_found opened found]
  | update counterId userId value =>
      cases found : s.find? counterId userId with
      | none =>
          left
          simp [run, update_of_absent opened found]
      | some r =>
          refine .inr (.inr (.inl ⟨counterId, userId, value, r, found, ?_, .inl ?_⟩)) <;>
            simp [run, update_of_found opened found, Store.overwrite]
  | upsert counterId userId value =>
      cases found : s.find? counterId userId with
      | none =>
          refine .inr (.inl ⟨counterId, userId, value, found, ?_, ?_⟩) <;>
            simp [run, upsert_of_absent opened found, Store.insert]
      | some r =>
          obtain ⟨spent, rows, spending, upserted⟩ := upsert_of_found opened found value
          refine .inr (.inr (.inl ⟨counterId, userId, value, r, found, ?_, ?_⟩))
          · simp [run, upserted, Store.overwrite, rows]
          · simpa [run, upserted, Store.overwrite] using spending
  | teardown =>
      right; right; right
      simp [run, teardown_of_opened opened]

/-- On an open backend a command answers as the map of values does, a row shown by its
fields, and leaves the map the command gives. -/
theorem run_onView
    (opened : b.closed = false)
    (distinct : (s.rows.map (·.id)).Nodup)
    (c : Command) :
    (c.run b s).1.map (Option.map Row.fields) = (c.onView s.view).1 ∧
      (c.run b s).2.view = (c.onView s.view).2 := by
  cases c with
  | get counterId userId =>
      cases found : s.find? counterId userId with
      | none =>
          have absent := view_of_absent found
          simp [run, onView, Except.map, get_of_absent opened found, absent]
      | some r =>
          obtain ⟨counter, user, held⟩ := find?_some found
          simp [run, onView, Except.map, get_of_found opened found, held, Row.fields, counter, user]
  | create counterId userId value =>
      cases found : s.find? counterId userId with
      | none =>
          have absent := view_of_absent found
          have added := view_insert_readied (b := b) found value
          refine ⟨?_, by simp [run, onView, create_of_absent opened found, absent, added]⟩
          simp [run, onView, Except.map, create_of_absent opened found, absent, Store.insert,
            Row.fields]
      | some r =>
          have held := (find?_some found).2.2
          simp [run, onView, Except.map, create_of_found opened found, held]
  | update counterId userId value =>
      cases found : s.find? counterId userId with
      | none =>
          have absent := view_of_absent found
          simp [run, onView, Except.map, update_of_absent opened found, absent]
      | some r =>
          obtain ⟨counter, user, held⟩ := find?_some found
          have rewritten : ((readied b s).overwrite r value).2.view =
              Function.update s.view (counterId, userId) (some value) := by
            simpa using view_overwrite (s := readied b s) distinct (by simpa using found)
          refine ⟨?_, by simp [run, onView, update_of_found opened found, held, rewritten]⟩
          simp [run, onView, Except.map, update_of_found opened found, held, Store.overwrite,
            Row.fields, counter, user]
  | upsert counterId userId value =>
      cases found : s.find? counterId userId with
      | none =>
          have added := view_insert_readied (b := b) found value
          refine ⟨?_, by simp [run, onView, upsert_of_absent opened found, added]⟩
          simp [run, onView, Except.map, upsert_of_absent opened found, Store.insert, Row.fields]
      | some r =>
          obtain ⟨counter, user, -⟩ := find?_some found
          obtain ⟨spent, rows, -, upserted⟩ := upsert_of_found opened found value
          have foundThere : spent.find? counterId userId = some r := by
            simpa [find?, rows] using found
          have rewritten : (spent.overwrite r value).2.view =
              Function.update s.view (counterId, userId) (some value) := by
            rw [← view_congr rows]
            exact view_overwrite (rows ▸ distinct) foundThere
          refine ⟨?_, by simp [run, onView, upserted, rewritten]⟩
          simp [run, onView, Except.map, upserted, Store.overwrite, Row.fields, counter, user]
  | teardown =>
      refine ⟨by simp [run, onView, Except.map, teardown_of_opened opened], ?_⟩
      funext key
      simp [run, onView, Except.map, teardown_of_opened opened, view, find?]

end Command

/-! ## Numbering -/

namespace Store

variable {b : Backend} {s s' : Store} {counterId userId value : Int64}

/-- Rows numbered upwards: their ids increase in row order and are positive, none passes the
sequence, and the sequence is not negative. -/
structure Climbing (s : Store) : Prop where
  increasing : (s.rows.map (·.id.toInt)).Pairwise (· < ·)
  positive : ∀ i ∈ s.rows.map (·.id.toInt), 0 < i
  below : ∀ i ∈ s.rows.map (·.id.toInt), i ≤ s.lastId.toInt
  start : 0 ≤ s.lastId.toInt

/-- Rows numbered `1, …, n` in row order, the sequence standing at `n`. -/
structure Counted (s : Store) : Prop where
  ids : s.rows.map (·.id.toInt) = (List.range' 1 s.rows.length).map Int.ofNat
  last : s.lastId.toInt = s.rows.length

theorem idInts_congr (ids : s'.rows.map (·.id) = s.rows.map (·.id)) :
    s'.rows.map (·.id.toInt) = s.rows.map (·.id.toInt) := by
  have through := congrArg (List.map Int64.toInt) ids
  simpa only [List.map_map, Function.comp_def] using through

theorem Climbing.distinct (climbing : s.Climbing) : (s.rows.map (·.id)).Nodup := by
  have ints : (s.rows.map (·.id.toInt)).Nodup := climbing.increasing.imp ne_of_lt
  have through : s.rows.map (·.id.toInt) = (s.rows.map (·.id)).map Int64.toInt := by simp
  rw [through] at ints
  exact List.Nodup.of_map _ ints

/-- Rows with the same ids under a sequence that did not go back stay numbered upwards. -/
theorem Climbing.congr
    (climbing : s.Climbing)
    (ids : s'.rows.map (·.id) = s.rows.map (·.id))
    (later : s.lastId.toInt ≤ s'.lastId.toInt) :
    s'.Climbing := by
  have same := idInts_congr ids
  obtain ⟨increasing, positive, below, start⟩ := climbing
  rw [← same] at increasing positive below
  exact ⟨increasing, positive, fun i member => (below i member).trans later, start.trans later⟩

theorem climbing_of_cleared (rows : s.rows = []) (last : s.lastId = 0) : s.Climbing :=
  ⟨by simp [rows], by simp [rows], by simp [rows], by rw [last]; exact le_refl _⟩

theorem ids_overwrite {r : Row} (value : Int64) :
    (s.overwrite r value).2.rows.map (·.id) = s.rows.map (·.id) := by
  show (s.rows.map fun o => if o.id == r.id then { r with value } else o).map (·.id) = _
  rw [List.map_map]
  apply List.map_congr_left
  intro o _
  by_cases same : o.id = r.id <;> simp [same]

/-- Of rows with distinct ids, overwriting the row of a pair keeps every row's id and key. -/
theorem idKeys_overwrite
    {r : Row}
    (distinct : (s.rows.map (·.id)).Nodup)
    (found : s.find? counterId userId = some r)
    (value : Int64) :
    (s.overwrite r value).2.rows.map Row.idKey = s.rows.map Row.idKey := by
  obtain ⟨-, pre, post, split, -⟩ := List.find?_eq_some_iff_append.mp found
  show (s.rows.map fun o => if o.id == r.id then { r with value } else o).map Row.idKey = _
  rw [rows_overwrite distinct split, split]
  simp [Row.idKey]

/-- A new row under the next id keeps the rows numbered upwards. -/
theorem Climbing.insert
    (climbing : s.Climbing)
    (room : s.lastId.toInt < Int64.maxValue.toInt)
    (counterId userId value : Int64) :
    (s.insert counterId userId value).2.Climbing := by
  have next := toInt_add_one_of_lt room
  obtain ⟨increasing, positive, below, start⟩ := climbing
  have ids : (s.insert counterId userId value).2.rows.map (·.id.toInt) =
      s.rows.map (·.id.toInt) ++ [s.lastId.toInt + 1] := by
    simp [Store.insert, next]
  have last : (s.insert counterId userId value).2.lastId.toInt = s.lastId.toInt + 1 := by
    simp [Store.insert, next]
  constructor
  · rw [ids, List.pairwise_append]
    refine ⟨increasing, List.pairwise_singleton _ _, ?_⟩
    intro i old j new
    simp only [List.mem_singleton] at new
    have := below i old
    omega
  · rw [ids]
    intro i member
    rcases List.mem_append.mp member with old | new
    · exact positive i old
    · simp only [List.mem_singleton] at new
      omega
  · rw [ids, last]
    intro i member
    rcases List.mem_append.mp member with old | new
    · have := below i old
      omega
    · simp only [List.mem_singleton] at new
      omega
  · rw [last]
    omega

theorem mem_counted {i : Int} {n : Nat} (member : i ∈ (List.range' 1 n).map Int.ofNat) :
    0 < i ∧ i ≤ n := by
  obtain ⟨k, counted, rfl⟩ := List.mem_map.mp member
  simp only [List.mem_range'_1] at counted
  simp only [Int.ofNat_eq_natCast]
  omega

theorem Counted.climbing (counted : s.Counted) : s.Climbing := by
  obtain ⟨ids, last⟩ := counted
  constructor
  · rw [ids]
    exact List.pairwise_map.mpr ((List.pairwise_lt_range' 1).imp Int.ofNat_lt.mpr)
  · rw [ids]
    exact fun i member => (mem_counted member).1
  · rw [ids, last]
    exact fun i member => (mem_counted member).2
  · rw [last]
    omega

/-! ## Runs -/

/-- A command on an open backend keeps the rows numbered upwards and moves the sequence by one
at most. -/
theorem Climbing.run
    (opened : b.closed = false)
    (climbing : s.Climbing)
    (room : s.lastId.toInt < Int64.maxValue.toInt)
    (c : Command) :
    (c.run b s).2.Climbing ∧ (c.run b s).2.lastId.toInt ≤ s.lastId.toInt + 1 := by
  have next := toInt_add_one_of_lt room
  rcases Command.run_cases opened c s with
    ⟨rows, last⟩ | ⟨counterId, userId, value, -, rows, last⟩ |
      ⟨counterId, userId, value, r, -, rows, spent⟩ | ⟨-, rows, last⟩
  · exact ⟨climbing.congr (by rw [rows]) (by rw [last]), by rw [last]; omega⟩
  · have added := climbing.insert room counterId userId value
    exact ⟨added.congr (by rw [rows]) (by rw [last]; rfl), by rw [last, next]⟩
  · -- an overwrite keeps the ids; an upsert on the relational table spends one
    have later : s.lastId.toInt ≤ (c.run b s).2.lastId.toInt ∧
        (c.run b s).2.lastId.toInt ≤ s.lastId.toInt + 1 := by
      rcases spent with same | ⟨-, spent⟩
      · rw [same]
        omega
      · rw [spent, next]
        omega
    exact ⟨climbing.congr (by rw [rows, ids_overwrite]) later.1, later.2⟩
  · have start := climbing.start
    exact ⟨climbing_of_cleared rows last, by rw [last]; simp only [Int64.toInt_zero]; omega⟩

/-- In memory a command keeps the rows numbered `1, …, n`: only a new row moves the sequence. -/
theorem Counted.run
    (memory : b.engine = .memory)
    (counted : s.Counted)
    (room : s.lastId.toInt < Int64.maxValue.toInt)
    (c : Command) :
    (c.run b s).2.Counted := by
  have opened : b.closed = false := by simp [Backend.closed, memory]
  have next := toInt_add_one_of_lt room
  rcases Command.run_cases opened c s with
    ⟨rows, last⟩ | ⟨counterId, userId, value, -, rows, last⟩ |
      ⟨counterId, userId, value, r, -, rows, spent⟩ | ⟨-, rows, last⟩
  · exact ⟨by rw [rows]; exact counted.ids, by rw [rows, last]; exact counted.last⟩
  · -- the new row takes the number after the last
    constructor
    · rw [rows]
      simp [Store.insert, List.range'_1_concat, counted.ids, next, counted.last, Nat.add_comm]
    · rw [last, next, counted.last, rows]
      simp [Store.insert]
  · have same : (c.run b s).2.lastId = s.lastId := by
      rcases spent with same | ⟨relational, -⟩
      · exact same
      · rw [memory] at relational
        cases relational
    have ids : (c.run b s).2.rows.map (·.id.toInt) = s.rows.map (·.id.toInt) :=
      idInts_congr (by rw [rows, ids_overwrite])
    have len : (c.run b s).2.rows.length = s.rows.length := by
      rw [rows]
      simp [Store.overwrite]
    exact ⟨by rw [ids, len]; exact counted.ids, by rw [same, len]; exact counted.last⟩
  · exact ⟨by rw [rows]; rfl, by rw [rows, last]; rfl⟩

/-- A command other than a teardown keeps every row under its id and key, in place. -/
theorem idKeys_prefix
    (opened : b.closed = false)
    (distinct : (s.rows.map (·.id)).Nodup)
    {c : Command}
    (kept : c ≠ .teardown) :
    s.rows.map Row.idKey <+: (c.run b s).2.rows.map Row.idKey := by
  rcases Command.run_cases opened c s with
    ⟨rows, -⟩ | ⟨counterId, userId, value, -, rows, -⟩ |
      ⟨counterId, userId, value, r, found, rows, -⟩ | ⟨teardown, -, -⟩
  · rw [rows]
  · rw [rows]
    simp only [Store.insert, List.map_append]
    exact List.prefix_append _ _
  · rw [rows, idKeys_overwrite distinct found]
  · exact absurd teardown kept

/-- On an open backend a run from rows numbered upwards answers as the map of values does and
keeps the rows numbered upwards, while the sequence has room for every call. -/
theorem Climbing.runAll
    (opened : b.closed = false)
    (calls : List Command)
    (climbing : s.Climbing)
    (room : s.lastId.toInt + calls.length ≤ Int64.maxValue.toInt) :
    (Command.runAll b calls s).1.map (Except.map (Option.map Row.fields)) =
        (Command.runOnView s.view calls).1 ∧
      (Command.runAll b calls s).2.Climbing := by
  -- induction on the calls; each step is `Climbing.run` and `Command.run_onView`
  induction calls generalizing s with
  | nil => exact ⟨rfl, climbing⟩
  | cons c rest ih =>
      simp only [List.length_cons, Nat.cast_add, Nat.cast_one] at room
      have below : s.lastId.toInt < Int64.maxValue.toInt := by omega
      obtain ⟨climbing', bound⟩ := climbing.run opened below c
      obtain ⟨answer, view⟩ := Command.run_onView opened climbing.distinct c
      obtain ⟨answers, final⟩ := ih climbing' (by omega)
      rw [view] at answers
      refine ⟨?_, final⟩
      simp only [Command.runAll, Command.runOnView, List.map_cons, answer, answers]

/-- In memory a run keeps the rows numbered `1, …, n`, while the sequence has room for every
call. -/
theorem Counted.runAll
    (memory : b.engine = .memory)
    (calls : List Command)
    (counted : s.Counted)
    (room : s.lastId.toInt + calls.length ≤ Int64.maxValue.toInt) :
    (Command.runAll b calls s).2.Counted := by
  induction calls generalizing s with
  | nil => exact counted
  | cons c rest ih =>
      simp only [List.length_cons, Nat.cast_add, Nat.cast_one] at room
      have opened : b.closed = false := by simp [Backend.closed, memory]
      have below : s.lastId.toInt < Int64.maxValue.toInt := by omega
      have bound := (counted.climbing.run opened below c).2
      exact ih (counted.run memory below c) (by omega)

end Store

/-- The memory and the relational ledger, from empty tables and while the database is open,
answer every run of reads, creations, updates, upserts and teardowns as a map of values does, so
alike up to row ids, fault for fault. Both number their rows upwards, so distinct rows have
distinct ids, and every call but a teardown keeps each row under its id and key. The memory ids
are exactly `1, …, n`. -/
theorem ledger_engines_agree
    (calls : List Command)
    (ready : Bool)
    (room : calls.length < 2 ^ 63) :
    (Command.runAll {} calls {}).1.map (Except.map (Option.map Row.fields)) =
        (Command.runOnView (fun _ => none) calls).1 ∧
      (Command.runAll { engine := .relational } calls { ready }).1.map
          (Except.map (Option.map Row.fields)) = (Command.runOnView (fun _ => none) calls).1 ∧
      (Command.runAll {} calls {}).2.Counted ∧
      (Command.runAll { engine := .relational } calls { ready }).2.Climbing ∧
      ((Command.runAll {} calls {}).2.rows.map (·.id)).Nodup ∧
      ((Command.runAll { engine := .relational } calls { ready }).2.rows.map (·.id)).Nodup ∧
      ∀ c : Command, c ≠ .teardown →
        (Command.runAll {} calls {}).2.rows.map Row.idKey <+:
            (c.run {} (Command.runAll {} calls {}).2).2.rows.map Row.idKey ∧
          (Command.runAll { engine := .relational } calls { ready }).2.rows.map Row.idKey <+:
            (c.run { engine := .relational }
              (Command.runAll { engine := .relational } calls { ready }).2).2.rows.map Row.idKey := by
  have fits : (0 : Int64).toInt + calls.length ≤ Int64.maxValue.toInt := by
    rw [Int64.toInt_maxValue]
    simp only [Int64.toInt_zero, zero_add]
    omega
  have counted : ({} : Store).Counted := ⟨rfl, rfl⟩
  have climbing : ({ ready } : Store).Climbing := Store.climbing_of_cleared rfl rfl
  obtain ⟨memoryAnswers, memoryClimbing⟩ :=
    Store.Climbing.runAll (b := {}) rfl calls counted.climbing fits
  obtain ⟨relationalAnswers, relationalClimbing⟩ :=
    Store.Climbing.runAll (b := { engine := .relational }) rfl calls climbing fits
  have empty : ({} : Store).view = fun _ => none := by
    funext key
    simp [Store.view, Store.find?]
  have sameView : ({ ready } : Store).view = ({} : Store).view := Store.view_congr rfl
  rw [sameView, empty] at relationalAnswers
  rw [empty] at memoryAnswers
  refine ⟨memoryAnswers, relationalAnswers,
    Store.Counted.runAll rfl calls counted fits, relationalClimbing, memoryClimbing.distinct,
    relationalClimbing.distinct, fun c kept => ⟨?_, ?_⟩⟩
  · exact Store.idKeys_prefix rfl memoryClimbing.distinct kept
  · exact Store.idKeys_prefix rfl relationalClimbing.distinct kept

/-- A run with a taken pair, an update of a missing pair, an upsert over a row and a teardown. -/
theorem ledger_engines_agree_upserts :
    let calls : List Command := [.create 1 1 5, .create 1 1 6, .update 2 2 1, .upsert 1 1 7,
      .upsert 2 1 0, .get 1 1, .teardown, .create 4 4 4]
    calls.length < 2 ^ 63 ∧
      (Command.runAll {} calls {}).1.map (Except.map (Option.map Row.fields)) =
        (Command.runOnView (fun _ => none) calls).1 ∧
      (Command.runAll { engine := .relational } calls { ready := false }).1.map
          (Except.map (Option.map Row.fields)) = (Command.runOnView (fun _ => none) calls).1 :=
  ⟨by decide, (ledger_engines_agree _ false (by decide)).1,
    (ledger_engines_agree _ false (by decide)).2.1⟩

/-- The relational ids skip the number an upsert spent on an existing row. -/
example :
    (Command.runAll { engine := .relational } [.upsert 1 1 5, .upsert 1 1 6, .create 2 2 0]
      {}).2.rows.map (·.id) = [1, 3] := by
  decide

end Ledger
end Tallykeeper
