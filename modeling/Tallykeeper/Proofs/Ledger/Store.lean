import Mathlib
import Tallykeeper.Ledger.Store
import Tallykeeper.Change.Event
import Tallykeeper.Proofs.Count.Overflow

/-!
# The ledger as a map

Seen from outside, the ledger maps each (counter, user) pair to the value of its row, if it
has one: `view` below. While no two rows share an id, an upsert that goes through sets the
pair's value and leaves every other pair alone, and one that fails changes no row. Applying
events one after another therefore leaves each pair with the value of its last event.
-/

namespace Tallykeeper
namespace Ledger

/-- The value of the last event of a pair, if there is one. -/
def lastValue? (es : List Event) (key : Int64 × Int64) : Option Int64 :=
  ((es.filter fun e => (e.counterId, e.userId) == key).getLast?).map (·.value)

/-- A map of pair values after the events, in order, each setting its pair. -/
def replay (es : List Event) (view : Int64 × Int64 → Option Int64) :
    Int64 × Int64 → Option Int64 :=
  es.foldl (fun v e => Function.update v (e.counterId, e.userId) (some e.value)) view

theorem replay_append (a b : List Event) (view : Int64 × Int64 → Option Int64) :
    replay (a ++ b) view = replay b (replay a view) :=
  List.foldl_append

/-- After a replay each pair holds its last event's value, or what it held before. -/
theorem replay_eq_lastValue?
    (es : List Event)
    (view : Int64 × Int64 → Option Int64)
    (key : Int64 × Int64) :
    replay es view key = (lastValue? es key).or (view key) := by
  induction es generalizing view with
  | nil => simp [replay, lastValue?]
  | cons e rest ih =>
      have step : replay (e :: rest) view =
          replay rest (Function.update view (e.counterId, e.userId) (some e.value)) := rfl
      rw [step, ih]
      by_cases same : (e.counterId, e.userId) = key
      · subst same
        simp [lastValue?, List.getLast?_cons]
      · have other : ((e.counterId, e.userId) == key) = false := by simpa using same
        simp [lastValue?, other, Function.update_of_ne (Ne.symm same)]

namespace Store

variable {s : Store} {b : Storage.Backend} {counterId userId value : Int64}

/-- The value of each pair's row. -/
def view (s : Store) (key : Int64 × Int64) : Option Int64 :=
  (s.find? key.1 key.2).map (·.value)

/-- Every id lies at or below the last id handed out, and no two rows share one. -/
structure Numbered (s : Store) : Prop where
  below : ∀ r ∈ s.rows, r.id.toInt ≤ s.lastId.toInt
  distinct : (s.rows.map (·.id)).Nodup

/-- Readying the table for a statement keeps every row and the sequence. -/
theorem prepare_rows : (prepare b s).2.rows = s.rows ∧ (prepare b s).2.lastId = s.lastId := by
  unfold prepare
  split <;> exact ⟨rfl, rfl⟩

/-- Creating the table keeps every row and the sequence. -/
theorem setup_rows : (setup b s).2.rows = s.rows ∧ (setup b s).2.lastId = s.lastId := by
  unfold setup
  split <;> exact ⟨rfl, rfl⟩

theorem view_congr {s' : Store} (rows : s'.rows = s.rows) : s'.view = s.view := by
  funext key
  simp [view, find?, rows]

theorem Numbered.congr
    {s' : Store}
    (numbered : s.Numbered)
    (rows : s'.rows = s.rows)
    (lastId : s'.lastId = s.lastId) :
    s'.Numbered :=
  ⟨by rw [rows, lastId]; exact numbered.below, by rw [rows]; exact numbered.distinct⟩

/-- A row added after the others is found only for a pair no other row holds. -/
theorem find?_of_rows_append
    {s' : Store}
    {extra : Row}
    (rows : s'.rows = s.rows ++ [extra])
    (c u : Int64) :
    s'.find? c u =
      (s.find? c u).or (if extra.counterId = c ∧ extra.userId = u then some extra else none) := by
  simp only [find?, rows, List.find?_append, List.find?_singleton]
  by_cases keyed : extra.counterId = c ∧ extra.userId = u <;> simp [keyed]

/-- A new row sets its pair and leaves the others. -/
theorem view_insert
    (absent : s.find? counterId userId = none) :
    (s.insert counterId userId value).2.view =
      Function.update s.view (counterId, userId) (some value) := by
  funext key
  obtain ⟨c, u⟩ := key
  have found : (s.insert counterId userId value).2.find? c u = _ := find?_of_rows_append rfl c u
  simp only [view]
  rw [found]
  by_cases same : (c, u) = (counterId, userId)
  · obtain ⟨rfl, rfl⟩ := Prod.mk.inj same
    simp [absent]
  · have differs : ¬ (counterId = c ∧ userId = u) := by
      rintro ⟨rfl, rfl⟩
      exact same rfl
    simp [differs, Function.update_of_ne same, view]

/-- Of rows with distinct ids, overwriting a row rewrites it in place. -/
theorem rows_overwrite
    {r : Row}
    (distinct : (s.rows.map (·.id)).Nodup)
    {pre post : List Row}
    (split : s.rows = pre ++ r :: post) :
    (s.rows.map fun o => if o.id == r.id then { r with value } else o) =
      pre ++ { r with value } :: post := by
  have apart := distinct
  rw [split, List.map_append, List.nodup_append] at apart
  obtain ⟨-, restDistinct, across⟩ := apart
  have others : ∀ o ∈ pre ++ post, o.id ≠ r.id := by
    intro o member same
    rcases List.mem_append.mp member with before | after
    · exact across o.id (List.mem_map_of_mem before) r.id (by simp) same
    · simp only [List.map_cons, List.nodup_cons, List.mem_map] at restDistinct
      exact restDistinct.1 ⟨o, after, same⟩
  rw [split, List.map_append, List.map_cons]
  have keptBefore : (pre.map fun o => if o.id == r.id then { r with value } else o) = pre := by
    conv_rhs => rw [← List.map_id pre]
    apply List.map_congr_left
    intro o member
    simp [others o (List.mem_append_left _ member)]
  have keptAfter : (post.map fun o => if o.id == r.id then { r with value } else o) = post := by
    conv_rhs => rw [← List.map_id post]
    apply List.map_congr_left
    intro o member
    simp [others o (List.mem_append_right _ member)]
  rw [keptBefore, keptAfter]
  simp

/-- Overwriting the row of a pair sets the pair and leaves the others. -/
theorem view_overwrite
    {r : Row}
    (distinct : (s.rows.map (·.id)).Nodup)
    (found : s.find? counterId userId = some r) :
    (s.overwrite r value).2.view = Function.update s.view (counterId, userId) (some value) := by
  obtain ⟨matched, pre, post, split, missed⟩ := List.find?_eq_some_iff_append.mp found
  have keyed : r.counterId = counterId ∧ r.userId = userId := by simpa using matched
  have rewritten : (s.overwrite r value).2.rows = pre ++ { r with value } :: post :=
    rows_overwrite distinct split
  funext key
  obtain ⟨c, u⟩ := key
  by_cases same : (c, u) = (counterId, userId)
  · obtain ⟨rfl, rfl⟩ := Prod.mk.inj same
    have skipped : pre.find? (fun o => o.counterId == c && o.userId == u) = none :=
      List.find?_eq_none.mpr fun o member => by
        simpa [Decidable.imp_iff_not_or] using missed o member
    simp [view, find?, rewritten, List.find?_append, skipped, keyed]
  · have differs : ¬ (r.counterId = c ∧ r.userId = u) := by
      rintro ⟨first, second⟩
      apply same
      rw [← first, ← second, keyed.1, keyed.2]
    rw [Function.update_of_ne same]
    simp [view, find?, rewritten, split, List.find?_append, differs]

theorem Numbered.insert
    (numbered : s.Numbered)
    (room : s.lastId.toInt < Int64.maxValue.toInt)
    (counterId userId value : Int64) :
    (s.insert counterId userId value).2.Numbered ∧
      (s.insert counterId userId value).2.lastId.toInt = s.lastId.toInt + 1 := by
  obtain ⟨below, distinct⟩ := nextId_keeps_numbering (·.id)
    ({ id := s.lastId + 1, counterId, userId, value } : Row) numbered.below numbered.distinct room rfl
  exact ⟨⟨below, distinct⟩, toInt_add_one_of_lt room⟩

theorem Numbered.overwrite
    (numbered : s.Numbered)
    {r : Row}
    (found : s.find? counterId userId = some r)
    (value : Int64) :
    (s.overwrite r value).2.Numbered := by
  obtain ⟨-, pre, post, split, -⟩ := List.find?_eq_some_iff_append.mp found
  have rows : (s.overwrite r value).2.rows.map (·.id) = s.rows.map (·.id) := by
    show (s.rows.map fun o => if o.id == r.id then { r with value } else o).map (·.id) = _
    rw [rows_overwrite numbered.distinct split, split]
    simp
  constructor
  · intro o member
    have member' : o.id ∈ s.rows.map (·.id) := by
      rw [← rows]
      exact List.mem_map_of_mem member
    obtain ⟨o', original, same⟩ := List.mem_map.mp member'
    have := numbered.below o' original
    show o.id.toInt ≤ s.lastId.toInt
    rw [← same]
    exact this
  · rw [rows]
    exact numbered.distinct

/-- Spending an id keeps the numbering while the sequence has room. -/
theorem Numbered.spend
    (numbered : s.Numbered)
    (room : s.lastId.toInt < Int64.maxValue.toInt) :
    ({ s with lastId := s.lastId + 1 } : Store).Numbered ∧
      (s.lastId + 1).toInt = s.lastId.toInt + 1 := by
  have next : (s.lastId + 1).toInt = s.lastId.toInt + 1 := toInt_add_one_of_lt room
  refine ⟨⟨?_, numbered.distinct⟩, next⟩
  intro o member
  have := numbered.below o member
  show o.id.toInt ≤ (s.lastId + 1).toInt
  omega

/-- An upsert that goes through sets its pair, one that fails changes no row; either way no
two rows share an id and the sequence moves by one at most. -/
theorem upsert_spec
    (numbered : s.Numbered)
    (room : s.lastId.toInt < Int64.maxValue.toInt) :
    (upsert b counterId userId value s).2.Numbered ∧
      (upsert b counterId userId value s).2.lastId.toInt ≤
        s.lastId.toInt + (if (upsert b counterId userId value s).1.isOk then 1 else 0) ∧
      s.lastId.toInt ≤ (upsert b counterId userId value s).2.lastId.toInt ∧
      (upsert b counterId userId value s).2.view =
        if (upsert b counterId userId value s).1.isOk then
          Function.update s.view (counterId, userId) (some value)
        else s.view := by
  obtain ⟨rows, lastId⟩ := prepare_rows (b := b) (s := s)
  cases ready : prepare b s with
  | mk r s' =>
      rw [ready] at rows lastId
      simp only at rows lastId
      have prepared : s'.Numbered := numbered.congr rows lastId
      have sameView : s'.view = s.view := view_congr rows
      have sameId : s'.lastId.toInt = s.lastId.toInt := by rw [lastId]
      have fits : s'.lastId.toInt < Int64.maxValue.toInt := by rw [lastId]; exact room
      cases r with
      | error f =>
          -- a table that cannot be readied, or a closed database: no row changes
          have failed : upsert b counterId userId value s = (.error f, s') := by
            simp [upsert, ready]
          rw [failed, lastId]
          exact ⟨prepared, by simp [Except.isOk, Except.toBool], le_refl _,
            by simp [Except.isOk, Except.toBool, sameView]⟩
      | ok u =>
          cases present : s'.find? counterId userId with
          | none =>
              have inserted : upsert b counterId userId value s =
                  (.ok (s'.insert counterId userId value).1, (s'.insert counterId userId value).2) := by
                simp [upsert, ready, present]
              obtain ⟨numberedNext, next⟩ := prepared.insert fits counterId userId value
              rw [inserted]
              refine ⟨numberedNext, ?_, ?_, ?_⟩
              · show (s'.insert counterId userId value).2.lastId.toInt ≤
                  s.lastId.toInt + (if (Except.ok _ : Except Fault Row).isOk then 1 else 0)
                simp only [Except.isOk, Except.toBool, if_true]
                omega
              · show s.lastId.toInt ≤ (s'.insert counterId userId value).2.lastId.toInt
                omega
              simp only [Except.isOk, Except.toBool, if_true]
              rw [view_insert present, sameView]
          | some row =>
              -- the relational table spends an id on an overwrite too
              have spent : ∃ s'' : Store, s''.rows = s'.rows ∧ s''.Numbered ∧
                  s'.lastId.toInt ≤ s''.lastId.toInt ∧ s''.lastId.toInt ≤ s'.lastId.toInt + 1 ∧
                  upsert b counterId userId value s =
                    (.ok (s''.overwrite row value).1, (s''.overwrite row value).2) := by
                by_cases relational : b.engine = .relational
                · obtain ⟨spentNumbered, next⟩ := prepared.spend fits
                  refine ⟨{ s' with lastId := s'.lastId + 1 }, rfl, spentNumbered, ?_, ?_, ?_⟩
                  · show s'.lastId.toInt ≤ (s'.lastId + 1).toInt
                    omega
                  · show (s'.lastId + 1).toInt ≤ s'.lastId.toInt + 1
                    omega
                  simp [upsert, ready, present, relational]
                · refine ⟨s', rfl, prepared, le_refl _, by omega, ?_⟩
                  simp [upsert, ready, present, relational]
              obtain ⟨s'', sameRows, numberedSpent, lower, upper, overwritten⟩ := spent
              have foundThere : s''.find? counterId userId = some row := by
                rw [← present]
                simp [find?, sameRows]
              rw [overwritten]
              refine ⟨numberedSpent.overwrite foundThere value, ?_, ?_, ?_⟩
              · show s''.lastId.toInt ≤
                  s.lastId.toInt + (if (Except.ok _ : Except Fault Row).isOk then 1 else 0)
                simp only [Except.isOk, Except.toBool, if_true]
                omega
              · show s.lastId.toInt ≤ s''.lastId.toInt
                omega
              · simp only [Except.isOk, Except.toBool, if_true]
                rw [view_overwrite numberedSpent.distinct foundThere, view_congr sameRows, sameView]

/-- On an open database every upsert goes through. -/
theorem upsert_isOk (online : b.closed = false) :
    (upsert b counterId userId value s).1.isOk = true := by
  have prepared : (prepare b s).1 = .ok () := by
    unfold prepare Storage.Backend.ensure
    split
    · rename_i ensured
      split at ensured
      · simp at ensured
      · simp [Storage.Backend.setup, online] at ensured
    · simp [Storage.Backend.run, online]
  unfold upsert
  cases readied : prepare b s with
  | mk r s' =>
      rw [readied] at prepared
      simp only at prepared
      subst prepared
      simp only
      split <;> rfl

end Store

end Ledger
end Tallykeeper
