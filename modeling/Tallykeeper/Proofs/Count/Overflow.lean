import Mathlib
import Tallykeeper.Count.Mem

/-!
# The overflow check of increments

Signed 64-bit addition wraps. The check `overflows current delta` compares `current` with
the bound minus `delta`, a difference that itself stays in range, and so it tells exactly
when the mathematical sum leaves the signed 64-bit range. When it does not, the wrapped sum
is the mathematical one. A sequence of ids steps up by one without wrapping while it has
room, so the id it hands out next is above every id before it.
-/

namespace Tallykeeper

/-- A sum of two 64-bit values that stays in range does not wrap. -/
theorem toInt_add_of_fits
    (a b : Int64)
    (low : Int64.minValue.toInt ≤ a.toInt + b.toInt)
    (high : a.toInt + b.toInt ≤ Int64.maxValue.toInt) :
    (a + b).toInt = a.toInt + b.toInt := by
  rw [Int64.toInt_add]
  rw [Int64.toInt_minValue] at low
  rw [Int64.toInt_maxValue] at high
  exact Int.bmod_eq_of_le (by omega) (by omega)

/-- A difference of two 64-bit values that stays in range does not wrap. -/
theorem toInt_sub_of_fits
    (a b : Int64)
    (low : Int64.minValue.toInt ≤ a.toInt - b.toInt)
    (high : a.toInt - b.toInt ≤ Int64.maxValue.toInt) :
    (a - b).toInt = a.toInt - b.toInt := by
  rw [Int64.toInt_sub]
  rw [Int64.toInt_minValue] at low
  rw [Int64.toInt_maxValue] at high
  exact Int.bmod_eq_of_le (by omega) (by omega)

/-- A value below the top of the range steps up by one without wrapping. -/
theorem toInt_add_one_of_lt
    {a : Int64}
    (room : a.toInt < Int64.maxValue.toInt) :
    (a + 1).toInt = a.toInt + 1 := by
  have low := a.minValue_le_toInt
  have one : (1 : Int64).toInt = 1 := rfl
  rw [toInt_add_of_fits _ _ (by omega) (by omega), one]

/-- Ids handed out from a sequence stay at or below its last value and distinct when one more
item takes the id after it, while the sequence has room. -/
theorem nextId_keeps_numbering
    {α : Type}
    (id : α → Int64)
    {xs : List α}
    {last : Int64}
    (x : α)
    (below : ∀ y ∈ xs, (id y).toInt ≤ last.toInt)
    (distinct : (xs.map id).Nodup)
    (room : last.toInt < Int64.maxValue.toInt)
    (fresh : id x = last + 1) :
    (∀ y ∈ xs ++ [x], (id y).toInt ≤ (last + 1).toInt) ∧ ((xs ++ [x]).map id).Nodup := by
  have next : (last + 1).toInt = last.toInt + 1 := toInt_add_one_of_lt room
  constructor
  · intro y member
    rcases List.mem_append.mp member with old | new
    · have := below y old
      omega
    · rw [List.mem_singleton.mp new, fresh]
  · rw [List.map_append, List.nodup_append]
    refine ⟨distinct, List.nodup_singleton _, ?_⟩
    -- every old id is at or below `last`, the new one above it
    intro a old c new same
    simp only [List.map_cons, List.map_nil, List.mem_singleton] at new
    obtain ⟨y, member, rfl⟩ := List.mem_map.mp old
    have := below y member
    rw [same, new, fresh, next] at this
    omega

/-- Whether an integer lies in the signed 64-bit range. -/
def Representable (x : Int) : Prop :=
  Int64.minValue.toInt ≤ x ∧ x ≤ Int64.maxValue.toInt

instance : DecidablePred Representable :=
  fun x => inferInstanceAs (Decidable (Int64.minValue.toInt ≤ x ∧ x ≤ Int64.maxValue.toInt))

/-- The bound a positive delta is checked against, the top of the range less the delta,
does not wrap. -/
theorem toInt_maxValue_sub_of_pos
    {delta : Int64}
    (positive : 0 < delta) :
    (Int64.maxValue - delta).toInt = Int64.maxValue.toInt - delta.toInt := by
  have highD := delta.toInt_le
  have minimum : Int64.minValue.toInt = -2 ^ 63 := Int64.toInt_minValue
  have maximum : Int64.maxValue.toInt = 2 ^ 63 - 1 := Int64.toInt_maxValue
  have zero : (0 : Int64).toInt = 0 := rfl
  rw [Int64.lt_iff_toInt_lt, zero] at positive
  exact toInt_sub_of_fits _ _ (by omega) (by omega)

/-- The bound every other delta is checked against, the bottom of the range less the
delta, does not wrap either; for the least delta it is zero. -/
theorem toInt_minValue_sub_of_nonpos
    {delta : Int64}
    (nonpositive : delta ≤ 0) :
    (Int64.minValue - delta).toInt = Int64.minValue.toInt - delta.toInt := by
  have lowD := delta.minValue_le_toInt
  have minimum : Int64.minValue.toInt = -2 ^ 63 := Int64.toInt_minValue
  have maximum : Int64.maxValue.toInt = 2 ^ 63 - 1 := Int64.toInt_maxValue
  have zero : (0 : Int64).toInt = 0 := rfl
  rw [Int64.le_iff_toInt_le, zero] at nonpositive
  exact toInt_sub_of_fits _ _ (by omega) (by omega)

/-- The check is true exactly when the sum leaves the signed 64-bit range. -/
theorem overflows_iff
    (current delta : Int64) :
    overflows current delta = true ↔
      current.toInt + delta.toInt < Int64.minValue.toInt ∨
        Int64.maxValue.toInt < current.toInt + delta.toInt := by
  have lowC := current.minValue_le_toInt
  have highC := current.toInt_le
  have zero : (0 : Int64).toInt = 0 := rfl
  unfold overflows
  by_cases positive : delta > 0
  · -- past the bottom is out of reach: only the top less `delta` is compared
    rw [if_pos positive]
    simp only [gt_iff_lt, decide_eq_true_eq, Int64.lt_iff_toInt_lt,
      toInt_maxValue_sub_of_pos positive]
    rw [gt_iff_lt, Int64.lt_iff_toInt_lt, zero] at positive
    omega
  · -- past the top is out of reach: only the bottom less `delta` is compared
    rw [if_neg positive]
    simp only [decide_eq_true_eq, Int64.lt_iff_toInt_lt,
      toInt_minValue_sub_of_nonpos (Int64.not_lt.mp positive)]
    rw [gt_iff_lt, Int64.lt_iff_toInt_lt, zero] at positive
    omega

/-- The check is true exactly for the sums the range does not hold. -/
theorem overflows_iff_not_representable
    (current delta : Int64) :
    overflows current delta = true ↔ ¬ Representable (current.toInt + delta.toInt) := by
  rw [overflows_iff, Representable, not_and_or, not_le, not_le]

theorem overflows_eq_false_iff
    (current delta : Int64) :
    overflows current delta = false ↔ Representable (current.toInt + delta.toInt) := by
  rw [← Bool.not_eq_true, overflows_iff_not_representable, not_not]

/-- Without overflow, the wrapped sum is the mathematical one. -/
theorem toInt_add_of_not_overflows
    {current delta : Int64}
    (fits : overflows current delta = false) :
    (current + delta).toInt = current.toInt + delta.toInt := by
  have within : ¬ (current.toInt + delta.toInt < Int64.minValue.toInt ∨
      Int64.maxValue.toInt < current.toInt + delta.toInt) := by
    rw [← overflows_iff, fits]
    exact Bool.false_ne_true
  simp only [not_or, not_lt] at within
  exact toInt_add_of_fits _ _ within.1 within.2

end Tallykeeper
