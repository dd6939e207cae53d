import Mathlib
import Tallykeeper.Proofs.Service.Agreement

/-!
# Reading, incrementing and resetting counters

The counter operations answer as the tally does and keep the agreement. Counter keys are
the decimal catalog id and user id around a colon; decimal text holds no colon, so a key
names one pair, and a count written under one pair's key leaves every other pair alone.

A read goes through the `values` cache, which holds only pairs' current values, so it
answers what the count store holds. An increment adds in the count store itself, refused
when the sum leaves the 64-bit range, and then drops the cached value; a reset writes
zero through the cache. Publishing the new value changes nothing the tally sees.
-/

namespace Tallykeeper
namespace Service

open Catalog Cache

/-! ## Counter keys -/

theorem decimal_inj {a b : Int64} (same : Numeral.decimal a = Numeral.decimal b) : a = b := by
  have read := Numeral.parseSigned_encode_decimal a
  rw [same, Numeral.parseSigned_encode_decimal b] at read
  exact (Except.ok.inj read).symm

/-- A counter key names one pair. -/
theorem counterKey_inj
    {id userId id' userId' : Int64}
    (same : counterKey id userId = counterKey id' userId') :
    id = id' ∧ userId = userId' := by
  have chars := congrArg String.toList same
  simp only [counterKey, String.toList_append] at chars
  have split := append_cons_inj_of_not_mem (Numeral.colon_not_mem_decimal id)
    (Numeral.colon_not_mem_decimal id') (by simpa using chars)
  exact ⟨decimal_inj (String.toList_inj.mp split.1), decimal_inj (String.toList_inj.mp split.2)⟩

/-! ## The tally after a write -/

namespace Tally

variable {t : Tally} {id userId v : Int64}

theorem setCount_counts_self : (t.setCount id userId v).counts (id, userId) = some v := by
  simp [setCount]

theorem setCount_counts_of_ne
    {id' userId' : Int64}
    (other : (id', userId') ≠ (id, userId)) :
    (t.setCount id userId v).counts (id', userId') = t.counts (id', userId') := by
  simp [setCount, Function.update_of_ne other]

theorem Counted.setCount
    {key : String}
    {v' : Int64}
    (counted : t.Counted key v')
    (other : key ≠ counterKey id userId) :
    (t.setCount id userId v).Counted key v' := by
  obtain ⟨id', userId', rfl, value⟩ := counted
  have differs : (id', userId') ≠ (id, userId) := by
    rintro ⟨⟩
    exact other rfl
  exact ⟨id', userId', rfl, by rw [setCount_counts_of_ne differs, value]⟩

theorem counted_setCount : (t.setCount id userId v).Counted (counterKey id userId) v :=
  ⟨id, userId, rfl, setCount_counts_self⟩

end Tally

namespace Stores

variable {s s' : Stores} {t : Tally}

/-- A count rewritten under one pair's key agrees with the tally that sets that pair. -/
theorem Agrees.rewrites
    (agrees : s.Agrees t)
    {id userId v : Int64}
    (rewrites : Rewrites s s' (counterKey id userId) v) :
    s'.Agrees (t.setCount id userId v) where
  entries := by rw [rewrites.catalog]; exact agrees.entries
  lastId := by rw [rewrites.catalog]; exact agrees.lastId
  clock := by rw [rewrites.backend]; exact agrees.clock
  numbered := by rw [rewrites.catalog]; exact agrees.numbered
  opened := by rw [rewrites.backend]; exact agrees.opened
  unscripted := by rw [rewrites.script]; exact agrees.unscripted
  healthy := by rw [rewrites.ready]; exact agrees.healthy
  counts := by
    intro id' userId'
    by_cases same : (id', userId') = (id, userId)
    · obtain ⟨rfl, rfl⟩ := Prod.mk.inj same
      rw [Tally.setCount_counts_self]
      exact rewrites.written
    · rw [Tally.setCount_counts_of_ne same]
      apply rewrites.kept _ _ _ (agrees.counts id' userId')
      intro equal
      obtain ⟨rfl, rfl⟩ := counterKey_inj equal
      exact same rfl

end Stores

namespace World

variable {w : World} {t : Tally}

theorem readValue_eq (key : String) :
    w.readValue key =
      ((w.values.get valuesDelegate key w.stores).1,
        { w with
          values := (w.values.get valuesDelegate key w.stores).2.1
          stores := (w.values.get valuesDelegate key w.stores).2.2 }) :=
  rfl

/-- A read through the `values` cache answers what the count store holds for the pair, and
keeps the agreement. -/
theorem readValue_of_agrees (agrees : w.Agrees t) (id userId : Int64) :
    (w.readValue (counterKey id userId)).1 =
        (t.counts (id, userId)).elim (.error (.wrap .keyNotFound (counterKey id userId))) .ok ∧
      (w.readValue (counterKey id userId)).2.Agrees t := by
  have loaded := Stores.countGet_of_holds agrees.stores.healthy (agrees.stores.counts id userId)
  constructor
  · rw [readValue_eq, Tiered.get_fst_of_within agrees.values]
    · simp [valuesDelegate, loaded]
    · intro v counted
      obtain ⟨id', userId', same, value⟩ := counted
      obtain ⟨rfl, rfl⟩ := counterKey_inj same
      simp [valuesDelegate, loaded, value]
  · rw [readValue_eq]
    refine ⟨?_, agrees.ids, ?_, agrees.apart⟩
    · show (w.values.get valuesDelegate (counterKey id userId) w.stores).2.2.Agrees t
      apply Tiered.get_snd_snd (fun s : Stores => s.Agrees t) agrees.stores
      simpa [valuesDelegate, loaded] using agrees.stores
    · apply agrees.values.get
      intro v read
      cases value : t.counts (id, userId) <;> simp_all [valuesDelegate]
      exact ⟨id, userId, rfl, value⟩

/-- A read answers the pair's value, or not found; it keeps the agreement. -/
theorem counterGet_of_agrees (agrees : w.Agrees t) (name : Text.ByteString) (userId : Int64) :
    Service.Answers (counterGet name userId w).1 (t.get name userId) ∧
      (counterGet name userId w).2.Agrees t := by
  cases found : t.idOf name with
  | none =>
      obtain ⟨w1, resolved, kept, -⟩ := resolve_of_unregistered agrees found
      simp only [counterGet, resolved, Tally.get, found]
      exact ⟨answers_error (by simp [unregistered]), kept⟩
  | some id =>
      obtain ⟨w1, resolved, kept, -⟩ := resolve_of_registered agrees found
      obtain ⟨answered, readKept⟩ := readValue_of_agrees kept id userId
      cases read : w1.readValue (counterKey id userId) with
      | mk r w2 =>
          rw [read] at answered readKept
          simp only [counterGet, resolved, read, Tally.get, found]
          -- the read answers the pair's value, or the not-found fault of the count store
          cases value : t.counts (id, userId) with
          | none =>
              rw [value, Option.elim_none] at answered
              subst answered
              exact ⟨answers_error (by simp), readKept⟩
          | some v =>
              rw [value, Option.elim_some] at answered
              subst answered
              exact ⟨answers_ok v, readKept⟩

theorem clampDelta_eq (delta : Int64) : clampDelta delta = Tally.effectiveDelta delta := by
  simp [clampDelta, Tally.effectiveDelta, maxDelta]

/-- An increment answers as the tally does and keeps the agreement: a sum out of range
changes nothing, any other sum is stored, its cached value dropped and the sum published. -/
theorem counterIncrement_of_agrees
    (agrees : w.Agrees t)
    (name : Text.ByteString)
    (userId delta : Int64) :
    Service.Answers (counterIncrement name userId delta w).1 (t.increment name userId delta).1 ∧
      (counterIncrement name userId delta w).2.Agrees (t.increment name userId delta).2 ∧
      Publishes w (counterIncrement name userId delta w).2
        (t.event (.increment name userId delta)) := by
  cases found : t.idOf name with
  | none =>
      obtain ⟨modelled, published⟩ := Tally.increment_of_unregistered userId delta found
      obtain ⟨w1, resolved, kept, aside⟩ := resolve_of_unregistered agrees found
      have refused : counterIncrement name userId delta w = (.error (unregistered name), w1) := by
        simp [counterIncrement, resolved]
      rw [refused, modelled, published]
      exact ⟨answers_error (by simp [unregistered]), kept, ⟨w1, aside, rfl⟩⟩
  | some id =>
      obtain ⟨w1, resolved, kept, aside⟩ := resolve_of_registered agrees found
      set current := (t.counts (id, userId)).getD 0
      set d := Tally.effectiveDelta delta
      have held := kept.stores.counts id userId
      by_cases wraps : overflows current d = true
      · -- the sum leaves the range: refused as an invalid entity, nothing stored
        obtain ⟨modelled, published⟩ := Tally.increment_of_outside found rfl
          ((overflows_iff_not_representable current d).mp wraps)
        obtain ⟨f, incremented, overflow⟩ := Stores.countIncr_of_overflows kept.stores.healthy held wraps
        have refused : counterIncrement name userId delta w =
            (.error (f.under .invalidEntity "counter increment: "), w1) := by
          simp [counterIncrement, resolved, clampDelta_eq, onStores_eq, incremented, overflow, d]
        rw [refused, modelled, published]
        exact ⟨answers_error (by simp [Fault.under]), kept, ⟨w1, aside, rfl⟩⟩
      · -- the sum is stored, the cached value dropped and the sum published
        have fits : overflows current d = false := by simpa using wraps
        obtain ⟨modelled, published⟩ := Tally.increment_of_fits found rfl
          ((overflows_eq_false_iff current d).mp fits)
        obtain ⟨answered, rewrites⟩ := Stores.countIncr_of_fits kept.stores.healthy held fits
        -- the world once the sum is stored and its cached value dropped, before publishing
        set w2 : World := { w1 with
          stores := (w1.stores.countIncr (counterKey id userId) d).2
          values := w1.values.invalidate (counterKey id userId) }
        have stored : w2.Agrees (t.setCount id userId (current + d)) :=
          ⟨kept.stores.rewrites rewrites, kept.ids,
            kept.values.invalidate fun _ _ other counted => counted.setCount other, kept.apart⟩
        have incremented : counterIncrement name userId delta w =
            (.ok (current + d), (w2.propagate { counterId := id, userId, value := current + d }).2) := by
          cases incr : w1.stores.countIncr (counterKey id userId) d with
          | mk r s' =>
              rw [incr] at answered
              simp only at answered
              subst answered
              simp [counterIncrement, resolved, clampDelta_eq, onStores_eq, incr, w2, d, current]
        have beside : Aside w w2 :=
          aside.trans (Aside.counted kept.apart (Stores.countIncr_only _ d w1.stores) _)
        rw [incremented, modelled, published]
        exact ⟨answers_ok _, stored.propagate _, ⟨w2, beside, rfl⟩⟩

/-- A reset answers zero for a registered name, stores zero through the cache and publishes
it; it keeps the agreement. -/
theorem counterReset_of_agrees (agrees : w.Agrees t) (name : Text.ByteString) (userId : Int64) :
    Service.Answers (counterReset name userId w).1 (t.reset name userId).1 ∧
      (counterReset name userId w).2.Agrees (t.reset name userId).2 ∧
      Publishes w (counterReset name userId w).2 (t.event (.reset name userId)) := by
  cases found : t.idOf name with
  | none =>
      obtain ⟨modelled, published⟩ := Tally.reset_of_unregistered userId found
      obtain ⟨w1, resolved, kept, aside⟩ := resolve_of_unregistered agrees found
      have refused : counterReset name userId w = (.error (unregistered name), w1) := by
        simp [counterReset, resolved]
      rw [refused, modelled, published]
      exact ⟨answers_error (by simp [unregistered]), kept, ⟨w1, aside, rfl⟩⟩
  | some id =>
      obtain ⟨modelled, published⟩ := Tally.reset_of_registered userId found
      obtain ⟨w1, resolved, kept, aside⟩ := resolve_of_registered agrees found
      obtain ⟨answered, rewrites⟩ :=
        Stores.countSet_of_healthy kept.stores.healthy (counterKey id userId) 0
      -- the world once zero is written through the cache, before publishing
      set w2 : World := { w1 with
        values := { w1.values with tier := w1.values.tier.add (counterKey id userId) 0 }
        stores := (w1.stores.countSet (counterKey id userId) 0).2 }
      have stored : w2.Agrees (t.setCount id userId 0) :=
        ⟨kept.stores.rewrites rewrites, kept.ids,
          kept.values.add Tally.counted_setCount fun _ _ other counted => counted.setCount other,
          kept.apart⟩
      have written : counterReset name userId w =
          (.ok 0, (w2.propagate { counterId := id, userId }).2) := by
        cases set : w1.stores.countSet (counterKey id userId) 0 with
        | mk r s' =>
            rw [set] at answered
            simp only at answered
            subst answered
            simp [counterReset, resolved, writeValue, Tiered.update, valuesDelegate, set, w2,
              Except.map]
      have beside : Aside w w2 :=
        aside.trans (Aside.counted kept.apart (Stores.countSet_only _ 0 w1.stores) _)
      rw [written, modelled, published]
      exact ⟨answers_ok _, stored.propagate _, ⟨w2, beside, rfl⟩⟩

end World

end Service
end Tallykeeper
