import Mathlib
import Tallykeeper.Cache.Tiered

/-!
# What a tiered cache may hold

A local tier is a list of pairs searched from the front. Reading a key or writing one
moves pairs around and may drop the oldest, and removing a key drops all its pairs; none
of these makes the tier hold a pair it did not hold or was not just given. So a relation
`R` between keys and values that every local pair satisfies keeps holding through every
operation of a tiered cache, as long as a load stores only what satisfies `R` and a write
satisfies `R` once the delegate accepted it.

When moreover the delegate answers every value that `R` allows, a read through the cache
answers what the delegate would: the local tier is invisible.
-/

namespace Tallykeeper
namespace Cache

/-! ## The local tier -/

namespace Lru

variable {K V : Type} [DecidableEq K]

theorem find?_without
    (k k' : K)
    (es : List (K × V)) :
    (without k es).find? (fun e => e.1 = k') =
      if k' = k then none else es.find? (fun e => e.1 = k') := by
  induction es with
  | nil => split <;> rfl
  | cons e rest ih =>
      by_cases dropped : e.1 = k
      · have skipped : (without k (e :: rest)) = without k rest := by
          simp [without, dropped]
        rw [skipped, ih]
        split
        · rfl
        · rename_i other
          have differs : ¬ e.1 = k' := fun same => other (same ▸ dropped)
          simp [differs]
      · have kept : (without k (e :: rest)) = e :: without k rest := by
          simp [without, dropped]
        rw [kept, List.find?_cons, List.find?_cons, ih]
        by_cases found : e.1 = k'
        · have differs : ¬ k' = k := fun same => dropped (found.trans same)
          simp [found, differs]
        · simp [found]

theorem peek?_without
    (t : Lru K V)
    (k k' : K) :
    ({ t with entries := without k t.entries } : Lru K V).peek? k' =
      if k' = k then none else t.peek? k' := by
  simp only [peek?, find?_without]
  split <;> rfl

theorem peek?_cons
    (t : Lru K V)
    (k k' : K)
    (v : V) :
    ({ t with entries := (k, v) :: without k t.entries } : Lru K V).peek? k' =
      if k' = k then some v else t.peek? k' := by
  by_cases here : k' = k
  · subst here
    simp [peek?]
  · have rest := peek?_without t k k'
    simp only [peek?] at rest ⊢
    rw [List.find?_cons_of_neg (by simpa using fun same => here same.symm), rest]
    simp [here]

/-- Dropping the oldest pair only forgets. -/
theorem peek?_trim
    {t : Lru K V}
    {k : K}
    {v : V}
    (held : t.trim.peek? k = some v) :
    t.peek? k = some v := by
  unfold trim at held
  split at held
  · split at held
    · simp only [peek?, Option.map_eq_some_iff] at held ⊢
      obtain ⟨e, found, rfl⟩ := held
      exact ⟨e, (List.dropLast_prefix t.entries).find?_eq_some found, rfl⟩
    · exact held
  · exact held

/-- A read leaves what the tier holds as it was. -/
theorem peek?_get?
    {t t' : Lru K V}
    {k : K}
    {v : V}
    (read : t.get? k = some (v, t')) :
    t.peek? k = some v ∧ ∀ k', t'.peek? k' = t.peek? k' := by
  unfold get? at read
  split at read
  · rename_i held
    simp only [Option.some.injEq, Prod.mk.injEq] at read
    obtain ⟨rfl, rfl⟩ := read
    refine ⟨held, fun k' => ?_⟩
    rw [peek?_cons]
    split
    · rename_i same
      rw [same, held]
    · rfl
  · cases read

/-- A write holds the written pair and, for other keys, only what it held before. -/
theorem peek?_add
    {t : Lru K V}
    {k k' : K}
    {v v' : V}
    (held : (t.add k v).peek? k' = some v') :
    (k' = k ∧ v' = v) ∨ (k' ≠ k ∧ t.peek? k' = some v') := by
  unfold add at held
  split at held
  · rw [peek?_cons] at held
    split at held
    · rename_i same
      exact .inl ⟨same, (Option.some.inj held).symm⟩
    · rename_i other
      exact .inr ⟨other, held⟩
  · have kept := peek?_trim held
    by_cases same : k' = k
    · subst same
      simp [peek?] at kept
      exact .inl ⟨rfl, kept.symm⟩
    · simp only [peek?] at kept ⊢
      rw [List.find?_cons_of_neg (by simpa using fun equal => same equal.symm)] at kept
      exact .inr ⟨same, kept⟩

theorem peek?_remove
    (t : Lru K V)
    (k k' : K) :
    (t.remove k).peek? k' = if k' = k then none else t.peek? k' := by
  unfold remove
  split
  · exact peek?_without t k k'
  · rename_i absent
    split
    · rename_i same
      rw [same]
      exact absent
    · rfl

end Lru

/-! ## Tiered caches -/

namespace Tiered

variable {σ K V : Type} [DecidableEq K]

/-- Every local pair of a cache satisfies a relation. -/
def Within (R : K → V → Prop) (t : Tiered K V) : Prop :=
  ∀ k v, t.tier.peek? k = some v → R k v

variable {R R' : K → V → Prop} {t : Tiered K V} {d : Delegate σ K V} {k : K} {s : σ}

theorem Within.mono
    (within : t.Within R)
    (weaker : ∀ k v, R k v → R' k v) :
    t.Within R' :=
  fun k v held => weaker k v (within k v held)

theorem within_create (capacity : Int) : (create capacity : Tiered K V).Within R := by
  intro k v held
  simp [create, Lru.empty, Lru.peek?] at held

/-- Dropping a key keeps every other pair, so a relation that changed only at that key
still covers the cache. -/
theorem Within.invalidate
    (within : t.Within R)
    (elsewhere : ∀ k' v, k' ≠ k → R k' v → R' k' v) :
    (t.invalidate k).Within R' := by
  intro k' v held
  simp only [Tiered.invalidate, Lru.peek?_remove] at held
  split at held
  · cases held
  · rename_i other
    exact elsewhere k' v other (within k' v held)

/-- Writing a pair that satisfies the new relation keeps the cache within it. -/
theorem Within.add
    {v : V}
    (within : t.Within R)
    (here : R' k v)
    (elsewhere : ∀ k' v', k' ≠ k → R k' v' → R' k' v') :
    ({ t with tier := t.tier.add k v } : Tiered K V).Within R' := by
  intro k' v' held
  rcases Lru.peek?_add held with ⟨rfl, rfl⟩ | ⟨other, before⟩
  · exact here
  · exact elsewhere k' v' other (within k' v' before)

/-- Warming a cache with pairs that satisfy the relation keeps it within the relation. -/
theorem Within.warm
    (within : t.Within R)
    (pairs : List (K × V))
    (all : ∀ p ∈ pairs, R p.1 p.2) :
    (t.warm pairs).Within R := by
  induction pairs generalizing t with
  | nil => exact within
  | cons p rest ih =>
      have first : ({ t with tier := t.tier.add p.1 p.2 } : Tiered K V).Within R :=
        within.add (all p (List.mem_cons_self ..)) fun _ _ _ kept => kept
      exact ih first fun q later => all q (List.mem_cons_of_mem _ later)

theorem get_of_hit
    {v : V}
    {tier' : Lru K V}
    (hit : t.tier.get? k = some (v, tier')) :
    t.get d k s = (.ok v, { t with tier := tier', hits := t.hits + 1 }, s) := by
  simp [get, hit]

theorem get_of_load
    {v : V}
    {s' : σ}
    (miss : t.tier.get? k = none)
    (loaded : d.get k s = (.ok v, s')) :
    t.get d k s =
      (.ok v, { t with misses := t.misses + 1, loads := t.loads + 1, tier := t.tier.add k v },
        s') := by
  simp [get, miss, loaded]

theorem get_of_failed_load
    {e : Fault}
    {s' : σ}
    (miss : t.tier.get? k = none)
    (failed : d.get k s = (.error e, s')) :
    t.get d k s = (.error e, { t with misses := t.misses + 1, loads := t.loads + 1 }, s') := by
  simp [get, miss, failed]

/-- A read through the cache answers what the delegate answers, when the delegate
answers every value the local pairs may hold. -/
theorem get_fst_of_within
    (within : t.Within R)
    (answers : ∀ v, R k v → (d.get k s).1 = .ok v) :
    (t.get d k s).1 = (d.get k s).1 := by
  cases read : t.tier.get? k with
  | some hit =>
      obtain ⟨v, tier'⟩ := hit
      rw [get_of_hit read, answers v (within k v (Lru.peek?_get? read).1)]
  | none =>
      match loaded : d.get k s with
      | (.ok v, s') => rw [get_of_load read loaded]
      | (.error e, s') => rw [get_of_failed_load read loaded]

/-- A read leaves the delegate's state alone or moves it as the delegate's own read does. -/
theorem get_snd_snd
    (P : σ → Prop)
    (before : P s)
    (load : P (d.get k s).2) :
    P (t.get d k s).2.2 := by
  cases read : t.tier.get? k with
  | some hit =>
      obtain ⟨v, tier'⟩ := hit
      rw [get_of_hit read]
      exact before
  | none =>
      match loaded : d.get k s with
      | (.ok v, s') =>
          rw [get_of_load read loaded]
          rw [loaded] at load
          exact load
      | (.error e, s') =>
          rw [get_of_failed_load read loaded]
          rw [loaded] at load
          exact load

/-- A read stores only a successful load, so it keeps the cache within a relation that
every successful load satisfies. -/
theorem Within.get
    (within : t.Within R)
    (loads : ∀ v, (d.get k s).1 = .ok v → R k v) :
    (t.get d k s).2.1.Within R := by
  cases read : t.tier.get? k with
  | some hit =>
      obtain ⟨v, tier'⟩ := hit
      rw [get_of_hit read]
      intro k' v' held
      rw [(Lru.peek?_get? read).2 k'] at held
      exact within k' v' held
  | none =>
      match loaded : d.get k s with
      | (.ok v, s') =>
          rw [get_of_load read loaded]
          exact Within.add within (loads v (by rw [loaded])) fun _ _ _ kept => kept
      | (.error e, s') =>
          rw [get_of_failed_load read loaded]
          exact within

/-- A write reaches the tier only when the delegate accepted it. -/
theorem Within.update
    {v : V}
    (within : t.Within R)
    (accepted : (d.update k v s).1 = .ok () → R' k v)
    (elsewhere : ∀ k' v', k' ≠ k → R k' v' → R' k' v')
    (refused : ∀ e, (d.update k v s).1 = .error e → ∀ k' v', R k' v' → R' k' v') :
    (t.update d k v s).2.1.Within R' := by
  unfold Tiered.update
  split
  · rename_i s' written
    exact Within.add within (accepted (by rw [written])) elsewhere
  · rename_i e s' failed
    intro k' v' held
    exact refused e (by rw [failed]) k' v' (within k' v' held)

end Tiered

end Cache
end Tallykeeper
