import Mathlib
import Tallykeeper.Proofs.Cache.Coherence
import Tallykeeper.Proofs.Count.Home
import Tallykeeper.Cache.Bench

/-!
# A tiered cache over a map

A delegate behaves as a key-value map when a view of its state says what each key holds:
a successful read answers the value held and no read changes a value, a successful write or
deletion changes its own key alone, and a failed one changes nothing.

Over such a delegate a tiered cache holds only what the delegate holds, through any run of
reads, writes, deletions, invalidations, expiries and changes made to the delegate behind the
cache's back, for every key not changed behind it since it was last invalidated or expired
(`Tiered.Faithful.run`). A read of such a key answers what the delegate answers, with one
exception by design: a key held locally is answered from the tier without asking the
delegate, so while the delegate fails the cache still answers the delegate's value
(`read_through_map`). A failed load, write or deletion leaves the tier as it was.
-/

namespace Tallykeeper
namespace Cache

variable {σ K V : Type}

/-- A delegate that behaves as a key-value map, whose contents `view` reads off its state. -/
structure Delegate.MapLike [DecidableEq K] (d : Delegate σ K V) (view : σ → K → Option V) :
    Prop where
  /-- A successful read answers the value held. -/
  get_ok : ∀ k s v, (d.get k s).1 = .ok v → view s k = some v
  /-- A read changes no value. -/
  get_view : ∀ k s, view (d.get k s).2 = view s
  /-- A successful write makes its key hold the value and changes no other key. -/
  update_ok : ∀ k v s, (d.update k v s).1 = .ok () →
    view (d.update k v s).2 = Function.update (view s) k (some v)
  /-- A failed write changes nothing. -/
  update_error : ∀ k v s e, (d.update k v s).1 = .error e → view (d.update k v s).2 = view s
  /-- A successful deletion empties its key and changes no other key. -/
  delete_ok : ∀ k s, (d.delete k s).1 = .ok () →
    view (d.delete k s).2 = Function.update (view s) k none
  /-- A failed deletion changes nothing. -/
  delete_error : ∀ k s e, (d.delete k s).1 = .error e → view (d.delete k s).2 = view s

/-- One thing that happens to a tiered cache or, behind its back, to its delegate. -/
inductive Action (σ K V : Type)
  | get (k : K)
  | update (k : K) (v : V)
  | delete (k : K)
  | invalidate (k : K)
  /-- The tier drops a key's pair on its own, once its time to live is over. -/
  | expire (k : K)
  /-- The delegate's data changes behind the cache, at one key. -/
  | alter (k : K) (change : σ → σ)

namespace Action

variable [DecidableEq K]

/-- The cache and the delegate's state after an action. -/
def perform (d : Delegate σ K V) : Action σ K V → Tiered K V × σ → Tiered K V × σ
  | .get k, (t, s) => (t.get d k s).2
  | .update k v, (t, s) => (t.update d k v s).2
  | .delete k, (t, s) => (t.delete d k s).2
  | .invalidate k, (t, s) => (t.invalidate k, s)
  | .expire k, (t, s) => (t.invalidate k, s)
  | .alter _ change, (t, s) => (t, change s)

/-- An outside change that touches its own key only; every other action qualifies. -/
def Confined (view : σ → K → Option V) : Action σ K V → Prop
  | .alter k change => ∀ s k', k' ≠ k → view (change s) k' = view s k'
  | _ => True

/-- The keys that may be stale after an action: an outside change marks its key, an
invalidation or an expiry clears it. -/
def stale : Action σ K V → (K → Prop) → K → Prop
  | .alter k _, marked => fun k' => k' = k ∨ marked k'
  | .invalidate k, marked => fun k' => k' ≠ k ∧ marked k'
  | .expire k, marked => fun k' => k' ≠ k ∧ marked k'
  | _, marked => marked

end Action

/-- The cache and the delegate's state after actions one after another. -/
def run [DecidableEq K] (d : Delegate σ K V) (actions : List (Action σ K V))
    (start : Tiered K V × σ) : Tiered K V × σ :=
  actions.foldl (fun ts a => a.perform d ts) start

/-- A key changed behind the cache during a run and neither invalidated nor expired since. -/
def ChangedBehind (actions : List (Action σ K V)) (k : K) : Prop :=
  ∃ before change after, actions = before ++ .alter k change :: after ∧
    ∀ a ∈ after, a ≠ .invalidate k ∧ a ≠ .expire k

/-- Keeping the key marks of a run up to date with one more action. -/
theorem changedBehind_snoc
    [DecidableEq K]
    {actions : List (Action σ K V)}
    {a : Action σ K V}
    {k : K}
    (marked : a.stale (ChangedBehind actions) k) :
    ChangedBehind (actions ++ [a]) k := by
  -- an action that does not clear `k` extends the tail after its last outside change
  have extend : ChangedBehind actions k → a ≠ .invalidate k → a ≠ .expire k →
      ChangedBehind (actions ++ [a]) k := by
    rintro ⟨before, change, after, rfl, clear⟩ notInvalidate notExpire
    refine ⟨before, change, after ++ [a], by simp, ?_⟩
    intro b member
    rcases List.mem_append.mp member with earlier | last
    · exact clear b earlier
    · rw [List.mem_singleton.mp last]
      exact ⟨notInvalidate, notExpire⟩
  cases a with
  | alter k' change =>
      rcases marked with rfl | earlier
      · exact ⟨actions, change, [], rfl, by simp⟩
      · exact extend earlier (by simp) (by simp)
  | invalidate k' =>
      obtain ⟨other, earlier⟩ := marked
      exact extend earlier (by simpa [eq_comm] using other) (by simp)
  | expire k' =>
      obtain ⟨other, earlier⟩ := marked
      exact extend earlier (by simp) (by simpa [eq_comm] using other)
  | get k' => exact extend marked (by simp) (by simp)
  | update k' v => exact extend marked (by simp) (by simp)
  | delete k' => exact extend marked (by simp) (by simp)

namespace Tiered

variable [DecidableEq K] {d : Delegate σ K V} {view : σ → K → Option V}

/-- Every local pair of a key not marked stale is what the delegate holds. -/
def Faithful (view : σ → K → Option V) (stale : K → Prop) (ts : Tiered K V × σ) : Prop :=
  ts.1.Within fun k v => stale k ∨ view ts.2 k = some v

section Steps

variable {stale : K → Prop} {t : Tiered K V} {s : σ}

theorem Faithful.mono
    {stale' : K → Prop}
    {ts : Tiered K V × σ}
    (faithful : Faithful view stale ts)
    (wider : ∀ k, stale k → stale' k) :
    Faithful view stale' ts :=
  Within.mono faithful fun k _ held => held.imp (wider k) id

theorem update_snd_snd (k : K) (v : V) : (t.update d k v s).2.2 = (d.update k v s).2 := by
  unfold Tiered.update
  split <;> rename_i written <;> rw [written]

theorem delete_snd_snd (k : K) : (t.delete d k s).2.2 = (d.delete k s).2 := by
  unfold Tiered.delete
  split <;> rename_i deleted <;> rw [deleted]

theorem view_update_of_ne
    (mapLike : d.MapLike view)
    {k k' : K}
    (v : V)
    (other : k' ≠ k) :
    view (d.update k v s).2 k' = view s k' := by
  cases written : (d.update k v s).1 with
  | ok u => rw [mapLike.update_ok k v s written, Function.update_of_ne other]
  | error e => rw [mapLike.update_error k v s e written]

theorem view_delete_of_ne
    (mapLike : d.MapLike view)
    {k k' : K}
    (other : k' ≠ k) :
    view (d.delete k s).2 k' = view s k' := by
  cases deleted : (d.delete k s).1 with
  | ok u => rw [mapLike.delete_ok k s deleted, Function.update_of_ne other]
  | error e => rw [mapLike.delete_error k s e deleted]

/-- A read stores only what a successful load answers, which the delegate holds. -/
theorem Faithful.get
    (mapLike : d.MapLike view)
    (faithful : Faithful view stale (t, s))
    (k : K) :
    Faithful view stale (t.get d k s).2 := by
  have same : view (t.get d k s).2.2 = view s :=
    get_snd_snd (t := t) (d := d) (k := k) (fun s' => view s' = view s) rfl
      (mapLike.get_view k s)
  unfold Faithful
  rw [same]
  exact Within.get faithful fun v loaded => .inr (mapLike.get_ok k s v loaded)

/-- A write reaches the tier only once the delegate holds it. -/
theorem Faithful.update
    (mapLike : d.MapLike view)
    (faithful : Faithful view stale (t, s))
    (k : K)
    (v : V) :
    Faithful view stale (t.update d k v s).2 := by
  have before : t.Within fun k v => stale k ∨ view s k = some v := faithful
  unfold Faithful
  rw [update_snd_snd]
  refine Within.update before ?_ ?_ ?_
  · intro written
    right
    rw [mapLike.update_ok k v s written]
    simp
  · intro k' v' other held
    rw [view_update_of_ne mapLike v other]
    exact held
  · intro e refused k' v' held
    rw [mapLike.update_error k v s e refused]
    exact held

/-- A deletion drops the local pair once the delegate dropped its value. -/
theorem Faithful.delete
    (mapLike : d.MapLike view)
    (faithful : Faithful view stale (t, s))
    (k : K) :
    Faithful view stale (t.delete d k s).2 := by
  unfold Faithful
  rw [delete_snd_snd]
  unfold Tiered.delete
  split
  · exact faithful.invalidate fun k' v other held => by
      rw [view_delete_of_ne mapLike other]
      exact held
  · rename_i e s' refused
    have unchanged : view (d.delete k s).2 = view s :=
      mapLike.delete_error k s e (by rw [refused])
    intro k' v held
    rw [unchanged]
    exact faithful k' v held

/-- One action keeps the cache faithful, with the stale keys updated. -/
theorem Faithful.perform
    (mapLike : d.MapLike view)
    {ts : Tiered K V × σ}
    (faithful : Faithful view stale ts)
    {a : Action σ K V}
    (confined : a.Confined view) :
    Faithful view (a.stale stale) (a.perform d ts) := by
  obtain ⟨t, s⟩ := ts
  cases a with
  | get k => exact faithful.get mapLike k
  | update k v => exact faithful.update mapLike k v
  | delete k => exact faithful.delete mapLike k
  | invalidate k =>
      exact Within.invalidate faithful fun k' v other held => held.imp (⟨other, ·⟩) id
  | expire k =>
      exact Within.invalidate faithful fun k' v other held => held.imp (⟨other, ·⟩) id
  | alter k change =>
      -- the changed key is marked; every other key reads as before
      intro k' v held
      by_cases same : k' = k
      · exact .inl (.inl same)
      · rcases faithful k' v held with earlier | agrees
        · exact .inl (.inr earlier)
        · exact .inr ((confined s k' same).trans agrees)

end Steps

/-- Through a run whose outside changes each touch one key, the cache stays faithful for
every key not changed behind it since it was last invalidated or expired. -/
theorem Faithful.run
    (mapLike : d.MapLike view)
    {start : Tiered K V × σ}
    (faithful : Faithful view (fun _ => False) start)
    (actions : List (Action σ K V))
    (confined : ∀ a ∈ actions, a.Confined view) :
    Faithful view (ChangedBehind actions) (Cache.run d actions start) := by
  induction actions using List.reverseRecOn with
  | nil => exact faithful.mono fun k never => never.elim
  | append_singleton earlier a ih =>
      have before := ih fun b member => confined b (List.mem_append_left _ member)
      have after := before.perform mapLike (confined a (by simp))
      rw [Cache.run, List.foldl_append]
      exact after.mono fun k marked => changedBehind_snoc marked

theorem faithful_warm
    (capacity : Int)
    {warm : List (K × V)}
    {s₀ : σ}
    (warmed : ∀ p ∈ warm, view s₀ p.1 = some p.2) :
    Faithful view (fun _ => False) ((Tiered.create capacity).warm warm, s₀) :=
  (within_create capacity).warm warm fun p member => .inr (warmed p member)

/-! ## What callers see -/

section Callers

variable {stale : K → Prop} {t : Tiered K V} {s : σ}

/-- A read of a key whose local pair is faithful answers what the delegate answers, or, when
the delegate fails, the value it holds, served from the tier. -/
theorem get_of_faithful
    (mapLike : d.MapLike view)
    (faithful : Faithful view stale (t, s))
    {k : K}
    (fresh : ¬ stale k) :
    (t.get d k s).1 = (d.get k s).1 ∨
      ∃ e v, (d.get k s).1 = .error e ∧ view s k = some v ∧ (t.get d k s).1 = .ok v := by
  cases read : t.tier.get? k with
  | some hit =>
      obtain ⟨v, tier'⟩ := hit
      have held : view s k = some v :=
        (faithful k v (Lru.peek?_get? read).1).resolve_left fresh
      rw [get_of_hit read]
      cases loaded : (d.get k s).1 with
      | ok w =>
          -- the delegate answers the value it holds, which is the local one
          have same : w = v := Option.some.inj ((mapLike.get_ok k s w loaded).symm.trans held)
          exact .inl (by rw [same])
      | error e => exact .inr ⟨e, v, rfl, held, rfl⟩
  | none =>
      left
      match loaded : d.get k s with
      | (.ok v, s') => rw [get_of_load read loaded]
      | (.error e, s') => rw [get_of_failed_load read loaded]

/-- A failed read stores nothing. -/
theorem get_error_keeps
    {k : K}
    {e : Fault}
    (failed : (t.get d k s).1 = .error e) :
    ∀ k', (t.get d k s).2.1.tier.peek? k' = t.tier.peek? k' := by
  cases read : t.tier.get? k with
  | some hit =>
      obtain ⟨v, tier'⟩ := hit
      rw [get_of_hit read] at failed
      cases failed
  | none =>
      match loaded : d.get k s with
      | (.ok v, s') =>
          rw [get_of_load read loaded] at failed
          cases failed
      | (.error e', s') =>
          intro k'
          rw [get_of_failed_load read loaded]

/-- A write the delegate refuses leaves the cache as it was. -/
theorem update_error_keeps
    {k : K}
    {v : V}
    {e : Fault}
    (refused : (d.update k v s).1 = .error e) :
    (t.update d k v s).2.1 = t := by
  unfold Tiered.update
  split
  · rename_i s' written
    rw [written] at refused
    cases refused
  · rfl

/-- A deletion the delegate refuses leaves the cache as it was. -/
theorem delete_error_keeps
    {k : K}
    {e : Fault}
    (refused : (d.delete k s).1 = .error e) :
    (t.delete d k s).2.1 = t := by
  unfold Tiered.delete
  split
  · rename_i s' deleted
    rw [deleted] at refused
    cases refused
  · rfl

end Callers

end Tiered

/-- What callers of a tiered cache over a map may rely on in a state `(t, s)`, for the keys
not marked stale. -/
structure Transparent [DecidableEq K] (d : Delegate σ K V) (view : σ → K → Option V)
    (stale : K → Prop) (t : Tiered K V) (s : σ) : Prop where
  /-- Every local pair of a key not stale is what the delegate holds. -/
  holds : ∀ k v, t.tier.peek? k = some v → ¬ stale k → view s k = some v
  /-- A read of a key not stale answers what the delegate answers, except that a key held
  locally is answered with the delegate's value from the tier even when the delegate fails. -/
  reads : ∀ k, ¬ stale k → (t.get d k s).1 = (d.get k s).1 ∨
    ∃ e v, (d.get k s).1 = .error e ∧ view s k = some v ∧ (t.get d k s).1 = .ok v
  /-- A failed read, for absence or any other fault, stores nothing. -/
  failedRead : ∀ k e, (t.get d k s).1 = .error e →
    ∀ k', (t.get d k s).2.1.tier.peek? k' = t.tier.peek? k'
  /-- A write the delegate refuses leaves the cache as it was. -/
  failedUpdate : ∀ k v e, (d.update k v s).1 = .error e → (t.update d k v s).2.1 = t
  /-- A deletion the delegate refuses leaves the cache as it was. -/
  failedDelete : ∀ k e, (d.delete k s).1 = .error e → (t.delete d k s).2.1 = t

/-- A tiered cache over a delegate that behaves as a map, warmed with pairs the delegate
holds, with any capacity: after any run of reads, writes, deletions, invalidations, expiries
and outside changes that each touch one key, the cache is transparent for every key not
changed behind it since it was last invalidated or expired. As every run's prefix is a run,
this covers every read along every run. -/
theorem read_through_map
    [DecidableEq K]
    {d : Delegate σ K V}
    {view : σ → K → Option V}
    (mapLike : d.MapLike view)
    (capacity : Int)
    (warm : List (K × V))
    (s₀ : σ)
    (warmed : ∀ p ∈ warm, view s₀ p.1 = some p.2)
    (actions : List (Action σ K V))
    (confined : ∀ a ∈ actions, a.Confined view) :
    Transparent d view (ChangedBehind actions)
      (run d actions ((Tiered.create capacity).warm warm, s₀)).1
      (run d actions ((Tiered.create capacity).warm warm, s₀)).2 := by
  have faithful := (Tiered.faithful_warm capacity warmed).run mapLike actions
    confined
  exact
    { holds := fun k v held fresh => (faithful k v held).resolve_left fresh
      reads := fun k fresh => Tiered.get_of_faithful mapLike faithful fresh
      failedRead := fun k e failed => Tiered.get_error_keeps failed
      failedUpdate := fun k v e refused => Tiered.update_error_keeps refused
      failedDelete := fun k e refused => Tiered.delete_error_keeps refused }

/-- The claim that every read answers exactly what the delegate answers fails while the
delegate is down: a pair written through the cache is still answered from the tier. -/
theorem read_served_during_outage :
    let bench := (Bench.step (Bench.step
      { cache := Tiered.create 0, rig := { backing := .counts {} } } (.update "a" 1)).2
      (.outage true "delegate down")).2
    (bench.cache.get Bench.delegate "a" bench.rig).1 = .ok 1 ∧
      (Bench.delegate.get "a" bench.rig).1 = .error (.injected "delegate down") := by
  decide

/-! ## The count store as a map -/

/-- The count store as the delegate of a tiered cache: a read answers the held count, writes
and deletions always succeed. -/
def countsDelegate : Delegate MemCounts String Int64 where
  get k m := (m.get k, m)
  update k v m := (.ok (), m.put k v)
  delete k m := (.ok (), m.erase k)

theorem countsDelegate_mapLike : countsDelegate.MapLike MemCounts.find? where
  get_ok k m v read := by
    simp only [countsDelegate, MemCounts.get] at read
    split at read
    · rename_i held
      cases read
      exact held
    · cases read
  get_view _ _ := rfl
  update_ok k v m _ := by
    funext k'
    simp [countsDelegate, Function.update_apply]
  update_error _ _ _ _ refused := by cases refused
  delete_ok k m _ := by
    funext k'
    simp [countsDelegate, MemCounts.find?_erase, Function.update_apply]
  delete_error _ _ _ refused := by cases refused

/-- A warmed cache over the count store, through a write, an outside change of a warmed key
and its invalidation. -/
theorem read_through_counts :
    let actions : List (Action MemCounts String Int64) :=
      [.update "b" 2, .alter "a" (·.put "a" 5), .invalidate "a", .get "a"]
    let start : Tiered String Int64 × MemCounts :=
      ((Tiered.create 1).warm [("a", 1)], { values := [("a", 1)] })
    countsDelegate.MapLike MemCounts.find? ∧
      (∀ p ∈ [("a", (1 : Int64))], start.2.find? p.1 = some p.2) ∧
      (∀ a ∈ actions, a.Confined MemCounts.find?) ∧
      Transparent countsDelegate MemCounts.find? (ChangedBehind actions)
        (run countsDelegate actions start).1 (run countsDelegate actions start).2 := by
  intro actions start
  have warmed : ∀ p ∈ [("a", (1 : Int64))], start.2.find? p.1 = some p.2 := by
    simp [start, MemCounts.find?]
  have confined : ∀ a ∈ actions, a.Confined MemCounts.find? := by
    intro a member
    simp only [actions, List.mem_cons, List.mem_nil_iff, or_false] at member
    rcases member with rfl | rfl | rfl | rfl
    · trivial
    · intro m k' other
      simp [other]
    · trivial
    · trivial
  exact ⟨countsDelegate_mapLike, warmed, confined,
    read_through_map countsDelegate_mapLike 1 [("a", 1)] start.2 warmed actions confined⟩

end Cache
end Tallykeeper
