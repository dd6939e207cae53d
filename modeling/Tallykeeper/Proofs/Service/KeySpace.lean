import Mathlib
import Tallykeeper.Proofs.Service.Counting
import Tallykeeper.Http.Limit

/-!
# Where counter values live on the server

A counter's value lives on the server under `named:<id>:<user>`, the catalog id and the
user id in decimal. Decimal text holds no colon, for negative numbers too, so the key splits
at its colons into exactly the prefix and the two numbers, and it names one pair: counters
of different ids or users never share a value, however their digits run together. Every
count key starts with `n`, so it lies apart from the clients' request windows under
`ratelimiter:client:` and from the change stream `counter_updates`. The main statement is
`counter_keys_apart`.
-/

namespace Tallykeeper

/-- The server key of a count starts with `n`. -/
theorem head?_serverKey (key : String) : (serverKey key).toList.head? = some 'n' := by
  have named : "named:".toList.head? = some 'n' := rfl
  simp only [serverKey, String.toList_append, List.head?_append, named, Option.some_or]

/-- The server key of a client's request window starts with `r`. -/
theorem Http.head?_quotaKey (client : String) : (quotaKey client).toList.head? = some 'r' := by
  have limiter : "ratelimiter:client:".toList.head? = some 'r' := rfl
  -- unfolded, not rewritten: rewriting with the definition stalls on the literal
  unfold quotaKey
  simp only [String.toList_append, List.head?_append, limiter, Option.some_or]

theorem serverKey_ne_quotaKey (key client : String) : serverKey key ≠ Http.quotaKey client := by
  intro same
  have first := congrArg (fun s : String => s.toList.head?) same
  rw [head?_serverKey, Http.head?_quotaKey] at first
  exact absurd first (by decide)

theorem serverKey_ne_counterUpdates (key : String) : serverKey key ≠ "counter_updates" := by
  intro same
  have first := congrArg (fun s : String => s.toList.head?) same
  rw [head?_serverKey] at first
  exact absurd first (by decide)

namespace Service

/-- A counter's server key is the prefix and the two decimal numbers joined by colons. -/
theorem serverKey_counterKey_eq_intercalate (id userId : Int64) :
    serverKey (counterKey id userId) =
      String.intercalate (String.singleton ':')
        ["named", Numeral.decimal id, Numeral.decimal userId] := by
  apply String.toList_inj.mp
  simp [serverKey, counterKey, String.toList_append]

/-- A counter's server key splits at its colons into the prefix and the two numbers. -/
theorem split_serverKey_counterKey (id userId : Int64) :
    ((serverKey (counterKey id userId)).split ':').toList.map String.Slice.copy =
      ["named", Numeral.decimal id, Numeral.decimal userId] := by
  rw [serverKey_counterKey_eq_intercalate, String.toList_split_intercalate]
  · simp
  · simp [Numeral.colon_not_mem_decimal]

/-- A counter's server key holds exactly two colons. -/
theorem count_colon_serverKey_counterKey (id userId : Int64) :
    (serverKey (counterKey id userId)).toList.count ':' = 2 := by
  have inId := List.count_eq_zero.mpr (Numeral.colon_not_mem_decimal id)
  have inUser := List.count_eq_zero.mpr (Numeral.colon_not_mem_decimal userId)
  simp [serverKey, counterKey, String.toList_append, inId, inUser]

/-- A counter's server key names one pair. -/
theorem serverKey_counterKey_inj
    {id userId id' userId' : Int64}
    (same : serverKey (counterKey id userId) = serverKey (counterKey id' userId')) :
    id = id' ∧ userId = userId' :=
  counterKey_inj (serverKey_inj same)

/-- Counters of different catalog ids or users never share a value on the server: the key
splits at its two colons into the prefix and the two numbers, and it is no request window
of a client and not the change stream. -/
theorem counter_keys_apart :
    (∀ id userId id' userId' : Int64, (id, userId) ≠ (id', userId') →
      serverKey (counterKey id userId) ≠ serverKey (counterKey id' userId')) ∧
    (∀ id userId : Int64,
      ((serverKey (counterKey id userId)).split ':').toList.map String.Slice.copy =
          ["named", Numeral.decimal id, Numeral.decimal userId] ∧
        (serverKey (counterKey id userId)).toList.count ':' = 2) ∧
    (∀ (id userId : Int64) (client : String),
      serverKey (counterKey id userId) ≠ Http.quotaKey client ∧
        serverKey (counterKey id userId) ≠ "counter_updates") := by
  refine ⟨?_, fun id userId => ⟨split_serverKey_counterKey id userId,
    count_colon_serverKey_counterKey id userId⟩, fun id userId client =>
      ⟨serverKey_ne_quotaKey _ client, serverKey_ne_counterUpdates _⟩⟩
  intro id userId id' userId' differ same
  obtain ⟨rfl, rfl⟩ := serverKey_counterKey_inj same
  exact differ rfl

/-- Ids `1` and `12` with users `23` and `3` run together to the same digits; the colon
keeps their keys apart. -/
theorem counter_keys_apart_run_together :
    ((1 : Int64), (23 : Int64)) ≠ (12, 3) ∧
      serverKey (counterKey 1 23) ≠ serverKey (counterKey 12 3) :=
  ⟨by decide, counter_keys_apart.1 1 23 12 3 (by decide)⟩

end Service
end Tallykeeper
