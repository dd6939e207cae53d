import Tallykeeper.Service.Catalog

/-!
# Counter operations

A counter value lives under the key `<id>:<user>`, the id being the catalog id of the
counter's name. Reading goes through the `values` cache. Incrementing adds to the counts
directly, drops the cached value and publishes the new value; a delta that is not
positive or exceeds the 32-bit range counts as one. Resetting writes zero through the
cache and publishes it. Publishing is best effort: its failure changes no answer.
-/

namespace Tallykeeper
namespace Service

/-- The largest delta an increment takes as asked. -/
def maxDelta : Int64 := 2147483647

/-- The delta an increment applies. -/
def clampDelta (delta : Int64) : Int64 :=
  if delta ≤ 0 || delta > maxDelta then 1 else delta

/-- The key of one counter of one user. -/
def counterKey (counterId userId : Int64) : String :=
  Numeral.decimal counterId ++ ":" ++ Numeral.decimal userId

/-- The current value of a counter of a user. -/
def counterGet (name : Text.ByteString) (userId : Int64) (w : World) : Except Fault Int64 × World :=
  match resolve name w with
  | (.error f, w1) => (.error f, w1)
  | (.ok id, w1) =>
    match w1.readValue (counterKey id userId) with
    | (.ok v, w2) => (.ok v, w2)
    | (.error f, w2) =>
      if f.is .keyNotFound then
        (.error (.wrap .notFound ("no value for '" ++ name.text ++ "' of user " ++
          Numeral.decimal userId)), w2)
      else (.error (f.under .unavailable "counter get: "), w2)

/-- Adds a delta to a counter of a user and publishes the new value. -/
def counterIncrement (name : Text.ByteString) (userId delta : Int64) (w : World) :
    Except Fault Int64 × World :=
  let d := clampDelta delta
  match resolve name w with
  | (.error f, w1) => (.error f, w1)
  | (.ok id, w1) =>
    let key := counterKey id userId
    match w1.onStores (·.countIncr key d) with
    | (.error f, w2) =>
      if f.is .overflow then (.error (f.under .invalidEntity "counter increment: "), w2)
      else (.error (f.under .unavailable "counter increment: "), w2)
    | (.ok v, w2) =>
      let w3 := { w2 with values := w2.values.invalidate key }
      let (_, w4) := w3.propagate { counterId := id, userId, value := v }
      (.ok v, w4)

/-- Sets a counter of a user back to zero and publishes it. -/
def counterReset (name : Text.ByteString) (userId : Int64) (w : World) : Except Fault Int64 × World :=
  match resolve name w with
  | (.error f, w1) => (.error f, w1)
  | (.ok id, w1) =>
    match w1.writeValue (counterKey id userId) 0 with
    | (.error f, w2) => (.error (f.under .unavailable "counter reset: "), w2)
    | (.ok (), w2) =>
      let (_, w3) := w2.propagate { counterId := id, userId }
      (.ok 0, w3)

end Service
end Tallykeeper
