import Tallykeeper.Numeral.Integer

/-!
# Change events

A change event reports the value a counter of a user holds after a mutation. Its text
form is `<user>:<counter>:<value>`, each part in decimal.
-/

namespace Tallykeeper

/-- The value of one counter of one user after a mutation. -/
structure Event where
  counterId : Int64 := 0
  userId : Int64 := 0
  value : Int64 := 0
  deriving DecidableEq, Repr

namespace Event

/-- The text form `<user>:<counter>:<value>`. -/
def render (e : Event) : String :=
  Numeral.decimal e.userId ++ ":" ++ Numeral.decimal e.counterId ++ ":" ++
    Numeral.decimal e.value

end Event

end Tallykeeper
