/-!
# JSON values

A JSON value as a request body carries it. Numbers keep the literal text they were
written with, because whether a number fits a field depends on that text: `1e3` is a
number but not an integer literal. Members of an object keep their order and their
repetitions, since a later member of the same name overwrites an earlier one.
-/

namespace Tallykeeper
namespace Json

/-- A JSON value; numbers keep their literal text. -/
inductive Value
  | null
  | bool (b : Bool)
  | number (literal : String)
  | text (s : String)
  | array (items : List Value)
  | object (members : List (String × Value))
  deriving Repr, Inhabited

namespace Value

/-- The word a type error uses for the kind of a value. -/
def kindName : Value → String
  | .null => "null"
  | .bool _ => "bool"
  | .number _ => "number"
  | .text _ => "string"
  | .array _ => "array"
  | .object _ => "object"

/-- An integer as a value. -/
def ofInt (i : Int) : Value :=
  .number (toString i)

/-- An object member that is dropped when absent. -/
def optional (key : String) : Option Value → List (String × Value)
  | some v => [(key, v)]
  | none => []

end Value

end Json
end Tallykeeper
