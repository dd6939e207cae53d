/-!
# Faults

Every operation of the service that can fail answers with a fault. A fault belongs to a
sentinel, which decides how callers react to it, or it is a failure injected by a test
fixture, or a message of an outside system that belongs to no sentinel. Wrapping a detail
under a sentinel puts the sentinel's words and a colon in front of it; what a caller
wraps is the message of the fault it received, so an outer sentinel hides the inner one.
-/

namespace Tallykeeper

/-- The sentinels, grouped by the layer that raises them. -/
inductive Sentinel
  /- service core -/
  | invalidEntity
  | notFound
  | unavailable
  /- catalog store -/
  | invalidEntry
  | entryNotFound
  | entryNotUnique
  /- durable counter rows -/
  | counterExists
  | counterNotFound
  /- value cache -/
  | invalidCodec
  | keyNotFound
  | overflow
  | valueCodec
  /- change stream -/
  | emptySource
  | invalidEventCodec
  | malformedEvent
  /- request layer -/
  | invalidInput
  | limitExceeded
  | routeNotFound
  | backendDown
  deriving DecidableEq, Repr

namespace Sentinel

/-- The words a sentinel puts in front of a detail. -/
def words : Sentinel → String
  | .invalidEntity => "invalid entity"
  | .notFound => "resource not found"
  | .unavailable => "store unavailable"
  | .invalidEntry => "invalid entry"
  | .entryNotFound => "entry not found"
  | .entryNotUnique => "entry not unique"
  | .counterExists => "counter exists"
  | .counterNotFound => "counter not found"
  | .invalidCodec => "invalid codec"
  | .keyNotFound => "key not found"
  | .overflow => "value out of range"
  | .valueCodec => "value codec"
  | .emptySource => "empty source"
  | .invalidEventCodec => "invalid codec"
  | .malformedEvent => "malformed event"
  | .invalidInput => "invalid input"
  | .limitExceeded => "limit exceeded"
  | .routeNotFound => "not found"
  | .backendDown => "store unavailable"

end Sentinel

/-- A failure of an operation. -/
inductive Fault
  /-- A detail under a sentinel. -/
  | wrap (sentinel : Sentinel) (detail : String)
  /-- A sentinel on its own. -/
  | bare (sentinel : Sentinel)
  /-- A failure a test fixture injected, with its message. -/
  | injected (message : String)
  /-- A message of an outside system. -/
  | foreign (message : String)
  deriving DecidableEq, Repr

namespace Fault

/-- The text a reader sees. -/
def message : Fault → String
  | .wrap s d => s.words ++ ": " ++ d
  | .bare s => s.words
  | .injected m => m
  | .foreign m => m

/-- The sentinel a fault belongs to, if any. -/
def sentinel? : Fault → Option Sentinel
  | .wrap s _ => some s
  | .bare s => some s
  | _ => none

/-- Whether a fault belongs to a sentinel. -/
def is (f : Fault) (s : Sentinel) : Bool :=
  f.sentinel? == some s

/-- Wraps the message of a fault under a sentinel, after a lead-in. -/
def under (s : Sentinel) (lead : String) (f : Fault) : Fault :=
  .wrap s (lead ++ f.message)

@[simp] theorem message_wrap (s : Sentinel) (d : String) :
    (wrap s d).message = s.words ++ ": " ++ d := rfl

@[simp] theorem is_wrap (s t : Sentinel) (d : String) : (wrap s d).is t = (s == t) := by
  simp [is, sentinel?]

end Fault

end Tallykeeper
