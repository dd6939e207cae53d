import Tallykeeper.Fault

/-!
# Scripted catalog failures

A test fixture can make the next calls of a catalog-store method fail. Failures are
queued per method, and a queue for any method serves a call once the queue of the
call's own method is empty. A queued failure is either the bare `entry not found` of the
catalog, which callers read as absence, or an injected failure with a message.
-/

namespace Tallykeeper
namespace Catalog

/-- The catalog-store methods a failure can be queued for. -/
inductive Method
  | get
  | getById
  | create
  | query
  | update
  deriving DecidableEq, Repr

/-- A queued failure. -/
structure Scripted where
  /-- The method it waits for; none waits for any method. -/
  method : Option Method
  /-- Whether it reports the bare catalog absence rather than an injected failure. -/
  absent : Bool := false
  message : String := "catalog offline"
  deriving DecidableEq, Repr

/-- The fault a queued failure reports. -/
def Scripted.fault (s : Scripted) : Fault :=
  if s.absent then .bare .entryNotFound else .injected s.message

/-- The queued failures, oldest first. -/
structure Script where
  pending : List Scripted := []
  deriving Repr

namespace Script

/-- Queues failures behind those already waiting. -/
def push (s : Script) (more : List Scripted) : Script :=
  { pending := s.pending ++ more }

/-- Removes the first queued failure that satisfies a test. -/
def takeFirst (p : Scripted → Bool) : List Scripted → Option (Scripted × List Scripted)
  | [] => none
  | x :: rest =>
    if p x then some (x, rest)
    else (takeFirst p rest).map fun (y, rest') => (y, x :: rest')

/-- The failure a call of a method meets, if any: the oldest one queued for that method,
else the oldest one queued for any method. -/
def take (m : Method) (s : Script) : Option Fault × Script :=
  match takeFirst (·.method == some m) s.pending with
  | some (x, rest) => (some x.fault, { pending := rest })
  | none =>
    match takeFirst (·.method == none) s.pending with
    | some (x, rest) => (some x.fault, { pending := rest })
    | none => (none, s)

end Script

end Catalog
end Tallykeeper
