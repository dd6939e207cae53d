/-!
# Writer states

The durable writer moves through five phases: idle, with its consumer group ensured,
reading, applying a batch, and failed. Phases are numbered 0 to 4 in that order; a number
outside that range names no phase.
-/

namespace Tallykeeper
namespace Writer

/-- The phase the durable writer is in. -/
inductive Phase
  | idle
  | groupEnsured
  | reading
  | applying
  | failed
  deriving DecidableEq, Repr

namespace Phase

/-- The name of a phase. -/
def name : Phase → String
  | .idle => "idle"
  | .groupEnsured => "group_ensured"
  | .reading => "reading"
  | .applying => "applying"
  | .failed => "failed"

/-- The phase with a number, if any. -/
def ofCode? : Int → Option Phase
  | 0 => some .idle
  | 1 => some .groupEnsured
  | 2 => some .reading
  | 3 => some .applying
  | 4 => some .failed
  | _ => none

/-- The name of the phase with a number, `unknown` for a number without one. -/
def nameOfCode (n : Int) : String :=
  match ofCode? n with
  | some p => p.name
  | none => "unknown"

end Phase

end Writer
end Tallykeeper
