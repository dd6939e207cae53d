import Tallykeeper.Numeral.Integer

/-!
# Stream entry ids

A stream entry id has the form `<milliseconds>-<sequence>`. The time an entry was sent
is its millisecond part; an id without a `-`, or whose millisecond part is no signed
decimal numeral, has no sending time.
-/

namespace Tallykeeper
namespace EntryId

/-- The millisecond part of an entry id, read as the Unix time the entry was sent. -/
def sentAt? (id : String) : Option Int64 :=
  let cs := id.toList
  if cs.contains '-' then
    match Numeral.parseDecimal (String.ofList (cs.takeWhile (· != '-'))) with
    | .ok ms => some ms
    | .error _ => none
  else none

end EntryId
end Tallykeeper
