/-!
# Consumer group replies

Creating a consumer group that already exists is answered by an error reply whose text
starts with `BUSYGROUP`; ensuring a group treats that reply as success.
-/

namespace Tallykeeper
namespace Group

/-- Whether an error reply says the consumer group exists already; no reply says
nothing of the kind. -/
def isBusy (reply : Option String) : Bool :=
  match reply with
  | some text => text.startsWith "BUSYGROUP"
  | none => false

end Group
end Tallykeeper
