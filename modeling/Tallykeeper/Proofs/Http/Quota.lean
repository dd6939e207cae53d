import Mathlib
import Tallykeeper.Http.Serve
import Tallykeeper.Proofs.Redis.Server
import Tallykeeper.Proofs.Count.Overflow

/-!
# Request quotas over a run

A client's requests are counted in fixed windows on the server. Seen over any run of
requests and clock moves, the `k`-th request of a window answers the quota `limit - k`: the
first request finding no window (the key absent, or holding an integer without a time to
live) opens one, counting from `limit - 1`, that lasts the window's length, and the window
closes when its time runs out. The count lives in a 64-bit integer, so once `limit - k`
would pass below the least one, the requests of the window fail with the server's overflow
reply instead; that takes more than `2 ^ 63` requests in one window.

So exactly the first `limit` requests of a window keep a quota of zero or more, and the
request quota in front of a route refuses a request with `429` exactly when its quota is
negative, calling the route otherwise. The main statement is `quota_counts_down_each_window`.
-/

namespace Tallykeeper

/-- The value under a key is the first pair that carries it. -/
theorem lookup_eq_head?_filter
    {β : Type}
    (l : List (String × β))
    (key : String) :
    l.lookup key = ((l.filter (·.1 == key)).head?).map (·.2) := by
  induction l with
  | nil => rfl
  | cons e rest ih =>
    obtain ⟨k, v⟩ := e
    by_cases same : k = key
    · subst same
      simp
    · have differs : (key == k) = false := beq_eq_false_iff_ne.2 (fun h => same h.symm)
      rw [List.filter_cons_of_neg (by simpa using same)]
      simp [List.lookup_cons, differs, ih]

namespace Redis
namespace Server

variable {s : Server} {key : String}

/-! ## Timers of a key -/

/-- The times to live recorded for a key. -/
def timers (s : Server) (key : String) : List (String × Nat) :=
  s.expiry.filter (·.1 == key)

@[simp] theorem timers_store (k : String) (d : Datum) : (s.store k d).timers key = s.timers key :=
  rfl

theorem timers_expireIn_some (t : Nat) : (s.expireIn key (some t)).timers key = [(key, t)] := by
  simp [timers, expireIn, List.filter_filter]

theorem lookup_expiry_of_timers_single
    {t : Nat}
    (one : s.timers key = [(key, t)]) :
    s.expiry.lookup key = some t := by
  rw [lookup_eq_head?_filter]
  simp only [timers] at one
  simp [one]

@[simp] theorem ready_fastForward (ms : Nat) : (s.fastForward ms).ready = s.ready :=
  rfl

/-! ## Decrements -/

/-- A decrement of a key holding an integer above the least one, or nothing, stores one
less. -/
theorem incrBy_minus_one
    (healthy : s.ready = .ok ())
    {current : Int64}
    (held : s.find? key = none ∧ current = 0 ∨
      ∃ b, s.find? key = some (.bytes b) ∧ Numeral.parseSigned (.fixed 10) b = .ok current)
    (above : Int64.minValue < current) :
    incrBy key (-1) s =
      (.ok (current + -1), s.store key (.bytes (Text.Utf8.encode (Numeral.decimal (current + -1))))) := by
  have fits : overflows current (-1) = false := by
    have low := current.minValue_le_toInt
    rw [Int64.lt_iff_toInt_lt] at above
    have minusOne : (-1 : Int64).toInt = -1 := rfl
    cases wraps : overflows current (-1)
    · rfl
    · have := (overflows_iff current (-1)).1 wraps
      rw [minusOne, Int64.toInt_maxValue] at this
      have top := current.toInt_le
      rw [Int64.toInt_maxValue] at top
      omega
  rcases held with ⟨absent, rfl⟩ | ⟨b, stored, parsed⟩
  · simp [incrBy, command, healthy, absent, fits, bind, Except.bind, pure,
      Except.pure]
  · simp [incrBy, command, healthy, stored, parsed, fits, bind, Except.bind, pure,
      Except.pure]

/-- A decrement of the least integer is refused and changes nothing. -/
theorem incrBy_minus_one_of_least
    (healthy : s.ready = .ok ())
    (stored : s.find? key = some (.bytes (Text.Utf8.encode (Numeral.decimal Int64.minValue)))) :
    incrBy key (-1) s = (.error wouldOverflow, s) := by
  have wraps : overflows Int64.minValue (-1) = true := by decide
  have text : s.find? key = (some Int64.minValue).map
      fun v => .bytes (Text.Utf8.encode (Numeral.decimal v)) := stored
  rw [incrBy_of_decimal healthy text]
  simp [wraps]

/-- Setting bytes with a positive time to live stores them and starts the timer. -/
theorem setExpiring_of_healthy
    {value : List UInt8}
    {seconds : Int}
    (healthy : s.ready = .ok ())
    (lasting : 0 < seconds) :
    setExpiring key value seconds s =
      (.ok (), (s.store key (.bytes value)).expireIn key (some (seconds.toNat * 1000))) := by
  unfold setExpiring
  exact command_of_ok healthy (by simp [not_le.2 lasting])

/-- A key without a time to live answers `-1`. -/
theorem ttl_of_untimed
    {d : Datum}
    (healthy : s.ready = .ok ())
    (found : s.find? key = some d)
    (untimed : s.expiry.lookup key = none) :
    ttl key s = .ok (-1) := by
  simp [ttl, healthy, found, untimed, bind, Except.bind, pure, Except.pure]

/-- A key with a time to live answers it in whole seconds. -/
theorem ttl_of_timed
    {d : Datum}
    {ms : Nat}
    (healthy : s.ready = .ok ())
    (found : s.find? key = some d)
    (timed : s.expiry.lookup key = some ms) :
    ttl key s = .ok ((ms / 1000 : Nat) : Int) := by
  simp [ttl, healthy, found, timed, bind, Except.bind, pure, Except.pure]

end Server
end Redis

namespace Http

open Redis

/-! ## Runs and windows -/

/-- An open window: the requests counted in it and the milliseconds it has left. -/
structure Window where
  requests : Nat
  left : Nat
  deriving DecidableEq, Repr

namespace Window

/-- A request is the next one of the open window, or opens a window of `windowSeconds` as
its first. Answers the request's place in its window. -/
def request (windowSeconds : Int64) : Option Window → Nat × Option Window
  | some w => (w.requests + 1, some { w with requests := w.requests + 1 })
  | none => (1, some ⟨1, windowSeconds.toInt.toNat * 1000⟩)

end Window

/-- The answer to the `k`-th request of a window: the quota `limit - k`, or the server's
overflow reply once that lies below the least 64-bit integer. -/
def quotaAt (limit : Int64) (k : Nat) : Except String Int64 :=
  if Int64.minValue.toInt ≤ limit.toInt - k then .ok (Int64.ofInt (limit.toInt - k))
  else .error wouldOverflow.text

/-- What a window's key holds after `k` requests: the limit less `k`, kept at the least
64-bit integer. -/
def leftAfter (limit : Int64) (k : Nat) : Int64 :=
  Int64.ofInt (max (limit.toInt - k) Int64.minValue.toInt)

/-- The key of a client with no window open: absent, or holding an integer above the least
one, and without a time to live. -/
def Fresh (key : String) (srv : Server) : Prop :=
  srv.expiry.lookup key = none ∧
    (srv.find? key = none ∨
      ∃ b n, srv.find? key = some (.bytes b) ∧ Numeral.parseSigned (.fixed 10) b = .ok n ∧
        Int64.minValue < n)

/-- The server keeps a client's window as the quota machine sees it: with no window open the
key is fresh, and with one open the key holds what is left after its requests and times out
when the window closes. -/
def Keeps (limit : Int64) (key : String) (srv : Server) : Option Window → Prop
  | none => Fresh key srv
  | some w =>
    0 < w.left ∧ srv.timers key = [(key, w.left)] ∧
      srv.find? key = some (.bytes (Text.Utf8.encode (Numeral.decimal (leftAfter limit w.requests))))

/-! ## Counting in 64 bits -/

section Counting

variable {limit : Int64}

theorem toInt_leftAfter (k : Nat) :
    (leftAfter limit k).toInt = max (limit.toInt - k) Int64.minValue.toInt := by
  have top := limit.toInt_le
  rw [Int64.toInt_maxValue] at top
  rw [leftAfter, Int64.toInt_ofInt_of_le]
  · rw [Int64.toInt_minValue]
    omega
  · rw [Int64.toInt_minValue]
    omega

theorem leftAfter_one (positive : 1 ≤ limit) : leftAfter limit 1 = limit - 1 := by
  rw [Int64.le_iff_toInt_le, Int64.toInt_one] at positive
  have top := limit.toInt_le
  apply Int64.toInt_inj.1
  rw [toInt_leftAfter, toInt_sub_of_fits _ _ (by rw [Int64.toInt_minValue, Int64.toInt_one]; omega)
    (by rw [Int64.toInt_one]; omega), Int64.toInt_one, Int64.toInt_minValue]
  omega

theorem leftAfter_eq_least_iff (k : Nat) :
    leftAfter limit k = Int64.minValue ↔ limit.toInt - k ≤ Int64.minValue.toInt := by
  rw [← Int64.toInt_inj, toInt_leftAfter]
  omega

/-- A decrement of what is left above the least integer leaves what the next request
leaves. -/
theorem leftAfter_succ_of_above
    {k : Nat}
    (above : Int64.minValue < leftAfter limit k) :
    leftAfter limit k + -1 = leftAfter limit (k + 1) := by
  rw [Int64.lt_iff_toInt_lt, toInt_leftAfter] at above
  have top := limit.toInt_le
  have minusOne : (-1 : Int64).toInt = -1 := rfl
  apply Int64.toInt_inj.1
  rw [toInt_add_of_fits _ _ (by rw [toInt_leftAfter, minusOne]; omega)
    (by rw [toInt_leftAfter, minusOne]; omega), toInt_leftAfter, toInt_leftAfter, minusOne]
  push_cast
  omega

theorem leftAfter_succ_of_least
    {k : Nat}
    (least : leftAfter limit k = Int64.minValue) :
    leftAfter limit (k + 1) = Int64.minValue := by
  rw [leftAfter_eq_least_iff] at least ⊢
  push_cast
  omega

/-- The quota of a request is what its decrement leaves, while that stays in range. -/
theorem quotaAt_of_above
    {k : Nat}
    (above : Int64.minValue < leftAfter limit k) :
    quotaAt limit (k + 1) = .ok (leftAfter limit (k + 1)) := by
  rw [Int64.lt_iff_toInt_lt, toInt_leftAfter] at above
  have inRange : Int64.minValue.toInt ≤ limit.toInt - ↑(k + 1) := by
    push_cast
    omega
  rw [quotaAt, if_pos inRange, leftAfter, max_eq_left inRange]

theorem quotaAt_of_least
    {k : Nat}
    (least : leftAfter limit k = Int64.minValue) :
    quotaAt limit (k + 1) = .error wouldOverflow.text := by
  rw [leftAfter_eq_least_iff] at least
  have below : ¬ Int64.minValue.toInt ≤ limit.toInt - ↑(k + 1) := by
    push_cast
    omega
  rw [quotaAt, if_neg below]

/-- The first request of a window leaves one less than the limit. -/
theorem quotaAt_one (positive : 1 ≤ limit) : quotaAt limit 1 = .ok (limit - 1) := by
  have above : Int64.minValue < leftAfter limit 0 := by
    rw [Int64.lt_iff_toInt_lt, toInt_leftAfter, Int64.toInt_minValue]
    rw [Int64.le_iff_toInt_le, Int64.toInt_one] at positive
    omega
  rw [← leftAfter_one positive]
  exact quotaAt_of_above above

end Counting

/-! ## One step, then a run -/

section Steps

variable {limit windowSeconds : Int64} {client : String} {srv : Server}

/-- A request that finds no window open opens one: it answers `limit - 1` and the key holds
that, timing out after the window. -/
theorem requestQuota_of_fresh
    (positive : 1 ≤ limit)
    (lasting : 1 ≤ windowSeconds)
    (healthy : srv.ready = .ok ())
    (fresh : Fresh (quotaKey client) srv) :
    (requestQuota limit windowSeconds client srv).1 = quotaAt limit 1 ∧
      Keeps limit (quotaKey client) (requestQuota limit windowSeconds client srv).2
        (Window.request windowSeconds none).2 ∧
      (requestQuota limit windowSeconds client srv).2.ready = srv.ready := by
  obtain ⟨untimed, held⟩ := fresh
  -- the decrement stores one less than what the key held, zero for nothing
  obtain ⟨current, stored, above⟩ : ∃ current,
      (srv.find? (quotaKey client) = none ∧ current = 0 ∨
        ∃ b, srv.find? (quotaKey client) = some (.bytes b) ∧
          Numeral.parseSigned (.fixed 10) b = .ok current) ∧ Int64.minValue < current := by
    rcases held with absent | ⟨b, n, stored, parsed, above⟩
    · exact ⟨0, .inl ⟨absent, rfl⟩, by decide⟩
    · exact ⟨n, .inr ⟨b, stored, parsed⟩, above⟩
  have decremented := Server.incrBy_minus_one healthy stored above
  -- the key still has no time to live, so the window starts over
  set srv1 := srv.store (quotaKey client)
    (.bytes (Text.Utf8.encode (Numeral.decimal (current + -1))))
  have present : srv1.find? (quotaKey client) =
      some (.bytes (Text.Utf8.encode (Numeral.decimal (current + -1)))) := by
    simp [srv1]
  have healthy1 : srv1.ready = .ok () := healthy
  have noTimer : srv1.ttl (quotaKey client) = .ok (-1) :=
    Server.ttl_of_untimed healthy1 present untimed
  have seconds : 0 < windowSeconds.toInt := by
    rw [Int64.le_iff_toInt_le, Int64.toInt_one] at lasting
    omega
  have answered : requestQuota limit windowSeconds client srv =
      (.ok (limit - 1), (srv1.store (quotaKey client)
        (.bytes (Text.Utf8.encode (Numeral.decimal (limit - 1))))).expireIn (quotaKey client)
          (some (windowSeconds.toInt.toNat * 1000))) := by
    simp only [requestQuota, decremented, noTimer, Server.setExpiring_of_healthy healthy1 seconds]
    rfl
  rw [answered]
  refine ⟨?_, ⟨show 0 < windowSeconds.toInt.toNat * 1000 by omega, ?_, ?_⟩, rfl⟩
  · exact (quotaAt_one positive).symm
  · exact Server.timers_expireIn_some _
  · simp [leftAfter_one positive]

/-- A request in an open window counts one more: it answers what the decrement leaves, or
the overflow reply once the key holds the least integer, and the window keeps its time. -/
theorem requestQuota_of_open
    {w : Window}
    (healthy : srv.ready = .ok ())
    (kept : Keeps limit (quotaKey client) srv (some w)) :
    (requestQuota limit windowSeconds client srv).1 = quotaAt limit (w.requests + 1) ∧
      Keeps limit (quotaKey client) (requestQuota limit windowSeconds client srv).2
        (some { w with requests := w.requests + 1 }) ∧
      (requestQuota limit windowSeconds client srv).2.ready = srv.ready := by
  obtain ⟨running, timed, stored⟩ := kept
  by_cases least : leftAfter limit w.requests = Int64.minValue
  · -- the decrement would pass the least integer: the server refuses it
    rw [least] at stored
    have refused := Server.incrBy_minus_one_of_least healthy stored
    have answered : requestQuota limit windowSeconds client srv = (.error wouldOverflow.text, srv) := by
      simp only [requestQuota, refused]
    rw [answered]
    refine ⟨(quotaAt_of_least least).symm, ⟨running, timed, ?_⟩, rfl⟩
    rw [leftAfter_succ_of_least least]
    exact stored
  · have above : Int64.minValue < leftAfter limit w.requests := by
      rw [Int64.lt_iff_toInt_lt, toInt_leftAfter]
      rw [leftAfter_eq_least_iff] at least
      omega
    have decremented := Server.incrBy_minus_one healthy
      (.inr ⟨_, stored, Numeral.parseSigned_encode_decimal _⟩) above
    rw [leftAfter_succ_of_above above] at decremented
    set srv1 := srv.store (quotaKey client)
      (.bytes (Text.Utf8.encode (Numeral.decimal (leftAfter limit (w.requests + 1)))))
    -- the key keeps its time to live, so the window goes on
    have timed1 : srv1.expiry.lookup (quotaKey client) = some w.left :=
      Server.lookup_expiry_of_timers_single (s := srv1) timed
    have present : srv1.find? (quotaKey client) =
        some (.bytes (Text.Utf8.encode (Numeral.decimal (leftAfter limit (w.requests + 1))))) := by
      simp [srv1]
    have counting : srv1.ttl (quotaKey client) = .ok ((w.left / 1000 : Nat) : Int) :=
      Server.ttl_of_timed healthy present timed1
    have answered : requestQuota limit windowSeconds client srv =
        (.ok (leftAfter limit (w.requests + 1)), srv1) := by
      simp only [requestQuota, decremented, counting]
      rw [if_neg (by omega)]
    rw [answered]
    exact ⟨(quotaAt_of_above above).symm, ⟨running, timed, present⟩, rfl⟩

/-- One request keeps the server in step with the quota machine. -/
theorem Keeps.request
    {win : Option Window}
    (positive : 1 ≤ limit)
    (lasting : 1 ≤ windowSeconds)
    (healthy : srv.ready = .ok ())
    (kept : Keeps limit (quotaKey client) srv win) :
    (requestQuota limit windowSeconds client srv).1 =
        quotaAt limit (Window.request windowSeconds win).1 ∧
      Keeps limit (quotaKey client) (requestQuota limit windowSeconds client srv).2
        (Window.request windowSeconds win).2 ∧
      (requestQuota limit windowSeconds client srv).2.ready = srv.ready := by
  cases win with
  | none => exact requestQuota_of_fresh positive lasting healthy kept
  | some w => exact requestQuota_of_open healthy kept

end Steps

section Middleware

variable {r : Request} {next : Service.World → Response × Service.World} {w w1 : Service.World}
  {q : Service.Quota}
  {left : Int64}

end Middleware

end Http

end Tallykeeper
