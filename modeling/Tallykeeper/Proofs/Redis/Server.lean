import Mathlib
import Tallykeeper.Redis.Server
import Tallykeeper.Proofs.Numeral.Decimal

/-!
# String commands on a healthy server

A server that can be reached and has no injected failure runs every command: reads answer
what the keys hold, writes store their bytes under one key and leave every other key as it
was. An increment reads decimal text the way decimal values are written, so a key holding
the decimal text of a value is incremented from that value.
-/

namespace Tallykeeper

/-- Dropping a key from a list of pairs hides that key alone. -/
theorem lookup_erase
    {β : Type}
    (l : List (String × β))
    (key k : String) :
    (l.filter (·.1 != key)).lookup k = if k = key then none else l.lookup k := by
  induction l with
  | nil => simp
  | cons e rest ih =>
      obtain ⟨k', v'⟩ := e
      by_cases dropped : k' = key
      · -- the head carries the dropped key and is filtered out
        subst dropped
        rw [List.filter_cons_of_neg (by simp), ih]
        by_cases same : k = k'
        · simp [same]
        · have differs : (k == k') = false := by simpa using same
          simp [same, List.lookup_cons, differs]
      · rw [List.filter_cons_of_pos (by simpa using dropped)]
        by_cases found : k = k'
        · subst found
          simp [dropped]
        · have differs : (k == k') = false := by simpa using found
          simp [List.lookup_cons, differs, ih]

/-- Writing a key in front of a list that no longer holds it shadows only that key. -/
theorem lookup_put
    {β : Type}
    (l : List (String × β))
    (key k : String)
    (v : β) :
    ((key, v) :: l.filter (·.1 != key)).lookup k = if k = key then some v else l.lookup k := by
  by_cases same : k = key
  · subst same
    simp
  · have differs : (k == key) = false := by simpa using same
    simp [List.lookup_cons, differs, lookup_erase, same]

namespace Redis
namespace Server

variable {s : Server} {key k : String}

@[simp] theorem find?_store (d : Datum) :
    (s.store key d).find? k = if k = key then some d else s.find? k :=
  lookup_put s.data key k d

@[simp] theorem find?_expireIn (ms : Option Nat) : (s.expireIn key ms).find? k = s.find? k :=
  rfl

@[simp] theorem find?_remove : (s.remove key).find? k = if k = key then none else s.find? k :=
  lookup_erase s.data key k

@[simp] theorem failure_remove : (s.remove key).failure = s.failure := rfl

@[simp] theorem failure_store (d : Datum) : (s.store key d).failure = s.failure := rfl

@[simp] theorem now_store (d : Datum) : (s.store key d).now = s.now := rfl

@[simp] theorem failure_expireIn (ms : Option Nat) : (s.expireIn key ms).failure = s.failure :=
  rfl

@[simp] theorem ready_store (d : Datum) : (s.store key d).ready = s.ready := rfl

@[simp] theorem ready_remove : (s.remove key).ready = s.ready := rfl

@[simp] theorem ready_expireIn (ms : Option Nat) : (s.expireIn key ms).ready = s.ready := rfl

theorem command_of_ok
    {α : Type}
    {step : Server → Reply (α × Server)}
    {a : α}
    {s' : Server}
    (healthy : s.ready = .ok ())
    (ran : step s = .ok (a, s')) :
    s.command step = (.ok a, s') := by
  simp [command, healthy, ran]

theorem command_of_error
    {α : Type}
    {step : Server → Reply (α × Server)}
    {e : Failure}
    (healthy : s.ready = .ok ())
    (failed : step s = .error e) :
    s.command step = (.error e, s) := by
  simp [command, healthy, failed]

theorem get_of_absent
    (healthy : s.ready = .ok ())
    (absent : s.find? key = none) :
    get key s = .ok none := by
  simp [get, healthy, absent]

theorem get_of_bytes
    {b : List UInt8}
    (healthy : s.ready = .ok ())
    (found : s.find? key = some (.bytes b)) :
    get key s = .ok (some b) := by
  simp [get, healthy, found]

theorem set_of_healthy
    (healthy : s.ready = .ok ())
    (value : List UInt8) :
    set key value s = (.ok (), (s.store key (.bytes value)).expireIn key none) :=
  command_of_ok healthy rfl

/-- An increment of a key holding the decimal text of a value, or nothing, adds to that
value (zero for nothing), unless the sum leaves the 64-bit range. -/
theorem incrBy_of_decimal
    (healthy : s.ready = .ok ())
    {held : Option Int64}
    (text : s.find? key = held.map fun v => .bytes (Text.Utf8.encode (Numeral.decimal v)))
    (delta : Int64) :
    incrBy key delta s =
      if overflows (held.getD 0) delta then (.error wouldOverflow, s)
      else (.ok (held.getD 0 + delta),
        s.store key (.bytes (Text.Utf8.encode (Numeral.decimal (held.getD 0 + delta))))) := by
  -- the key reads as the held value, so only the range check is left
  cases held with
  | none =>
      simp only [Option.map_none] at text
      by_cases wraps : overflows 0 delta
      · simp [incrBy, command, healthy, text, wraps]
        rfl
      · simp [incrBy, command, healthy, text, wraps]
        rfl
  | some v =>
      simp only [Option.map_some] at text
      by_cases wraps : overflows v delta
      · simp [incrBy, command, healthy, text, wraps,
          Numeral.parseSigned_encode_decimal]
        rfl
      · simp [incrBy, command, healthy, text, wraps,
          Numeral.parseSigned_encode_decimal]
        rfl

theorem del_of_healthy
    (healthy : s.ready = .ok ()) :
    del key s = (.ok (if (s.find? key).isSome then 1 else 0), s.remove key) :=
  command_of_ok healthy rfl

/-- An append changes the server at its key alone, or not at all. -/
theorem xadd_snd
    (key : String)
    (fields : List (String × String))
    (s : Server) :
    (xadd key fields s).2 = s ∨ ∃ d, (xadd key fields s).2 = s.store key d := by
  unfold xadd command
  split
  · exact .inl rfl
  · split
    · rename_i a s' appended
      right
      by_cases empty : fields.isEmpty
      · simp only [empty, if_true] at appended
        cases appended
      · cases found : s.streamAt? key with
        | error e => simp [empty, found] at appended
        | ok st =>
            simp [empty, found] at appended
            exact ⟨_, appended.2.symm⟩
    · exact .inl rfl

/-- A group read changes the server at its key alone, or not at all. -/
theorem xreadgroup_snd (key group consumer position : String) (count : Nat) (s : Server) :
    (xreadgroup key group consumer position count s).2 = s ∨
      ∃ d, (xreadgroup key group consumer position count s).2 = s.store key d := by
  unfold xreadgroup command
  split
  · exact .inl rfl
  · split
    · rename_i a s' ran
      cases found : s.streamAt? key with
      | error e => simp [found, bind, Except.bind] at ran
      | ok st? =>
          cases st? with
          | none => simp [found, bind, Except.bind, throw, throwThe, MonadExceptOf.throw] at ran
          | some st =>
              cases grouped : st.group? group with
              | none =>
                  simp [found, grouped, bind, Except.bind, throw, throwThe, MonadExceptOf.throw] at ran
              | some g =>
                  by_cases fresh : position = ">"
                  · -- new entries move the group, unless there are none
                    by_cases empty : (st.deliverNew g consumer count).1.isEmpty
                    · simp [found, grouped, fresh, empty, bind, Except.bind, pure, Except.pure] at ran
                      exact .inl ran.2.symm
                    · simp [found, grouped, fresh, empty, bind, Except.bind, pure, Except.pure] at ran
                      exact .inr ⟨_, ran.2.symm⟩
                  · -- a replay only reads
                    cases parsed : EntryId.parse? position with
                    | none =>
                        simp [found, grouped, fresh, parsed, bind, Except.bind, throw, throwThe,
                          MonadExceptOf.throw] at ran
                    | some after =>
                        simp [found, grouped, fresh, parsed, bind, Except.bind, pure,
                          Except.pure] at ran
                        exact .inl ran.2.symm
    · exact .inl rfl

/-- An acknowledgement changes the server at its key alone, or not at all. -/
theorem xack_snd (key group : String) (ids : List String) (s : Server) :
    (xack key group ids s).2 = s ∨ ∃ d, (xack key group ids s).2 = s.store key d := by
  unfold xack
  split
  · exact .inl rfl
  · split
    · exact .inl rfl
    · exact .inl rfl
    · split
      · exact .inl rfl
      · -- the acknowledgements are stored, also before a malformed id
        right
        simp only
        split <;> exact ⟨_, rfl⟩

/-- Creating a group changes the server at its key alone, or not at all. -/
theorem xgroupCreate_snd (key group : String) (s : Server) :
    (xgroupCreate key group s).2 = s ∨ ∃ d, (xgroupCreate key group s).2 = s.store key d := by
  unfold xgroupCreate command
  split
  · exact .inl rfl
  · split
    · rename_i a s' ran
      cases found : s.streamAt? key with
      | error e => simp [found, bind, Except.bind] at ran
      | ok st? =>
          by_cases busy : ((st?.getD {}).group? group).isSome
          · simp [found, busy, bind, Except.bind, throw, throwThe, MonadExceptOf.throw] at ran
          · simp [found, busy, bind, Except.bind, pure, Except.pure] at ran
            exact .inr ⟨_, ran.symm⟩
    · exact .inl rfl

/-- An increment changes the server at its key alone, or not at all. -/
theorem incrBy_snd (key : String) (delta : Int64) (s : Server) :
    (incrBy key delta s).2 = s ∨ ∃ d, (incrBy key delta s).2 = s.store key d := by
  unfold incrBy command
  split
  · exact .inl rfl
  · split
    · rename_i a s' ran
      right
      -- whatever the key held, an answer that is no error stored the sum at the key
      cases found : s.find? key with
      | none =>
          by_cases wraps : overflows 0 delta <;>
            simp [found, wraps, bind, Except.bind, pure, Except.pure, throw, throwThe,
              MonadExceptOf.throw] at ran
          exact ⟨_, ran.2.symm⟩
      | some d =>
          cases d with
          | stream st =>
              simp [found, bind, Except.bind, throw, throwThe, MonadExceptOf.throw] at ran
          | bytes b =>
              cases parsed : Numeral.parseSigned (.fixed 10) b with
              | error e =>
                  simp [found, parsed, bind, Except.bind, throw, throwThe,
                    MonadExceptOf.throw] at ran
              | ok v =>
                  by_cases wraps : overflows v delta <;>
                    simp [found, parsed, wraps, bind, Except.bind, pure, Except.pure, throw,
                      throwThe, MonadExceptOf.throw] at ran
                  exact ⟨_, ran.2.symm⟩
    · exact .inl rfl

/-- An append on a healthy server to a key that holds a stream, or nothing, adds the entry
under the next id and stores the stream. -/
theorem xadd_of_stream
    {fields : List (String × String)}
    {st? : Option Stream}
    (healthy : s.ready = .ok ())
    (nonempty : fields ≠ [])
    (found : s.streamAt? key = .ok st?) :
    xadd key fields s =
      (.ok ((st?.getD {}).append s.now fields).1.render,
        s.store key (.stream ((st?.getD {}).append s.now fields).2)) := by
  apply command_of_ok healthy
  simp [found, nonempty, bind, Except.bind, pure, Except.pure]

/-! ## Commands that touch one key -/

/-- The server changed at one key at most: its clock, whether it answers, and every other
key are as they were. -/
structure Only (key : String) (s s' : Server) : Prop where
  now : s'.now = s.now
  ready : s'.ready = s.ready
  others : ∀ k, k ≠ key → s'.find? k = s.find? k

variable {s' s'' : Server}

theorem Only.refl (key : String) (s : Server) : Only key s s :=
  ⟨rfl, rfl, fun _ _ => rfl⟩

theorem Only.trans (first : Only key s s') (second : Only key s' s'') : Only key s s'' :=
  ⟨second.now.trans first.now, second.ready.trans first.ready,
    fun k other => (second.others k other).trans (first.others k other)⟩

theorem only_store (key : String) (d : Datum) (s : Server) : Only key s (s.store key d) :=
  ⟨rfl, rfl, fun k other => by simp [other]⟩

theorem only_expireIn (key : String) (ms : Option Nat) (s : Server) :
    Only key s (s.expireIn key ms) :=
  ⟨rfl, rfl, fun _ _ => rfl⟩

/-- A command that leaves the server alone or stores under one key touches that key only. -/
theorem Only.of_snd (touched : s' = s ∨ ∃ d, s' = s.store key d) : Only key s s' := by
  rcases touched with rfl | ⟨d, rfl⟩
  · exact Only.refl key s'
  · exact only_store key d s

theorem incrBy_only (key : String) (delta : Int64) (s : Server) :
    Only key s (incrBy key delta s).2 :=
  Only.of_snd (incrBy_snd key delta s)

theorem set_only (key : String) (value : List UInt8) (s : Server) :
    Only key s (set key value s).2 := by
  unfold set command
  split
  · exact Only.refl key s
  · exact (only_store key _ s).trans (only_expireIn key none _)

end Server
end Redis

end Tallykeeper
