import Mathlib
import Tallykeeper.Service.Drain
import Tallykeeper.Proofs.Redis.Stream

/-!
# What a change source offers the writer

The durable writer reads a change source as a log `xs` of deliveries, each an id to
acknowledge and an event or the fault that kept it from being read. Between two reads the
source offers the log from a position `k` on (`World.Feeds`): the first `k` entries are
acknowledged, the rest are not, and the coming reads hand them out in order. A read hands
out the next entries after `k` (`World.Delivered`), reports the end of a replay, or finds
nothing when `k` is the end of the log. Acknowledging the first entries of a batch moves
`k` past them, and a rewind makes the unacknowledged rest come again.

Both sources keep this promise, in their own ways: the memory source keeps only the
unacknowledged entries and hands all of them out at once; the stream source keeps the
whole stream, a group that has delivered a prefix of it, and the consumer's pending
entries, which a replay hands out again, `count` at a time, before new entries.
-/

namespace Tallykeeper

open Redis

namespace Change

/-- The delivery of a memory entry. -/
def Entry.delivery (codec : EventCodec) (en : Entry) : Delivery :=
  { ackId := en.id, event := codec.decode en.fields }

namespace MemSource

variable {codec : EventCodec} {s : MemSource} {xs : List Delivery} {k : Nat}

/-- The memory source keeps the log from `k` on, nothing of it delivered. -/
structure Feeds (codec : EventCodec) (s : MemSource) (xs : List Delivery) (k : Nat) : Prop where
  kept : s.entries.map (Entry.delivery codec) = xs.drop k
  fresh : ∀ en ∈ s.entries, en.delivered = false
  distinct : (xs.map (·.ackId)).Nodup
  within : k ≤ xs.length

/-- The memory source keeps the log from `k` on, all of it delivered. -/
structure Delivered (codec : EventCodec) (s : MemSource) (xs : List Delivery) (k : Nat) :
    Prop where
  kept : s.entries.map (Entry.delivery codec) = xs.drop k
  sent : ∀ en ∈ s.entries, en.delivered = true
  distinct : (xs.map (·.ackId)).Nodup
  within : k ≤ xs.length

/-- At the end of the log there is nothing to read. -/
theorem Feeds.consume_of_done (feeds : Feeds codec s xs k) (done : k = xs.length) :
    s.consume codec = (.error (.bare .emptySource), s) := by
  have empty : s.entries = [] := by
    have kept := feeds.kept
    rw [done, List.drop_length, List.map_eq_nil_iff] at kept
    exact kept
  simp [consume, empty]

/-- Before the end, a read hands out the whole rest of the log. -/
theorem Feeds.consume_of_pending (feeds : Feeds codec s xs k) (pending : k < xs.length) :
    (s.consume codec).1 = .ok (xs.drop k) ∧ Delivered codec (s.consume codec).2 xs k := by
  have unsent : s.entries.filter (!·.delivered) = s.entries :=
    List.filter_eq_self.mpr fun en member => by simp [feeds.fresh en member]
  have nonempty : s.entries ≠ [] := by
    intro empty
    have kept := feeds.kept
    rw [empty, List.map_nil] at kept
    have := congrArg List.length kept
    simp at this
    omega
  have handed : (s.consume codec).1 = .ok (xs.drop k) := by
    simp only [consume, unsent, List.isEmpty_iff, nonempty, if_false]
    rw [← feeds.kept]
    rfl
  refine ⟨handed, ⟨?_, ?_, feeds.distinct, feeds.within⟩⟩
  · simp only [consume, unsent, List.isEmpty_iff, nonempty, if_false, List.map_map]
    rw [← feeds.kept]
    rfl
  · simp only [consume, unsent, List.isEmpty_iff, nonempty, if_false]
    intro en member
    obtain ⟨_, _, rfl⟩ := List.mem_map.mp member
    rfl

/-- Acknowledging the first `i` delivered entries drops exactly them. -/
theorem Delivered.ack
    (delivered : Delivered codec s xs k)
    (i : Nat)
    (fits : k + i ≤ xs.length) :
    Delivered codec (s.ack (((xs.drop k).take i).map (·.ackId))) xs (k + i) := by
  have distinctRest : ((xs.drop k).map (·.ackId)).Nodup :=
    (List.drop_sublist k xs |>.map _).nodup delivered.distinct
  -- every kept entry is delivered, so acknowledging is filtering by id alone
  have byId : s.entries.filter (fun en =>
      !((((xs.drop k).take i).map (·.ackId)).contains en.id && en.delivered)) =
        s.entries.filter fun en =>
          !((((xs.drop k).take i).map (·.ackId)).contains (Entry.delivery codec en).ackId) := by
    apply List.filter_congr
    intro en member
    simp [delivered.sent en member, Entry.delivery]
  have kept : (s.entries.filter fun en =>
      !((((xs.drop k).take i).map (·.ackId)).contains (Entry.delivery codec en).ackId)).map
        (Entry.delivery codec) = xs.drop (k + i) := by
    have swap : (s.entries.filter fun en =>
        !((((xs.drop k).take i).map (·.ackId)).contains (Entry.delivery codec en).ackId)).map
          (Entry.delivery codec) =
        (s.entries.map (Entry.delivery codec)).filter fun d =>
          !((((xs.drop k).take i).map (·.ackId)).contains d.ackId) := by
      rw [List.filter_map]
      rfl
    rw [swap, delivered.kept, filter_not_mem_take Delivery.ackId distinctRest i, List.drop_drop]
  refine ⟨?_, ?_, delivered.distinct, fits⟩
  · show (s.entries.filter _).map (Entry.delivery codec) = xs.drop (k + i)
    rw [byId, kept]
  · intro en member
    exact delivered.sent en (List.mem_of_mem_filter member)

/-- A rewind makes the kept entries undelivered. -/
theorem Delivered.rewind (delivered : Delivered codec s xs k) : Feeds codec s.rewind xs k where
  kept := by
    rw [← delivered.kept]
    simp only [MemSource.rewind, List.map_map]
    rfl
  fresh := by
    intro en member
    obtain ⟨_, _, rfl⟩ := List.mem_map.mp member
    rfl
  distinct := delivered.distinct
  within := delivered.within

/-- Once the whole log is acknowledged nothing is kept. -/
theorem Delivered.feeds_of_done (delivered : Delivered codec s xs k) (done : k = xs.length) :
    Feeds codec s xs k where
  kept := delivered.kept
  fresh := by
    have empty : s.entries = [] := by
      have kept := delivered.kept
      rw [done, List.drop_length, List.map_eq_nil_iff] at kept
      exact kept
    simp [empty]
  distinct := delivered.distinct
  within := delivered.within

end MemSource

/-- A read of at most `count` items hands out a prefix, nonempty when there is anything. -/
theorem upTo_prefix {α : Type} (count : Nat) (xs : List α) :
    ∃ m, m ≤ xs.length ∧ (xs ≠ [] → 0 < m) ∧ Redis.Stream.upTo count xs = xs.take m := by
  refine ⟨min (if count = 0 then xs.length else count) xs.length, by omega, ?_, ?_⟩
  · intro nonempty
    have positive : 0 < xs.length := List.length_pos_iff.mpr nonempty
    split <;> omega
  · rw [Redis.Stream.upTo_eq_take, List.take_eq_take_min]

/-- A nonempty run of a list from a position inside it has a last entry. -/
theorem exists_getLast?_take_drop {α : Type} {l : List α} {k m : Nat}
    (positive : 0 < m)
    (inside : k < l.length) :
    ∃ a, ((l.drop k).take m).getLast? = some a := by
  have nonempty : (l.drop k).take m ≠ [] := by
    simp only [ne_eq, List.take_eq_nil_iff, List.drop_eq_nil_iff, not_or]
    omega
  exact Option.isSome_iff_exists.mp (List.getLast?_isSome.mpr nonempty)

namespace StreamSource

variable {codec : EventCodec} {src : StreamSource} {srv : Server} {es : List StreamEntry}
  {k j m : Nat}

/-- The pending entries of a run of entries, all with one consumer. -/
def pendingOf (consumer : String) (run : List StreamEntry) : List PendingEntry :=
  run.map fun e => { id := e.id, consumer }

/-- The stream under the source's key holds the orderly entries `es`; the source's group has
delivered the first `k + j` of them, and the `j` after the first `k` are pending with the
source's consumer. -/
structure Holds (src : StreamSource) (srv : Server) (es : List StreamEntry) (k j : Nat) :
    Prop where
  healthy : srv.ready = .ok ()
  orderly : Orderly es
  within : k + j ≤ es.length
  group : ∃ st g, srv.find? src.key = some (.stream st) ∧ st.entries = es ∧
    st.group? src.group = some g ∧ Splits g.lastDelivered es (k + j) ∧
    g.pending = pendingOf src.consumer ((es.drop k).take j)

/-- The cursor reads as an id before every entry from position `p` on. -/
def ResumesAt (src : StreamSource) (es : List StreamEntry) (p : Nat) : Prop :=
  ∃ x, EntryId.parse? src.cursor = some x ∧ ∀ e ∈ es.drop p, EntryId.lt x e.id = true

/-- The stream source offers its entries from `k` on: a replay hands out the pending ones
first, and reading new entries starts only once none is pending. -/
def Feeds (src : StreamSource) (srv : Server) (es : List StreamEntry) (k : Nat) : Prop :=
  ∃ j, src.Holds srv es k j ∧
    (src.replaying = true ∧ src.ResumesAt es k ∨ src.replaying = false ∧ j = 0)

/-- The stream source has just handed out the `m` entries after the first `k`. -/
def Delivered (src : StreamSource) (srv : Server) (es : List StreamEntry) (k m : Nat) : Prop :=
  ∃ j, src.Holds srv es k j ∧ 0 < m ∧ m ≤ j ∧
    (src.replaying = true ∧ src.ResumesAt es (k + m) ∨ src.replaying = false ∧ j = m)

/-- What the group holds depends on the source's key, group and consumer alone. -/
theorem Holds.reread
    (holds : src.Holds srv es k j)
    (src' : StreamSource)
    (key : src'.key = src.key)
    (group : src'.group = src.group)
    (consumer : src'.consumer = src.consumer) :
    src'.Holds srv es k j := by
  obtain ⟨healthy, orderly, within, group'⟩ := holds
  rw [← key, ← group, ← consumer] at group'
  exact ⟨healthy, orderly, within, group'⟩

/-- The last entry of a nonempty run after the first `k` cuts the stream after the run. -/
theorem splits_after_run
    (orderly : Orderly es)
    {m : Nat}
    {last : StreamEntry}
    (found : ((es.drop k).take m).getLast? = some last) :
    Splits last.id es (k + m) := by
  apply splits_of_getLast orderly
  rw [List.take_add, List.getLast?_append, found]
  rfl

theorem resumesAt_after_run
    (orderly : Orderly es)
    {m : Nat}
    {last : StreamEntry}
    (found : ((es.drop k).take m).getLast? = some last) :
    ({ src with cursor := last.id.render } : StreamSource).ResumesAt es (k + m) := by
  have member : last ∈ es := List.mem_of_mem_drop (List.mem_of_mem_take (List.mem_of_getLast? found))
  exact ⟨last.id, EntryId.parse?_render (orderly.readable last member),
    (splits_after_run orderly found).2⟩

/-- A read that hands out entries keeps the source's mode. -/
theorem replaying_consume_of_ok {ds : List Delivery} (ok : (src.consume codec srv).1 = .ok ds) :
    (src.consume codec srv).2.1.replaying = src.replaying := by
  unfold StreamSource.consume at ok ⊢
  cases mode : src.replaying with
  | false =>
      simp only [mode, Bool.false_eq_true, if_false] at ok ⊢
      split
      · exact mode
      · split <;> exact mode
  | true =>
      simp only [mode, if_true] at ok ⊢
      split
      · exact mode
      · -- an empty replay answers an error, so a batch keeps replaying
        split <;> simp_all

/-- A read changes the server at the source's key alone, or not at all, and keeps the key. -/
theorem consume_touches (codec : EventCodec) (src : StreamSource) (srv : Server) :
    (src.consume codec srv).2.1.key = src.key ∧
      ((src.consume codec srv).2.2 = srv ∨ ∃ d, (src.consume codec srv).2.2 = srv.store src.key d) := by
  -- every branch answers the read's server and a source with the same key
  have answered : (src.consume codec srv).2.1.key = src.key ∧ (src.consume codec srv).2.2 =
      (srv.xreadgroup src.key src.group src.consumer (if src.replaying then src.cursor else ">")
        src.count).2 := by
    unfold StreamSource.consume
    cases mode : src.replaying with
    | false =>
        simp only [Bool.false_eq_true, if_false]
        cases read : Server.xreadgroup src.key src.group src.consumer ">" src.count srv with
        | mk r srv' =>
            cases r with
            | error m => exact ⟨rfl, rfl⟩
            | ok entries =>
                dsimp only
                split <;> exact ⟨rfl, rfl⟩
    | true =>
        simp only [if_true]
        cases read : Server.xreadgroup src.key src.group src.consumer src.cursor src.count srv with
        | mk r srv' =>
            cases r with
            | error m => exact ⟨rfl, rfl⟩
            | ok entries =>
                dsimp only
                split <;> exact ⟨rfl, rfl⟩
  rw [answered.2]
  exact ⟨answered.1, Server.xreadgroup_snd _ _ _ _ _ srv⟩

/-- An acknowledgement changes the server at the source's key alone, or not at all. -/
theorem ack_touches (ids : List String) (src : StreamSource) (srv : Server) :
    (src.ack ids srv).2 = srv ∨ ∃ d, (src.ack ids srv).2 = srv.store src.key d := by
  unfold StreamSource.ack
  split
  · exact .inl rfl
  · have acked := Server.xack_snd src.key src.group ids srv
    split
    · rename_i answer
      rw [answer] at acked
      exact acked
    · rename_i answer
      rw [answer] at acked
      exact acked

/-- Preparing changes the server at the source's key alone, or not at all. -/
theorem setup_touches (src : StreamSource) (srv : Server) :
    (src.setup srv).2 = srv ∨ ∃ d, (src.setup srv).2 = srv.store src.key d := by
  have created := Server.xgroupCreate_snd src.key src.group srv
  unfold StreamSource.setup
  split
  · rename_i answer
    rw [answer] at created
    exact created
  · rename_i answer
    rw [answer] at created
    split <;> exact created

/-- A replay with nothing pending ends the replay and changes nothing else. -/
theorem Holds.consume_replay_done
    (codec : EventCodec)
    (holds : src.Holds srv es k 0)
    (replaying : src.replaying = true)
    (resumes : src.ResumesAt es k) :
    src.consume codec srv =
      (.error (.wrap .emptySource "no pending entries"), { src with replaying := false }, srv) := by
  obtain ⟨st, g, found, -, grouped, -, pending⟩ := holds.group
  obtain ⟨x, parsed, -⟩ := resumes
  have none : st.deliverPending g src.consumer x src.count = [] := by
    simp [Stream.deliverPending, pending, pendingOf, Stream.upTo]
  simp [consume, replaying, Server.xreadgroup_pending holds.healthy found grouped parsed, none]

/-- A replay hands out the next pending entries, `count` at most, and moves the cursor to the
last of them. -/
theorem Holds.consume_replay
    (codec : EventCodec)
    (holds : src.Holds srv es k j)
    (replaying : src.replaying = true)
    (resumes : src.ResumesAt es k)
    (pending : 0 < j) :
    ∃ m, 0 < m ∧ m ≤ j ∧
      (src.consume codec srv).1 = .ok (((es.drop k).take m).map (delivery codec)) ∧
      (src.consume codec srv).2.1.Delivered (src.consume codec srv).2.2 es k m := by
  obtain ⟨st, g, found, entries, grouped, -, held⟩ := holds.group
  obtain ⟨x, parsed, after⟩ := resumes
  have run : ((es.drop k).take j).length = j := by
    have := holds.within
    simp
    omega
  -- every pending entry is the consumer's and lies after the cursor
  have ids : (g.pending.filter fun p => p.consumer == src.consumer && EntryId.lt x p.id).map
      (·.id) = ((es.drop k).take j).map (·.id) := by
    rw [held, pendingOf, List.filter_map, List.map_map]
    congr 1
    apply List.filter_eq_self.mpr
    intro e member
    simp [after e (List.mem_of_mem_take member)]
  have replayed : st.deliverPending g src.consumer x src.count =
      Stream.upTo src.count ((es.drop k).take j) := by
    simp only [Stream.deliverPending, ids, entries]
    rw [filter_ids_of_distinct holds.orderly.distinct]
  obtain ⟨m, bounded, positive, taken⟩ := upTo_prefix src.count ((es.drop k).take j)
  have nonempty : (es.drop k).take j ≠ [] := by
    intro empty
    rw [empty, List.length_nil] at run
    omega
  have handed : st.deliverPending g src.consumer x src.count = (es.drop k).take m := by
    rw [replayed, taken, List.take_take]
    congr 1
    omega
  have positive' := positive nonempty
  rw [run] at bounded
  have inside : k < es.length := by
    have := holds.within
    omega
  obtain ⟨last, lastFound⟩ := exists_getLast?_take_drop positive' inside
  have consumed : src.consume codec srv =
      (.ok (((es.drop k).take m).map (delivery codec)), { src with cursor := last.id.render }, srv) := by
    simp [consume, replaying, Server.xreadgroup_pending holds.healthy found grouped parsed, handed,
      lastFound]
  rw [consumed]
  refine ⟨m, positive', bounded, rfl, j, holds.reread _ rfl rfl rfl, positive', bounded,
    .inl ⟨replaying, resumesAt_after_run holds.orderly lastFound⟩⟩

/-- At the end of the stream a read of new entries finds nothing. -/
theorem Holds.consume_new_done
    (codec : EventCodec)
    (holds : src.Holds srv es k 0)
    (reading : src.replaying = false)
    (done : k = es.length) :
    src.consume codec srv = (.error (.bare .emptySource), src, srv) := by
  obtain ⟨st, g, found, entries, grouped, splits, -⟩ := holds.group
  rw [← entries, Nat.add_zero] at splits
  have nothing : (st.deliverNew g src.consumer src.count).1 = [] := by
    rw [Stream.deliverNew_eq splits, entries, done, List.drop_length]
    simp [Stream.upTo]
  simp [consume, reading, Server.xreadgroup_new holds.healthy found grouped, nothing]

/-- A read of new entries hands out the next entries of the stream, `count` at most, and the
group records them as delivered and pending. -/
theorem Holds.consume_new
    (codec : EventCodec)
    (holds : src.Holds srv es k 0)
    (reading : src.replaying = false)
    (pending : k < es.length) :
    ∃ m, 0 < m ∧ k + m ≤ es.length ∧
      (src.consume codec srv).1 = .ok (((es.drop k).take m).map (delivery codec)) ∧
      (src.consume codec srv).2.1.Delivered (src.consume codec srv).2.2 es k m := by
  obtain ⟨st, g, found, entries, grouped, splits, held⟩ := holds.group
  rw [← entries, Nat.add_zero] at splits
  obtain ⟨m, bounded, positive, taken⟩ := upTo_prefix src.count (es.drop k)
  have nonempty : es.drop k ≠ [] := by
    intro empty
    have := congrArg List.length empty
    simp at this
    omega
  have positive' := positive nonempty
  simp only [List.length_drop] at bounded
  obtain ⟨last, lastFound⟩ := exists_getLast?_take_drop positive' pending
  set next : Group :=
    { g with
      lastDelivered := last.id
      pending := pendingOf src.consumer ((es.drop k).take m) }
  have delivered : st.deliverNew g src.consumer src.count = ((es.drop k).take m, next) := by
    rw [Stream.deliverNew_eq splits, entries, taken, lastFound]
    simp [next, held, pendingOf]
  have nonemptyRun : ((es.drop k).take m).isEmpty = false := by
    cases runs : (es.drop k).take m with
    | nil => simp [runs] at lastFound
    | cons _ _ => rfl
  have consumed : src.consume codec srv =
      (.ok (((es.drop k).take m).map (delivery codec)), src,
        srv.store src.key (.stream (st.putGroup next))) := by
    simp [consume, reading, Server.xreadgroup_new holds.healthy found grouped, delivered,
      nonemptyRun]
  rw [consumed]
  have stored : (srv.store src.key (.stream (st.putGroup next))).find? src.key =
      some (.stream (st.putGroup next)) := by simp
  refine ⟨m, positive', by omega, rfl, m, ⟨by simpa using holds.healthy, holds.orderly,
    by omega, st.putGroup next, next, stored, by rw [Stream.entries_putGroup, entries],
    Stream.group?_putGroup grouped next rfl, splits_after_run holds.orderly lastFound, by
      simp [next]⟩, positive', le_refl m, .inr ⟨reading, rfl⟩⟩

/-- Acknowledging the first `i` pending entries drops them from the pending list. -/
theorem Holds.ack
    (holds : src.Holds srv es k j)
    (i : Nat)
    (le : i ≤ j) :
    src.Holds (src.ack (((es.drop k).take i).map (·.id.render)) srv).2 es (k + i) (j - i) := by
  obtain ⟨st, g, found, entries, grouped, splits, held⟩ := holds.group
  by_cases nothing : i = 0
  · subst nothing
    have unchanged : (src.ack (((es.drop k).take 0).map (·.id.render)) srv).2 = srv := by
      simp [StreamSource.ack]
    rw [unchanged, Nat.add_zero, Nat.sub_zero]
    exact holds
  · set ids := ((es.drop k).take i).map (·.id.render) with idsEq
    have reads : ∀ id ∈ ids, (EntryId.parse? id).isSome := by
      intro id member
      obtain ⟨e, inRun, rfl⟩ := List.mem_map.mp member
      have inStream : e ∈ es := List.mem_of_mem_drop (List.mem_of_mem_take inRun)
      simp [EntryId.parse?_render (holds.orderly.readable e inStream)]
    obtain ⟨n, acked⟩ := Server.xack_of_readable holds.healthy found grouped reads
    set next : Group := { g with pending := g.pending.filter fun p => !ids.contains p.id.render }
    have some : ids.isEmpty = false := by
      cases runs : (es.drop k).take i with
      | nil =>
          have := congrArg List.length runs
          simp at this
          have := holds.within
          omega
      | cons _ _ => simp only [ids, runs, List.map_cons, List.isEmpty_cons]
    have result : (src.ack ids srv).2 = srv.store src.key (.stream (st.putGroup next)) := by
      simp only [StreamSource.ack, some, acked, Bool.false_eq_true, if_false]
    -- the acknowledged ids are the first `i` of the pending run
    have run : (es.drop k).take i = ((es.drop k).take j).take i := by
      rw [List.take_take, Nat.min_eq_left le]
    have distinct : (((es.drop k).take j).map (·.id.render)).Nodup :=
      ((List.take_sublist _ _).trans (List.drop_sublist _ _)).map _ |>.nodup
        holds.orderly.distinct_render
    have pending : next.pending = pendingOf src.consumer ((es.drop (k + i)).take (j - i)) := by
      show g.pending.filter _ = _
      rw [held, pendingOf, idsEq, run, filter_acknowledged distinct, List.drop_take, List.drop_drop]
      rfl
    rw [result]
    refine ⟨by simpa using holds.healthy, holds.orderly, by have := holds.within; omega,
      st.putGroup next, next, by simp, by rw [Stream.entries_putGroup, entries],
      Stream.group?_putGroup grouped next rfl, ?_, pending⟩
    rw [show k + i + (j - i) = k + j by omega]
    exact splits

/-- After a batch, acknowledging all of it offers the rest of the stream, and acknowledging
its first `i` entries then rewinding offers the stream from the `i`-th entry on. -/
theorem Delivered.ack
    (delivered : src.Delivered srv es k m)
    (i : Nat)
    (le : i ≤ m) :
    (i = m → src.Feeds (src.ack (((es.drop k).take i).map (·.id.render)) srv).2 es (k + m)) ∧
      src.rewind.Feeds (src.ack (((es.drop k).take i).map (·.id.render)) srv).2 es (k + i) := by
  obtain ⟨j, holds, -, bounded, mode⟩ := delivered
  have acked := holds.ack i (le.trans bounded)
  constructor
  · rintro rfl
    refine ⟨j - i, acked, ?_⟩
    rcases mode with ⟨replaying, resumes⟩ | ⟨reading, whole⟩
    · exact .inl ⟨replaying, resumes⟩
    · exact .inr ⟨reading, by omega⟩
  · refine ⟨j - i, acked.reread src.rewind rfl rfl rfl, .inl ⟨rfl, EntryId.zero, ?_, ?_⟩⟩
    · exact EntryId.parse?_zero
    · intro e member
      exact holds.orderly.positive e (List.mem_of_mem_drop member)

/-- A stream source that has delivered nothing: the stream is absent, or its group is
absent or has delivered nothing. -/
structure Fresh (src : StreamSource) (srv : Server) (es : List StreamEntry) : Prop where
  healthy : srv.ready = .ok ()
  orderly : Orderly es
  resumes : src.replaying = true → src.ResumesAt es 0
  stream : (srv.find? src.key = none ∧ es = []) ∨
    ∃ st, srv.find? src.key = some (.stream st) ∧ st.entries = es ∧
      (st.group? src.group = none ∨
        ∃ g, st.group? src.group = some g ∧ Splits g.lastDelivered es 0 ∧ g.pending = [])

/-- A group that has delivered nothing offers the whole stream. -/
theorem Holds.feeds_of_fresh
    {srv' : Server}
    (holds : src.Holds srv' es 0 0)
    (resumes : src.replaying = true → src.ResumesAt es 0) :
    src.Feeds srv' es 0 := by
  refine ⟨0, holds, ?_⟩
  cases replaying : src.replaying with
  | true => exact .inl ⟨rfl, resumes replaying⟩
  | false => exact .inr ⟨rfl, rfl⟩

/-- Preparing a source that has delivered nothing creates its group if needed, and then the
source offers the whole stream. -/
theorem Fresh.setup (fresh : src.Fresh srv es) :
    (src.setup srv).1 = .ok () ∧ src.Feeds (src.setup srv).2 es 0 := by
  rcases fresh.stream with ⟨absent, rfl⟩ | ⟨st, found, entries, absent | ⟨g, grouped, splits, idle⟩⟩
  · -- no stream: it is created with the group
    have created : src.setup srv =
        (.ok (), srv.store src.key (.stream { groups := [{ name := src.group }] })) := by
      simp [StreamSource.setup, Server.xgroupCreate_of_absent fresh.healthy absent]
    set made : Redis.Stream := { groups := [{ name := src.group }] }
    have grouped : made.group? src.group = some { name := src.group } := by
      simp [made, Stream.group?]
    rw [created]
    refine ⟨rfl, Holds.feeds_of_fresh ⟨by simpa using fresh.healthy, fresh.orderly, by simp, made,
      { name := src.group }, by simp, rfl, grouped, ⟨by simp, by simp⟩, by simp [pendingOf]⟩
      fresh.resumes⟩
  · -- a stream without the group: the group is added
    set st' : Redis.Stream := { st with groups := st.groups ++ [{ name := src.group }] }
    have created : src.setup srv = (.ok (), srv.store src.key (.stream st')) := by
      simp [StreamSource.setup, Server.xgroupCreate_of_fresh fresh.healthy found absent, st']
    have grouped : st'.group? src.group = some { name := src.group } := by
      have missing : st.groups.find? (·.name == src.group) = none := absent
      simp [st', Stream.group?, List.find?_append, missing]
    rw [created]
    refine ⟨rfl, Holds.feeds_of_fresh ⟨by simpa using fresh.healthy, fresh.orderly, by simp, st',
      { name := src.group }, by simp, entries, grouped, splits_zero fresh.orderly,
      by simp [pendingOf]⟩ fresh.resumes⟩
  · -- the group exists already: the refusal as busy counts as success
    have kept : src.setup srv = (.ok (), srv) := by
      have busy : Group.isBusy (some busyGroup.text) = true := by
        simp [Group.isBusy, busyGroup, Failure.text]
      simp [StreamSource.setup, Server.xgroupCreate_of_existing fresh.healthy found grouped, busy]
    rw [kept]
    refine ⟨rfl, Holds.feeds_of_fresh ⟨fresh.healthy, fresh.orderly, by simp, st, g, found,
      entries, grouped, splits, by simp [idle, pendingOf]⟩ fresh.resumes⟩

end StreamSource

end Change

namespace Service

open Change

/-- The key of the stream a source reads, if it reads one. -/
def Source.key? : Source → Option String
  | .stream src => some src.key
  | _ => none

namespace World

variable {w w' w'' : World} {xs : List Delivery} {k m : Nat}

/-- The source offers the writer the log `xs` from its `k`-th entry on. -/
def Feeds (w : World) (xs : List Delivery) (k : Nat) : Prop :=
  match w.source with
  | .memory s => MemSource.Feeds w.eventCodec s xs k
  | .silent => xs = [] ∧ k = 0
  | .stream src => ∃ es, xs = es.map (StreamSource.delivery w.eventCodec) ∧
      src.Feeds w.stores.server es k

/-- The source has just handed out the `m` entries of `xs` after the first `k`. -/
def Delivered (w : World) (xs : List Delivery) (k m : Nat) : Prop :=
  match w.source with
  | .memory s => MemSource.Delivered w.eventCodec s xs k ∧ 0 < m ∧ k + m = xs.length
  | .silent => False
  | .stream src => ∃ es, xs = es.map (StreamSource.delivery w.eventCodec) ∧
      src.Delivered w.stores.server es k m

/-- Whether the next read replays pending entries. -/
def replaying (w : World) : Bool :=
  match w.source with
  | .stream src => src.replaying
  | _ => false

/-- The source has delivered nothing of the log `xs`: once prepared it offers all of it. -/
def Fresh (w : World) (xs : List Delivery) : Prop :=
  match w.source with
  | .memory s => MemSource.Feeds w.eventCodec s xs 0
  | .silent => xs = []
  | .stream src => ∃ es, xs = es.map (StreamSource.delivery w.eventCodec) ∧
      src.Fresh w.stores.server es

/-- Every step of the writer leaves the catalog, the counts and the server away from the
source's stream alone, and keeps the stream's key. -/
structure Beside (w w' : World) : Prop where
  catalog : w'.stores.catalog = w.stores.catalog
  script : w'.stores.script = w.stores.script
  backend : w'.stores.backend = w.stores.backend
  counts : w'.stores.counts = w.stores.counts
  countHome : w'.stores.countHome = w.stores.countHome
  ready : w'.stores.server.ready = w.stores.server.ready
  key : w'.source.key? = w.source.key?
  away : ∀ key, w.source.key? ≠ some key → w'.stores.server.find? key = w.stores.server.find? key

theorem Beside.refl (w : World) : Beside w w :=
  ⟨rfl, rfl, rfl, rfl, rfl, rfl, rfl, fun _ _ => rfl⟩

theorem Beside.trans (first : Beside w w') (second : Beside w' w'') : Beside w w'' where
  catalog := second.catalog.trans first.catalog
  script := second.script.trans first.script
  backend := second.backend.trans first.backend
  counts := second.counts.trans first.counts
  countHome := second.countHome.trans first.countHome
  ready := second.ready.trans first.ready
  key := second.key.trans first.key
  away := by
    intro key elsewhere
    rw [second.away key (by rw [first.key]; exact elsewhere), first.away key elsewhere]

/-- A step that keeps the stores and the stream's key. -/
theorem Beside.of_stores (stores : w'.stores = w.stores) (key : w'.source.key? = w.source.key?) :
    Beside w w' := by
  refine ⟨?_, ?_, ?_, ?_, ?_, ?_, key, fun _ _ => ?_⟩ <;> rw [stores]

/-- A step of a stream source that changes the server at the stream's key alone. -/
theorem Beside.stream
    {src src' : StreamSource}
    {srv' : Server}
    (source : w.source = .stream src)
    (source' : w'.source = .stream src')
    (key : src'.key = src.key)
    (stores : w'.stores = { w.stores with server := srv' })
    (touched : srv' = w.stores.server ∨ ∃ d, srv' = w.stores.server.store src.key d) :
    Beside w w' := by
  refine ⟨by rw [stores], by rw [stores], by rw [stores], by rw [stores], by rw [stores], ?_,
    by simp [Source.key?, source, source', key], ?_⟩
  · rw [stores]
    rcases touched with same | ⟨d, stored⟩
    · exact congrArg Server.ready same
    · simp [stored]
  · intro other elsewhere
    rw [source] at elsewhere
    rw [stores]
    rcases touched with same | ⟨d, stored⟩
    · exact congrArg (Server.find? · other) same
    · have differs : other ≠ src.key := fun same => elsewhere (by rw [same]; rfl)
      simp [stored, differs]

/-- A step on the source side leaves the ledger and its arranged failures alone. -/
structure LedgerKept (w w' : World) : Prop where
  ledger : w'.stores.ledger = w.stores.ledger
  upserts : w'.writerFaults.upserts = w.writerFaults.upserts
  beside : Beside w w'

theorem LedgerKept.refl (w : World) : LedgerKept w w := ⟨rfl, rfl, Beside.refl w⟩

theorem LedgerKept.trans (first : LedgerKept w w') (second : LedgerKept w' w'') :
    LedgerKept w w'' :=
  ⟨second.ledger.trans first.ledger, second.upserts.trans first.upserts,
    first.beside.trans second.beside⟩

/-- A step on the ledger side leaves the source, its server, the codec and the arranged read
failures alone. -/
structure SourceKept (w w' : World) : Prop where
  source : w'.source = w.source
  server : w'.stores.server = w.stores.server
  codec : w'.eventCodec = w.eventCodec
  consumes : w'.writerFaults.consumes = w.writerFaults.consumes
  beside : Beside w w'

theorem SourceKept.refl (w : World) : SourceKept w w := ⟨rfl, rfl, rfl, rfl, Beside.refl w⟩

theorem SourceKept.trans (first : SourceKept w w') (second : SourceKept w' w'') :
    SourceKept w w'' :=
  ⟨second.source.trans first.source, second.server.trans first.server,
    second.codec.trans first.codec, second.consumes.trans first.consumes,
    first.beside.trans second.beside⟩

theorem Delivered.of_sourceKept (delivered : w.Delivered xs k m) (kept : SourceKept w w') :
    w'.Delivered xs k m := by
  unfold Delivered
  rw [kept.source, kept.server, kept.codec]
  exact delivered

theorem replaying_of_sourceKept (kept : SourceKept w w') : w'.replaying = w.replaying := by
  unfold replaying
  rw [kept.source]

/-- A batch lies within the log and is not empty. -/
theorem Delivered.bounds (delivered : w.Delivered xs k m) : 0 < m ∧ k + m ≤ xs.length := by
  unfold Delivered at delivered
  split at delivered
  · exact ⟨delivered.2.1, delivered.2.2.le⟩
  · exact delivered.elim
  · obtain ⟨es, rfl, j, holds, positive, bounded, -⟩ := delivered
    have := holds.within
    simp only [List.length_map]
    exact ⟨positive, by omega⟩

/-! ## Reading -/

/-- What a read of the source may answer when it offers `xs` from `k` on: the next entries,
the end of a replay, or nothing at the end of the log. -/
def Offered (w : World) (xs : List Delivery) (k : Nat) :
    Except Fault (List Delivery) × World → Prop
  | (.ok ds, w') => ∃ m, ds = (xs.drop k).take m ∧ w'.Delivered xs k m ∧
      w'.replaying = w.replaying ∧ LedgerKept w w' ∧
      w'.writerFaults.consumes = w.writerFaults.consumes
  | (.error f, w') => w'.Feeds xs k ∧ LedgerKept w w' ∧
      w'.writerFaults.consumes = w.writerFaults.consumes ∧
      (f = .bare .emptySource ∧ k = xs.length ∨
        f = .wrap .emptySource "no pending entries" ∧ w.replaying = true ∧ w'.replaying = false)

theorem Feeds.consume (feeds : w.Feeds xs k) : w.Offered xs k w.consume := by
  unfold Feeds at feeds
  cases source : w.source with
  | memory s =>
      rw [source] at feeds
      have consumed : w.consume = ((s.consume w.eventCodec).1,
          { w with source := .memory (s.consume w.eventCodec).2 }) := by
        simp [World.consume, source]
      have kept (s' : MemSource) : LedgerKept w { w with source := .memory s' } :=
        ⟨rfl, rfl, Beside.of_stores rfl (by simp [Source.key?, source])⟩
      rw [consumed]
      by_cases done : k = xs.length
      · rw [feeds.consume_of_done done]
        exact ⟨feeds, kept s, rfl, .inl ⟨rfl, done⟩⟩
      · obtain ⟨handed, delivered⟩ := feeds.consume_of_pending (by have := feeds.within; omega)
        rw [handed]
        refine ⟨xs.length - k, by simp, ⟨delivered, ?_, ?_⟩, ?_, kept _, rfl⟩
        · have := feeds.within
          omega
        · have := feeds.within
          omega
        · simp [replaying, source]
  | silent =>
      rw [source] at feeds
      obtain ⟨rfl, rfl⟩ := feeds
      have consumed : w.consume = (.error (.bare .emptySource), w) := by
        simp [World.consume, source]
      rw [consumed]
      refine ⟨?_, LedgerKept.refl w, rfl, .inl ⟨rfl, rfl⟩⟩
      simp [Feeds, source]
  | stream src =>
      rw [source] at feeds
      obtain ⟨es, rfl, j, holds, mode⟩ := feeds
      set read := src.consume w.eventCodec w.stores.server
      have consumed : w.consume = (read.1,
          { w with source := .stream read.2.1, stores := { w.stores with server := read.2.2 } }) := by
        simp [World.consume, source, read]
      have kept : LedgerKept w
          { w with source := .stream read.2.1, stores := { w.stores with server := read.2.2 } } :=
        ⟨rfl, rfl, Beside.stream source rfl (StreamSource.consume_touches _ _ _).1 rfl
          (StreamSource.consume_touches _ _ _).2⟩
      rw [consumed]
      rcases mode with ⟨replaying', resumes⟩ | ⟨reading, rfl⟩
      · by_cases none : j = 0
        · subst none
          have ended := holds.consume_replay_done w.eventCodec replaying' resumes
          simp only [read, ended] at kept ⊢
          refine ⟨⟨es, rfl, 0, holds.reread _ rfl rfl rfl, .inr ⟨rfl, rfl⟩⟩, kept, rfl,
            .inr ⟨rfl, by simp [replaying, source, replaying'], rfl⟩⟩
        · obtain ⟨m, positive, bounded, handed, delivered⟩ :=
            holds.consume_replay w.eventCodec replaying' resumes (by omega)
          rw [handed]
          refine ⟨m, by simp [List.map_drop, List.map_take], ⟨es, rfl, delivered⟩, ?_, kept, rfl⟩
          simp [replaying, source, read, StreamSource.replaying_consume_of_ok handed]
      · by_cases done : k = es.length
        · have ended := holds.consume_new_done w.eventCodec reading done
          simp only [read, ended] at kept ⊢
          refine ⟨⟨es, rfl, 0, holds, .inr ⟨reading, rfl⟩⟩, kept, rfl,
            .inl ⟨rfl, by simp [done]⟩⟩
        · obtain ⟨m, positive, bounded, handed, delivered⟩ :=
            holds.consume_new w.eventCodec reading (by have := holds.within; omega)
          rw [handed]
          refine ⟨m, by simp [List.map_drop, List.map_take], ⟨es, rfl, delivered⟩, ?_, kept, rfl⟩
          simp [replaying, source, read, StreamSource.replaying_consume_of_ok handed]

/-- What a read of the writer may answer when the source offers `xs` from `k` on: a batch of
the next entries, the end of a replay, nothing at the end of the log, or an arranged failure,
which uses one of them up. -/
def Answers (w : World) (xs : List Delivery) (k : Nat) : Read × World → Prop
  | (.batch ds, w') => ∃ m, ds = (xs.drop k).take m ∧ w'.Delivered xs k m ∧
      w'.replaying = w.replaying ∧ LedgerKept w w' ∧
      w'.writerFaults.consumes ≤ w.writerFaults.consumes
  | (.drained, w') => w'.Feeds xs k ∧ LedgerKept w w' ∧
      w'.writerFaults.consumes ≤ w.writerFaults.consumes ∧
      w.replaying = true ∧ w'.replaying = false
  | (.idle, w') => k = xs.length ∧ w'.Feeds xs k ∧ LedgerKept w w'
  | (.failed _, w') => w'.Feeds xs k ∧ LedgerKept w w' ∧
      w'.writerFaults.consumes < w.writerFaults.consumes ∧ w'.replaying = w.replaying

theorem Feeds.tryRead (feeds : w.Feeds xs k) : w.Answers xs k w.tryRead := by
  unfold World.tryRead
  by_cases injected : w.writerFaults.consumes > 0
  · rw [if_pos injected]
    exact ⟨feeds, ⟨rfl, rfl, Beside.of_stores rfl rfl⟩, by simp only; omega, rfl⟩
  · rw [if_neg injected]
    have offered := feeds.consume
    cases read : w.consume with
    | mk r w' =>
        rw [read] at offered
        cases r with
        | ok ds =>
            obtain ⟨m, batch, delivered, mode, kept, same⟩ := offered
            exact ⟨m, batch, delivered, mode, kept, same.le⟩
        | error f =>
            obtain ⟨feeds', kept, same, ⟨rfl, done⟩ | ⟨rfl, replaying', stopped⟩⟩ := offered
            · exact ⟨done, feeds', kept⟩
            · -- the end of a replay is an empty-source fault other than the bare one
              have notBare : (Fault.wrap .emptySource "no pending entries" ==
                  Fault.bare .emptySource) = false := by decide
              have ofEmpty : (Fault.wrap .emptySource "no pending entries").is .emptySource = true := by
                decide
              simp only [notBare, ofEmpty, Bool.false_eq_true, if_false, if_true]
              exact ⟨feeds', kept, same.le, replaying', stopped⟩

/-- An arranged failure before a read changes nothing the read promises. -/
theorem Answers.after_failed
    {r : Read × World}
    (answers : w'.Answers xs k r)
    (kept : LedgerKept w w')
    (fewer : w'.writerFaults.consumes < w.writerFaults.consumes)
    (same : w'.replaying = w.replaying) :
    w.Answers xs k r := by
  obtain ⟨read, w''⟩ := r
  cases read with
  | batch ds =>
      obtain ⟨m, batch, delivered, mode, kept', fewer'⟩ := answers
      exact ⟨m, batch, delivered, mode.trans same, kept.trans kept', by omega⟩
  | drained =>
      obtain ⟨feeds, kept', fewer', replaying', stopped⟩ := answers
      exact ⟨feeds, kept.trans kept', by omega, by rw [← same]; exact replaying', stopped⟩
  | idle =>
      obtain ⟨done, feeds, kept'⟩ := answers
      exact ⟨done, feeds, kept.trans kept'⟩
  | failed f =>
      obtain ⟨feeds, kept', fewer', same'⟩ := answers
      exact ⟨feeds, kept.trans kept', by omega, same'.trans same⟩

theorem Feeds.readWithRetries (feeds : w.Feeds xs k) (n : Nat) :
    w.Answers xs k (w.readWithRetries (n + 1)) := by
  induction n generalizing w with
  | zero => exact feeds.tryRead
  | succ n ih =>
      have answers := feeds.tryRead
      unfold World.readWithRetries
      cases read : w.tryRead with
      | mk r w' =>
          rw [read] at answers
          cases r with
          | failed f =>
              obtain ⟨feeds', kept, fewer, same⟩ := answers
              exact (ih feeds').after_failed kept fewer same
          | batch ds => exact answers
          | drained => exact answers
          | idle => exact answers

/-! ## Acknowledging and rewinding -/

@[simp] theorem ack_writerFaults (ids : List String) (w : World) :
    (w.ack ids).2.writerFaults = w.writerFaults := by
  unfold World.ack
  split <;> simp [onServer, onStores, Stores.onServer]

@[simp] theorem ack_ledger (ids : List String) (w : World) :
    (w.ack ids).2.stores.ledger = w.stores.ledger := by
  unfold World.ack
  split <;> simp [onServer, onStores, Stores.onServer]

@[simp] theorem ack_backend (ids : List String) (w : World) :
    (w.ack ids).2.stores.backend = w.stores.backend := by
  unfold World.ack
  split <;> simp [onServer, onStores, Stores.onServer]

@[simp] theorem rewind_writerFaults (w : World) : w.rewind.writerFaults = w.writerFaults := by
  unfold World.rewind
  split <;> rfl

@[simp] theorem rewind_stores (w : World) : w.rewind.stores = w.stores := by
  unfold World.rewind
  split <;> rfl

@[simp] theorem key?_rewind (w : World) : w.rewind.source.key? = w.source.key? := by
  unfold World.rewind
  split <;> simp_all [Source.key?, StreamSource.rewind]

theorem ledgerKept_ack (ids : List String) (w : World) : LedgerKept w (w.ack ids).2 := by
  cases source : w.source with
  | memory s =>
      have acked : (w.ack ids).2 = { w with source := .memory (s.ack ids) } := by
        simp [World.ack, source]
      rw [acked]
      exact ⟨rfl, rfl, Beside.of_stores rfl (by simp [Source.key?, source])⟩
  | silent =>
      have acked : (w.ack ids).2 = w := by simp [World.ack, source]
      rw [acked]
      exact LedgerKept.refl w
  | stream src =>
      refine ⟨by simp, by simp, Beside.stream source ?_ rfl ?_ (StreamSource.ack_touches ids src _)⟩
      · simp [World.ack, source, onServer, onStores, Stores.onServer]
      · simp [World.ack, source, onServer, onStores, Stores.onServer]

theorem ledgerKept_rewind (w : World) : LedgerKept w w.rewind :=
  ⟨by simp, by simp, Beside.of_stores (by simp) (key?_rewind w)⟩

/-- Acknowledging nothing changes nothing. -/
theorem ack_nil (w : World) : (w.ack []).2 = w := by
  obtain ⟨stores, ids, values, source⟩ := w
  cases source with
  | memory s => simp [World.ack, MemSource.ack]
  | silent => rfl
  | stream src => simp [World.ack, StreamSource.ack, onServer, onStores, Stores.onServer]

theorem replaying_ack (ids : List String) (w : World) : (w.ack ids).2.replaying = w.replaying := by
  cases source : w.source with
  | memory s => simp [World.ack, replaying, source]
  | silent => simp [World.ack, source]
  | stream src => simp [World.ack, replaying, source, onServer, onStores, Stores.onServer]

/-- After a batch, acknowledging all of it offers the rest of the log, and acknowledging its
first `i` entries then rewinding offers the log from the `i`-th entry of the batch on. -/
theorem Delivered.ack (delivered : w.Delivered xs k m) (i : Nat) (le : i ≤ m) :
    (i = m → (w.ack (((xs.drop k).take i).map (·.ackId))).2.Feeds xs (k + m)) ∧
      (w.ack (((xs.drop k).take i).map (·.ackId))).2.rewind.Feeds xs (k + i) := by
  unfold Delivered at delivered
  cases source : w.source with
  | memory s =>
      rw [source] at delivered
      obtain ⟨delivered, -, whole⟩ := delivered
      have acked := delivered.ack i (by omega)
      have done : (w.ack (((xs.drop k).take i).map (·.ackId))).2 =
          { w with source := .memory (s.ack (((xs.drop k).take i).map (·.ackId))) } := by
        simp [World.ack, source]
      rw [done]
      refine ⟨?_, acked.rewind⟩
      rintro rfl
      exact acked.feeds_of_done whole
  | silent =>
      rw [source] at delivered
      exact delivered.elim
  | stream src =>
      rw [source] at delivered
      obtain ⟨es, rfl, delivered⟩ := delivered
      have ids : (((es.map (StreamSource.delivery w.eventCodec)).drop k).take i).map (·.ackId) =
          ((es.drop k).take i).map (·.id.render) := by
        simp [List.map_drop, List.map_take, Function.comp_def, StreamSource.delivery]
      have done : (w.ack (((es.drop k).take i).map (·.id.render))).2 =
          { w with stores := { w.stores with
            server := (src.ack (((es.drop k).take i).map (·.id.render)) w.stores.server).2 } } := by
        simp [World.ack, source, onServer, onStores, Stores.onServer]
      obtain ⟨whole, front⟩ := delivered.ack i le
      rw [ids, done]
      refine ⟨fun same => ?_, ?_⟩
      · simp only [Feeds, source]
        exact ⟨es, rfl, whole same⟩
      · simp only [Feeds, World.rewind, source]
        exact ⟨es, rfl, front⟩

/-! ## Preparing the source -/

theorem Fresh.setupSource (fresh : w.Fresh xs) :
    w.setupSource.1 = .ok () ∧ w.setupSource.2.Feeds xs 0 ∧ LedgerKept w w.setupSource.2 ∧
      w.setupSource.2.writerFaults = w.writerFaults := by
  unfold Fresh at fresh
  cases source : w.source with
  | memory s =>
      rw [source] at fresh
      have kept : w.setupSource = (.ok (), w) := by simp [World.setupSource, source]
      rw [kept]
      refine ⟨rfl, ?_, LedgerKept.refl w, rfl⟩
      simpa [Feeds, source] using fresh
  | silent =>
      rw [source] at fresh
      have kept : w.setupSource = (.ok (), w) := by simp [World.setupSource, source]
      rw [kept]
      refine ⟨rfl, ?_, LedgerKept.refl w, rfl⟩
      simp [Feeds, source, fresh]
  | stream src =>
      rw [source] at fresh
      obtain ⟨es, rfl, fresh⟩ := fresh
      obtain ⟨ok, feeds⟩ := fresh.setup
      have prepared : w.setupSource = ((src.setup w.stores.server).1,
          { w with stores := { w.stores with server := (src.setup w.stores.server).2 } }) := by
        simp [World.setupSource, source, onServer, onStores, Stores.onServer]
      rw [prepared]
      refine ⟨ok, ?_, ⟨rfl, rfl, Beside.stream source source rfl rfl
        (StreamSource.setup_touches src _)⟩, rfl⟩
      simp only [Feeds, source]
      exact ⟨es, rfl, feeds⟩

/-- One try of preparing either succeeds, with no arranged failure left, or uses one up. -/
theorem Fresh.trySetup (fresh : w.Fresh xs) :
    LedgerKept w w.trySetup.2 ∧
      w.trySetup.2.writerFaults.consumes = w.writerFaults.consumes ∧
      (w.trySetup.1 = .ok () ∧ w.trySetup.2.Feeds xs 0 ∧ w.writerFaults.setups = 0 ∨
        w.trySetup.1.isOk = false ∧ w.trySetup.2.Fresh xs ∧
          w.trySetup.2.writerFaults.setups + 1 = w.writerFaults.setups) := by
  unfold World.trySetup
  by_cases injected : w.writerFaults.setups > 0
  · rw [if_pos injected]
    exact ⟨⟨rfl, rfl, Beside.of_stores rfl rfl⟩, rfl, .inr ⟨rfl, fresh, by simp only; omega⟩⟩
  · rw [if_neg injected]
    obtain ⟨ok, feeds, kept, faults⟩ := fresh.setupSource
    exact ⟨kept, by rw [faults], .inl ⟨ok, feeds, by omega⟩⟩

/-- Preparing with `n + 1` tries keeps the ledger; when it succeeds the source offers the
whole log, and it succeeds when at most `n` failures are arranged. -/
theorem Fresh.setupWithRetries (fresh : w.Fresh xs) (n : Nat) :
    LedgerKept w (w.setupWithRetries (n + 1)).2 ∧
      (w.setupWithRetries (n + 1)).2.writerFaults.consumes = w.writerFaults.consumes ∧
      ((w.setupWithRetries (n + 1)).1 = .ok () → (w.setupWithRetries (n + 1)).2.Feeds xs 0) ∧
      (w.writerFaults.setups ≤ n → (w.setupWithRetries (n + 1)).1 = .ok ()) := by
  induction n generalizing w with
  | zero =>
      have once : w.setupWithRetries (0 + 1) = w.trySetup := rfl
      rw [once]
      obtain ⟨kept, same, ⟨ok, feeds, none⟩ | ⟨failed, -, fewer⟩⟩ := fresh.trySetup
      · exact ⟨kept, same, fun _ => feeds, fun _ => ok⟩
      · refine ⟨kept, same, fun ok => ?_, fun few => ?_⟩
        · rw [ok] at failed
          simp [Except.isOk, Except.toBool] at failed
        · omega
  | succ n ih =>
      obtain ⟨kept, same, ⟨ok, feeds, none⟩ | ⟨failed, fresh', fewer⟩⟩ := fresh.trySetup
      · have done : w.setupWithRetries (n + 2) = (.ok (), w.trySetup.2) := by
          simp only [World.setupWithRetries]
          cases tried : w.trySetup with
          | mk r w' =>
              rw [tried] at ok
              simp only at ok
              subst ok
              rfl
        rw [done]
        exact ⟨kept, same, fun _ => feeds, fun _ => rfl⟩
      · have again : w.setupWithRetries (n + 2) = w.trySetup.2.setupWithRetries (n + 1) := by
          simp only [World.setupWithRetries]
          cases tried : w.trySetup with
          | mk r w' =>
              rw [tried] at failed
              cases r with
              | ok u => simp [Except.isOk, Except.toBool] at failed
              | error f => rfl
        obtain ⟨kept', same', feeds, succeeds⟩ := ih fresh'
        rw [again]
        exact ⟨kept.trans kept', same'.trans same, feeds, fun few => succeeds (by omega)⟩

end World

end Service

end Tallykeeper
