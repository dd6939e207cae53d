import Mathlib
import Tallykeeper.Change.Source

/-!
# Acknowledging entries of a memory change source

A consumer drives a change source with publications, consumptions, acknowledgements and
rewinds. The memory source drops an acknowledged entry only while the entry stands delivered,
that is when a consumption handed it out since the consumer's last rewind, and a rewind makes
every entry undelivered again. An acknowledgement that follows a rewind, before the entry is
handed out again, therefore keeps the entry, and the next consumption returns it.

A run of operations shows the consumer a history (`Shown`): the ids of appended entries, the
ids each consumption hands out, the acknowledged ids and the rewinds. Along every run the
source numbers its entries apart and flags an entry delivered exactly when the history handed
it out since the last rewind (`Tracks`). For an entry the source holds, an acknowledgement
naming it keeps it from coming back exactly when it was handed out since the last rewind;
otherwise the next consumption returns it (`returned_after_ack_iff`).
-/

namespace Tallykeeper
namespace Change

/-- An operation of one consumer on a change source. -/
inductive SourceOp
  | propagate (e : Event)
  | consume
  | ack (ids : List String)
  | rewind
  deriving DecidableEq, Repr

/-- What an operation shows the consumer: an appended entry's id, the ids a consumption hands
out (none when it fails), the ids it acknowledges, or a rewind. -/
inductive Shown
  | appended (id : String)
  | handed (ids : List String)
  | acked (ids : List String)
  | rewound
  deriving DecidableEq, Repr

/-- The ids a step of a history hands out. -/
def Shown.handedIds : Shown → List String
  | .handed ids => ids
  | _ => []

/-- The ids a history hands out. -/
def handedIn (h : List Shown) : List String :=
  h.flatMap Shown.handedIds

/-- The ids a history hands out since its last rewind. -/
def sinceRewind (h : List Shown) : List String :=
  h.foldl (fun acc x => if x = .rewound then [] else acc ++ x.handedIds) []

theorem sinceRewind_concat (h : List Shown) (x : Shown) :
    sinceRewind (h ++ [x]) = if x = .rewound then [] else sinceRewind h ++ x.handedIds := by
  simp only [sinceRewind, List.foldl_append, List.foldl_cons, List.foldl_nil]

namespace MemSource

variable {codec : EventCodec} {s : MemSource} {h : List Shown}

/-- One operation, and what it shows. -/
def perform (codec : EventCodec) (s : MemSource) : SourceOp → Shown × MemSource
  | .propagate e => (.appended (s.propagate codec e).1, (s.propagate codec e).2)
  | .consume =>
    (.handed (((s.consume codec).1.toOption.getD []).map (·.ackId)), (s.consume codec).2)
  | .ack ids => (.acked ids, s.ack ids)
  | .rewind => (.rewound, s.rewind)

/-- Runs operations from a history and a source, extending the history. -/
def replay (codec : EventCodec) (ops : List SourceOp) (start : List Shown × MemSource) :
    List Shown × MemSource :=
  ops.foldl (fun acc op => (acc.1 ++ [(acc.2.perform codec op).1], (acc.2.perform codec op).2))
    start

theorem replay_cons (op : SourceOp) (ops : List SourceOp) (h : List Shown) (s : MemSource) :
    replay codec (op :: ops) (h, s) =
      replay codec ops (h ++ [(s.perform codec op).1], (s.perform codec op).2) := rfl

/-- A run from a source shows the same steps whatever history it extends. -/
theorem replay_shift (ops : List SourceOp) (h : List Shown) (s : MemSource) :
    replay codec ops (h, s) =
      (h ++ (replay codec ops ([], s)).1, (replay codec ops ([], s)).2) := by
  induction ops generalizing h s with
  | nil => simp [replay]
  | cons op rest ih =>
      rw [replay_cons, replay_cons, ih, ih (h := [] ++ _)]
      simp

/-! ## Consuming -/

/-- With every entry delivered, a consumption fails and changes nothing. -/
theorem consume_of_delivered (sent : ∀ en ∈ s.entries, en.delivered = true) :
    s.consume codec = (.error (.bare .emptySource), s) := by
  have none : (s.entries.filter (!·.delivered)).isEmpty = true := by
    simpa using sent
  simp [consume, none]

/-- With an entry undelivered, a consumption hands out the undelivered entries in order and
marks every entry delivered. -/
theorem consume_of_waiting {en : Entry} (member : en ∈ s.entries) (waiting : en.delivered = false) :
    s.consume codec =
      (.ok ((s.entries.filter (!·.delivered)).map fun en =>
          { ackId := en.id, event := codec.decode en.fields }),
        { s with entries := s.entries.map fun en => { en with delivered := true } }) := by
  have some : (s.entries.filter (!·.delivered)).isEmpty = false := by
    rw [List.isEmpty_eq_false_iff_exists_mem]
    exact ⟨en, List.mem_filter.mpr ⟨member, by simp [waiting]⟩⟩
  simp [consume, some]

/-- A consumption either finds every entry delivered, fails and changes nothing, or hands out
the undelivered entries and marks every entry delivered. -/
theorem consume_cases (codec : EventCodec) (s : MemSource) :
    ((∀ en ∈ s.entries, en.delivered = true) ∧
        s.consume codec = (.error (.bare .emptySource), s)) ∨
      ((∃ en ∈ s.entries, en.delivered = false) ∧
        s.consume codec =
          (.ok ((s.entries.filter (!·.delivered)).map fun en =>
              { ackId := en.id, event := codec.decode en.fields }),
            { s with entries := s.entries.map fun en => { en with delivered := true } })) := by
  by_cases sent : ∀ en ∈ s.entries, en.delivered = true
  · exact .inl ⟨sent, consume_of_delivered sent⟩
  · push Not at sent
    obtain ⟨en, member, waiting⟩ := sent
    have undelivered : en.delivered = false := by simpa using waiting
    exact .inr ⟨⟨en, member, undelivered⟩, consume_of_waiting member undelivered⟩

/-! ## What the source keeps along a run -/

/-- The source numbers its entries apart, below its last number, and flags an entry delivered
exactly when it is among the ids handed out since the last rewind, which carry numbers below
the last too. -/
structure Tracks (since : List String) (s : MemSource) : Prop where
  numbered : ∀ en ∈ s.entries, ∃ n < s.lastId, en.id = toString (n + 1)
  distinct : (s.entries.map (·.id)).Nodup
  handed : ∀ a ∈ since, ∃ n < s.lastId, a = toString (n + 1)
  delivered : ∀ en ∈ s.entries, en.delivered = true ↔ en.id ∈ since

theorem toString_succ_inj {m n : Nat} (same : toString (m + 1) = toString (n + 1)) : m = n := by
  have numbers : m + 1 = n + 1 := Nat.repr_inj.mp same
  omega

/-- The next number is none of those handed out before. -/
theorem fresh_of_below {a : String} {last : Nat} (below : ∃ n < last, a = toString (n + 1)) :
    a ≠ toString (last + 1) := by
  obtain ⟨n, lower, rfl⟩ := below
  intro same
  have := toString_succ_inj same
  omega

theorem tracks_empty : Tracks [] {} where
  numbered := by simp
  distinct := List.nodup_nil
  handed := by simp
  delivered := by simp

variable {since : List String}

theorem Tracks.propagate (tracks : Tracks since s) (e : Event) :
    Tracks since (s.propagate codec e).2 := by
  have lower : ∀ a, (∃ n < s.lastId, a = toString (n + 1)) →
      ∃ n < s.lastId + 1, a = toString (n + 1) := by
    rintro a ⟨n, below, named⟩
    exact ⟨n, by omega, named⟩
  dsimp only [MemSource.propagate]
  constructor
  · intro en member
    rcases List.mem_append.mp member with old | new
    · exact lower _ (tracks.numbered en old)
    · rw [List.mem_singleton.mp new]
      exact ⟨s.lastId, Nat.lt_succ_self _, rfl⟩
  · rw [List.map_append, List.nodup_append]
    refine ⟨tracks.distinct, by simp, ?_⟩
    intro a old b new
    simp only [List.map_cons, List.map_nil, List.mem_singleton] at new
    subst new
    obtain ⟨en, member, rfl⟩ := List.mem_map.mp old
    exact fresh_of_below (tracks.numbered en member)
  · exact fun a handed => lower a (tracks.handed a handed)
  · intro en member
    rcases List.mem_append.mp member with old | new
    · exact tracks.delivered en old
    · rw [List.mem_singleton.mp new]
      -- the new number was never handed out
      simpa using fun handed => fresh_of_below (tracks.handed _ handed) rfl

/-- The ids a consumption hands out. -/
def handedOut (codec : EventCodec) (s : MemSource) : List String :=
  ((s.consume codec).1.toOption.getD []).map (·.ackId)

theorem Tracks.consume (tracks : Tracks since s) :
    Tracks (since ++ handedOut codec s) (s.consume codec).2 := by
  rcases consume_cases codec s with ⟨_, failed⟩ | ⟨_, handed⟩
  · simpa [handedOut, failed, Except.toOption] using tracks
  · have fresh : handedOut codec s = (s.entries.filter (!·.delivered)).map (·.id) := by
      simp [handedOut, handed, Except.toOption]
    rw [fresh, handed]
    constructor
    · intro en' member'
      obtain ⟨o, inEntries, rfl⟩ := List.mem_map.mp member'
      exact tracks.numbered o inEntries
    · simpa [List.map_map, Function.comp_def] using tracks.distinct
    · intro a handed
      rcases List.mem_append.mp handed with before | now
      · exact tracks.handed a before
      · obtain ⟨o, inFresh, rfl⟩ := List.mem_map.mp now
        exact tracks.numbered o (List.mem_filter.mp inFresh).1
    · intro en' member'
      obtain ⟨o, inEntries, rfl⟩ := List.mem_map.mp member'
      simp only [true_iff]
      -- an entry delivered before was handed out before; the others are handed out now
      cases sentBefore : o.delivered
      · exact List.mem_append_right _
          (List.mem_map.mpr ⟨o, List.mem_filter.mpr ⟨inEntries, by simp [sentBefore]⟩, rfl⟩)
      · exact List.mem_append_left _ ((tracks.delivered o inEntries).mp sentBefore)

theorem Tracks.ack (tracks : Tracks since s) (ids : List String) : Tracks since (s.ack ids) := by
  have sub : ∀ en ∈ (s.ack ids).entries, en ∈ s.entries := fun en member =>
    (List.mem_filter.mp member).1
  exact
    { numbered := fun en member => tracks.numbered en (sub en member)
      distinct := (List.Sublist.map _ List.filter_sublist).nodup tracks.distinct
      handed := tracks.handed
      delivered := fun en member => tracks.delivered en (sub en member) }

theorem Tracks.rewind (tracks : Tracks since s) : Tracks [] s.rewind := by
  constructor
  · intro en member
    obtain ⟨o, inEntries, rfl⟩ := List.mem_map.mp member
    exact tracks.numbered o inEntries
  · simpa [MemSource.rewind, List.map_map, Function.comp_def] using tracks.distinct
  · simp
  · intro en member
    obtain ⟨o, _, rfl⟩ := List.mem_map.mp member
    simp

/-- One operation keeps the source tracking its history. -/
theorem Tracks.perform (tracks : Tracks (sinceRewind h) s) :
    ∀ op : SourceOp, Tracks (sinceRewind (h ++ [(s.perform codec op).1])) (s.perform codec op).2
  | .propagate e => by
      simpa [MemSource.perform, sinceRewind_concat, Shown.handedIds] using tracks.propagate e
  | .consume => by
      simpa [MemSource.perform, sinceRewind_concat, Shown.handedIds, handedOut] using tracks.consume
  | .ack ids => by
      simpa [MemSource.perform, sinceRewind_concat, Shown.handedIds] using tracks.ack ids
  | .rewind => by
      simpa [MemSource.perform, sinceRewind_concat] using tracks.rewind

/-- A run keeps the source tracking its history. -/
theorem Tracks.replay :
    ∀ (ops : List SourceOp) {h : List Shown} {s : MemSource}, Tracks (sinceRewind h) s →
      Tracks (sinceRewind (replay codec ops (h, s)).1) (replay codec ops (h, s)).2
  | [], _, _, tracks => tracks
  | op :: rest, _, _, tracks => Tracks.replay rest (tracks.perform op)

/-! ## Acknowledging -/

/-- An acknowledgement drops a delivered entry it names, and no other entry carries its id. -/
theorem ack_drops
    {ids : List String}
    {en : Entry}
    (distinct : (s.entries.map (·.id)).Nodup)
    (member : en ∈ s.entries)
    (named : en.id ∈ ids)
    (sent : en.delivered = true) :
    en.id ∉ (s.ack ids).entries.map (·.id) := by
  intro kept
  obtain ⟨o, inAcked, same⟩ := List.mem_map.mp kept
  obtain ⟨inEntries, survives⟩ := List.mem_filter.mp inAcked
  have itself : o = en := List.inj_on_of_nodup_map distinct inEntries member same
  subst itself
  simp [named, sent] at survives

/-- An acknowledgement keeps every undelivered entry. -/
theorem ack_keeps {ids : List String} {en : Entry} (member : en ∈ s.entries)
    (waiting : en.delivered = false) : en ∈ (s.ack ids).entries :=
  List.mem_filter.mpr ⟨member, by simp [waiting]⟩

/-- A consumption hands out only ids the source holds. -/
theorem handedOut_held {a : String} (handed : a ∈ handedOut codec s) :
    a ∈ s.entries.map (·.id) := by
  rcases consume_cases codec s with ⟨_, failed⟩ | ⟨_, handedAll⟩
  · simp [handedOut, failed, Except.toOption] at handed
  · simp only [handedOut, handedAll, Except.toOption, Option.getD_some, List.map_map] at handed
    obtain ⟨o, inFresh, rfl⟩ := List.mem_map.mp handed
    exact List.mem_map.mpr ⟨o, (List.mem_filter.mp inFresh).1, rfl⟩

/-- A consumption keeps the ids the source holds and its last number. -/
theorem consume_keeps :
    (s.consume codec).2.entries.map (·.id) = s.entries.map (·.id) ∧
      (s.consume codec).2.lastId = s.lastId := by
  rcases consume_cases codec s with ⟨_, failed⟩ | ⟨_, handed⟩
  · simp [failed]
  · simp [handed, List.map_map, Function.comp_def]

/-! ## Dropped entries stay away, waiting entries come back -/

variable {a : String}

/-- An id the source no longer holds, of a number it handed out before. -/
structure Gone (a : String) (s : MemSource) : Prop where
  absent : a ∉ s.entries.map (·.id)
  numbered : ∃ n < s.lastId, a = toString (n + 1)

/-- No operation hands out a dropped id or brings it back. -/
theorem Gone.perform (gone : Gone a s) :
    ∀ op : SourceOp, a ∉ (s.perform codec op).1.handedIds ∧ Gone a (s.perform codec op).2
  | .propagate e => by
      refine ⟨by simp [MemSource.perform, Shown.handedIds], ?_, ?_⟩
      · -- the new entry takes the next number
        intro kept
        simp only [MemSource.perform, MemSource.propagate, List.map_append, List.mem_append,
          List.map_cons, List.map_nil, List.mem_singleton] at kept
        rcases kept with old | new
        · exact gone.absent old
        · exact fresh_of_below gone.numbered new
      · obtain ⟨n, below, named⟩ := gone.numbered
        exact ⟨n, by simp [MemSource.perform, MemSource.propagate]; omega, named⟩
  | .consume => by
      refine ⟨fun handed => gone.absent (handedOut_held handed), ?_, ?_⟩
      · simpa [MemSource.perform, consume_keeps.1] using gone.absent
      · simpa [MemSource.perform, consume_keeps.2] using gone.numbered
  | .ack ids => by
      refine ⟨by simp [MemSource.perform, Shown.handedIds], ?_, gone.numbered⟩
      intro kept
      obtain ⟨o, inAcked, same⟩ := List.mem_map.mp kept
      exact gone.absent (List.mem_map.mpr ⟨o, (List.mem_filter.mp inAcked).1, same⟩)
  | .rewind => by
      refine ⟨by simp [MemSource.perform, Shown.handedIds], ?_, gone.numbered⟩
      simpa [MemSource.perform, MemSource.rewind, List.map_map, Function.comp_def] using
        gone.absent

/-- A dropped id is never handed out again. -/
theorem Gone.replay :
    ∀ (ops : List SourceOp) {s : MemSource}, Gone a s →
      a ∉ handedIn (replay codec ops ([], s)).1
  | [], _, _ => by simp [MemSource.replay, handedIn]
  | op :: rest, s, gone => by
      have step : a ∉ (s.perform codec op).1.handedIds ∧ Gone a (s.perform codec op).2 :=
        gone.perform op
      obtain ⟨now, after⟩ := step
      rw [replay_cons, replay_shift]
      simp only [handedIn, List.nil_append, List.flatMap_append, List.flatMap_cons,
        List.flatMap_nil, List.append_nil, List.mem_append, not_or]
      exact ⟨now, Gone.replay rest after⟩

/-- An entry the source holds and has not delivered. -/
def Waiting (a : String) (s : MemSource) : Prop :=
  ∃ en ∈ s.entries, en.id = a ∧ en.delivered = false

/-- A consumption hands out every waiting entry. -/
theorem Waiting.consume (waiting : Waiting a s) : a ∈ handedOut codec s := by
  obtain ⟨en, member, rfl, undelivered⟩ := waiting
  simp only [handedOut, consume_of_waiting member undelivered, Except.toOption,
    Option.getD_some, List.map_map]
  exact List.mem_map.mpr ⟨en, List.mem_filter.mpr ⟨member, by simp [undelivered]⟩, rfl⟩

/-- Until a consumption, a waiting entry keeps waiting. -/
theorem Waiting.perform (waiting : Waiting a s) :
    ∀ op : SourceOp, op ≠ .consume → Waiting a (s.perform codec op).2
  | .propagate e, _ => by
      obtain ⟨en, member, named, undelivered⟩ := waiting
      exact ⟨en, List.mem_append_left _ member, named, undelivered⟩
  | .consume, other => absurd rfl other
  | .ack ids, _ => by
      obtain ⟨en, member, named, undelivered⟩ := waiting
      exact ⟨en, ack_keeps member undelivered, named, undelivered⟩
  | .rewind, _ => by
      obtain ⟨en, member, named, _⟩ := waiting
      exact ⟨{ en with delivered := false }, List.mem_map.mpr ⟨en, member, rfl⟩, named, rfl⟩

/-- A waiting entry is handed out by the first consumption of a run. -/
theorem Waiting.replay :
    ∀ (ops : List SourceOp) {s : MemSource}, Waiting a s → SourceOp.consume ∈ ops →
      a ∈ handedIn (replay codec ops ([], s)).1
  | [], _, _, later => absurd later List.not_mem_nil
  | op :: rest, s, waiting, later => by
      rw [replay_cons, replay_shift]
      simp only [handedIn, List.nil_append, List.flatMap_append, List.flatMap_cons,
        List.flatMap_nil, List.append_nil, List.mem_append]
      by_cases consuming : op = .consume
      · subst consuming
        exact .inl waiting.consume
      · have rests : SourceOp.consume ∈ rest := by
          rcases List.mem_cons.mp later with first | rests
          · exact absurd first.symm consuming
          · exact rests
        exact .inr (Waiting.replay rest (waiting.perform op consuming) rests)

/-- For an entry the source holds after a run, an acknowledgement naming it keeps it from
being handed out again exactly when a consumption handed it out since the last rewind;
otherwise the next consumption hands it out again. -/
theorem returned_after_ack_iff
    (codec : EventCodec)
    (pre rest : List SourceOp)
    {ids : List String}
    (named : a ∈ ids)
    (held : a ∈ (replay codec pre ([], {})).2.entries.map (·.id))
    (later : SourceOp.consume ∈ rest) :
    a ∈ handedIn (replay codec (.ack ids :: rest) ([], (replay codec pre ([], {})).2)).1 ↔
      a ∉ sinceRewind (replay codec pre ([], {})).1 := by
  have tracks : Tracks (sinceRewind (replay codec pre ([], {})).1) (replay codec pre ([], {})).2 :=
    Tracks.replay pre tracks_empty
  obtain ⟨en, member, rfl⟩ := List.mem_map.mp held
  -- the acknowledgement itself hands out nothing
  have acked : handedIn (replay codec (.ack ids :: rest) ([], (replay codec pre ([], {})).2)).1 =
      handedIn (replay codec rest ([], (replay codec pre ([], {})).2.ack ids)).1 := by
    rw [replay_cons, replay_shift]
    simp [handedIn, MemSource.perform, Shown.handedIds]
  rw [acked]
  constructor
  · intro returned handedSince
    -- handed out since the last rewind, the entry stands delivered, so the acknowledgement
    -- drops it for good
    have sent := (tracks.delivered en member).mpr handedSince
    have gone : Gone en.id ((replay codec pre ([], {})).2.ack ids) :=
      ⟨ack_drops tracks.distinct member named sent, tracks.numbered en member⟩
    exact gone.replay rest returned
  · intro unhanded
    have undelivered : en.delivered = false := by
      simpa using mt (tracks.delivered en member).mp unhanded
    exact Waiting.replay rest ⟨en, ack_keeps member undelivered, rfl, undelivered⟩ later

/-- An entry handed out, then a rewind: an acknowledgement of the entry keeps it, and the next
consumption hands it out again. -/
theorem returned_after_ack_iff_rewound :
    let pre : List SourceOp :=
      [.propagate { counterId := 2, userId := 1, value := 3 }, .consume, .rewind]
    "1" ∈ ["1"] ∧ "1" ∈ (replay EventCodec.integers pre ([], {})).2.entries.map (·.id) ∧
      SourceOp.consume ∈ [SourceOp.consume] ∧
      ("1" ∈ handedIn (replay EventCodec.integers [.ack ["1"], .consume]
          ([], (replay EventCodec.integers pre ([], {})).2)).1 ↔
        "1" ∉ sinceRewind (replay EventCodec.integers pre ([], {})).1) := by
  intro pre
  have named : "1" ∈ ["1"] := List.mem_singleton_self _
  have held : "1" ∈ (replay EventCodec.integers pre ([], {})).2.entries.map (·.id) := by decide
  have later : SourceOp.consume ∈ [SourceOp.consume] := List.mem_singleton_self _
  exact ⟨named, held, later, returned_after_ack_iff EventCodec.integers pre [.consume] named held later⟩

/-- The same run shown whole: entry `1` is acknowledged after the rewind, and the next
consumption hands it out again. -/
theorem acked_entry_returned_after_rewind :
    (replay EventCodec.integers
        [.propagate { counterId := 2, userId := 1, value := 3 }, .consume, .rewind, .ack ["1"],
          .consume] ([], {})).1 =
      [.appended "1", .handed ["1"], .rewound, .acked ["1"], .handed ["1"]] := by
  decide

end MemSource

end Change
end Tallykeeper
