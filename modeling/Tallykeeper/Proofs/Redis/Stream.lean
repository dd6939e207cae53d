import Mathlib
import Tallykeeper.Proofs.Redis.Server

/-!
# Stream ids, reads and acknowledgements

An entry id is rendered as `<milliseconds>-<sequence>`, and decimal digits hold no dash,
so the rendering names one id and reads back to it while both parts fit in 64 bits.

A stream whose ids only grow is cut by any id into the entries at or before it and those
after it. A group whose last delivered id cuts the stream after its first `d` entries
has delivered those `d` and no other: reading new entries hands out the next ones in
order, and replaying hands out again exactly the pending entries, in stream order.
Acknowledging ids drops from the pending list the entries rendered as those ids.
-/

namespace Tallykeeper
namespace Redis

namespace EntryId

@[simp] theorem lt_iff (a b : EntryId) :
    lt a b = true ↔ a.ms < b.ms ∨ (a.ms = b.ms ∧ a.seq < b.seq) := by
  simp [lt]

theorem lt_irrefl (a : EntryId) : lt a a = false := by
  simp [lt]

theorem dash_not_mem_digits (n : Nat) : '-' ∉ Nat.toDigits 10 n := by
  intro member
  have digit := Nat.isDigit_of_mem_toDigits (by decide) (by decide) member
  simp at digit

theorem render_toList (i : EntryId) :
    (render i).toList = Nat.toDigits 10 i.ms ++ '-' :: Nat.toDigits 10 i.seq := by
  simp [render, String.toList_append]

/-- The rendering names one id. -/
theorem render_inj {a b : EntryId} (same : render a = render b) : a = b := by
  have chars := congrArg String.toList same
  rw [render_toList, render_toList] at chars
  obtain ⟨msDigits, seqDigits⟩ :=
    append_cons_inj_of_not_mem (dash_not_mem_digits a.ms) (dash_not_mem_digits b.ms) chars
  have ms : a.ms = b.ms := Nat.repr_inj.mp (congrArg String.ofList msDigits)
  have seq : a.seq = b.seq := Nat.repr_inj.mp (congrArg String.ofList seqDigits)
  cases a
  cases b
  simp only [EntryId.mk.injEq]
  exact ⟨ms, seq⟩

/-- An id whose two parts fit in 64 bits, as the server reads ids. -/
def Readable (i : EntryId) : Prop :=
  i.ms ≤ Numeral.unsignedMax ∧ i.seq ≤ Numeral.unsignedMax

theorem part?_repr {n : Nat} (fits : n ≤ Numeral.unsignedMax) : part? (toString n) = some n := by
  obtain ⟨b, rest, bytes, -, -⟩ := Numeral.digitBytes_head n
  have scanned := Numeral.scanDigits_digitBytes n fits
  have encoded : Text.Utf8.encode (toString n) = Numeral.digitBytes n := Numeral.encode_repr n
  have back : n.toUInt64.toNat = n := by
    unfold Numeral.unsignedMax at fits
    simp [Nat.toUInt64]
    omega
  rw [part?, Numeral.parseUnsigned, Numeral.readUnsigned, encoded, bytes]
  rw [bytes] at scanned
  simp only [List.isEmpty_cons, Bool.false_eq_true, if_false, scanned, back]

/-- A readable id reads back from its rendering. -/
theorem parse?_render {i : EntryId} (readable : i.Readable) : parse? (render i) = some i := by
  have split : (render i).toList.splitOn '-' = [Nat.toDigits 10 i.ms, Nat.toDigits 10 i.seq] := by
    rw [render_toList]
    have parts : (['-'].intercalate [Nat.toDigits 10 i.ms, Nat.toDigits 10 i.seq]).splitOn '-' =
        [Nat.toDigits 10 i.ms, Nat.toDigits 10 i.seq] :=
      List.splitOn_intercalate '-' (by simp [dash_not_mem_digits]) (by simp)
    simpa using parts
  have msText : String.ofList (Nat.toDigits 10 i.ms) = toString i.ms := rfl
  have seqText : "-".intercalate [String.ofList (Nat.toDigits 10 i.seq)] = toString i.seq := rfl
  simp only [parse?, split, List.map_cons, List.map_nil, msText, seqText,
    part?_repr readable.1, part?_repr readable.2]
  rfl

/-- The cursor a replay starts from reads as the id before every entry. -/
theorem parse?_zero : parse? "0" = some zero := by
  have split : ("0".toList.splitOn '-').map String.ofList = ["0"] := by decide
  have digit : part? "0" = some 0 := by decide
  simp only [parse?, split, digit]
  rfl

/-- The position of a read of new entries is no id. -/
theorem parse?_new : parse? ">" = none := by
  have split : (">".toList.splitOn '-').map String.ofList = [">"] := by decide
  have refused : part? ">" = none := by decide
  simp only [parse?, split, refused]
  rfl

end EntryId

/-! ## Entries in id order -/

/-- Entries whose ids strictly grow, all after `0-0` and all readable. -/
structure Orderly (es : List StreamEntry) : Prop where
  ascending : es.Pairwise fun a b => EntryId.lt a.id b.id = true
  positive : ∀ e ∈ es, EntryId.lt EntryId.zero e.id = true
  readable : ∀ e ∈ es, e.id.Readable

theorem Orderly.distinct {es : List StreamEntry} (orderly : Orderly es) :
    (es.map (·.id)).Nodup := by
  rw [List.Nodup, List.pairwise_map]
  apply orderly.ascending.imp
  intro a b earlier same
  rw [same, EntryId.lt_irrefl] at earlier
  exact Bool.false_ne_true earlier

/-- The rendered ids of orderly entries are distinct too. -/
theorem Orderly.distinct_render {es : List StreamEntry} (orderly : Orderly es) :
    (es.map (·.id.render)).Nodup := by
  have ids := orderly.distinct
  rw [List.Nodup, List.pairwise_map] at ids ⊢
  exact ids.imp fun differ same => differ (EntryId.render_inj same)

/-- An id at or after each of the first `d` entries and before each later one: a group
whose last delivered id it is has delivered exactly the first `d` entries. -/
def Splits (x : EntryId) (es : List StreamEntry) (d : Nat) : Prop :=
  (∀ e ∈ es.take d, EntryId.lt x e.id = false) ∧ ∀ e ∈ es.drop d, EntryId.lt x e.id = true

theorem filter_of_splits
    {x : EntryId}
    {es : List StreamEntry}
    {d : Nat}
    (splits : Splits x es d) :
    es.filter (fun e => EntryId.lt x e.id) = es.drop d := by
  have before : (es.take d).filter (fun e => EntryId.lt x e.id) = [] :=
    List.filter_eq_nil_iff.mpr fun e member => by simp [splits.1 e member]
  have after : (es.drop d).filter (fun e => EntryId.lt x e.id) = es.drop d :=
    List.filter_eq_self.mpr fun e member => splits.2 e member
  calc es.filter (fun e => EntryId.lt x e.id)
      = (es.take d ++ es.drop d).filter (fun e => EntryId.lt x e.id) := by
        rw [List.take_append_drop]
    _ = es.drop d := by rw [List.filter_append, before, after, List.nil_append]

theorem splits_zero {es : List StreamEntry} (orderly : Orderly es) : Splits EntryId.zero es 0 :=
  ⟨by simp, fun e member => orderly.positive e (List.mem_of_mem_drop member)⟩

/-- The last of the first `d` entries of an ascending stream cuts it after them. -/
theorem splits_of_getLast
    {es : List StreamEntry}
    {d : Nat}
    {last : StreamEntry}
    (orderly : Orderly es)
    (found : (es.take d).getLast? = some last) :
    Splits last.id es d := by
  have whole := orderly.ascending
  rw [← List.take_append_drop d es, List.pairwise_append] at whole
  obtain ⟨front, -, across⟩ := whole
  have member : last ∈ es.take d := List.mem_of_getLast? found
  obtain ⟨init, split⟩ : ∃ init, es.take d = init ++ [last] := by
    refine ⟨(es.take d).dropLast, ?_⟩
    exact (List.dropLast_append_getLast? last found).symm
  refine ⟨?_, fun e later => across last member e later⟩
  intro e earlier
  rw [split] at earlier front
  rw [List.pairwise_append] at front
  rcases List.mem_append.mp earlier with inInit | isLast
  · have below := front.2.2 e inInit last (List.mem_singleton_self last)
    simp only [EntryId.lt_iff] at below
    simp only [EntryId.lt, Bool.or_eq_false_iff, decide_eq_false_iff_not, Bool.and_eq_false_imp,
      beq_iff_eq]
    omega
  · rw [List.mem_singleton.mp isLast, EntryId.lt_irrefl]

/-- Of distinct ids, a run of entries is exactly the entries whose id it holds. -/
theorem filter_ids_of_distinct
    {es : List StreamEntry}
    (distinct : (es.map (·.id)).Nodup)
    (k j : Nat) :
    es.filter (fun e => (((es.drop k).take j).map (·.id)).contains e.id) = (es.drop k).take j := by
  set run := (es.drop k).take j
  have pieces : es = es.take k ++ run ++ (es.drop k).drop j := by
    rw [List.append_assoc, List.take_append_drop, List.take_append_drop]
  have apart := distinct
  rw [pieces, List.map_append, List.map_append, List.nodup_append, List.nodup_append] at apart
  obtain ⟨⟨-, -, frontRun⟩, -, toBack⟩ := apart
  have front : (es.take k).filter (fun e => (run.map (·.id)).contains e.id) = [] := by
    apply List.filter_eq_nil_iff.mpr
    intro e member held
    have inRun : e.id ∈ run.map (·.id) := by simpa using held
    exact frontRun e.id (List.mem_map_of_mem member) e.id inRun rfl
  have middle : run.filter (fun e => (run.map (·.id)).contains e.id) = run :=
    List.filter_eq_self.mpr fun e member => by simpa using List.mem_map_of_mem member
  have back : ((es.drop k).drop j).filter (fun e => (run.map (·.id)).contains e.id) = [] := by
    apply List.filter_eq_nil_iff.mpr
    intro e member held
    have inRun : e.id ∈ run.map (·.id) := by simpa using held
    exact toBack e.id (List.mem_append_right _ inRun) e.id (List.mem_map_of_mem member) rfl
  rw [pieces, List.filter_append, List.filter_append, front, middle, back]
  simp

/-- Of items with distinct keys, dropping those whose key is among the first `i` keys leaves
the items after the first `i`. -/
theorem filter_not_mem_take
    {α β : Type}
    [BEq β]
    [LawfulBEq β]
    (key : α → β)
    {l : List α}
    (distinct : (l.map key).Nodup)
    (i : Nat) :
    l.filter (fun a => !((l.take i).map key).contains (key a)) = l.drop i := by
  have apart := distinct
  rw [← List.take_append_drop i l, List.map_append, List.nodup_append] at apart
  obtain ⟨-, -, across⟩ := apart
  have front : (l.take i).filter (fun a => !((l.take i).map key).contains (key a)) = [] := by
    apply List.filter_eq_nil_iff.mpr
    intro a member
    simpa using List.mem_map_of_mem (f := key) member
  have back : (l.drop i).filter (fun a => !((l.take i).map key).contains (key a)) = l.drop i := by
    apply List.filter_eq_self.mpr
    intro a member
    have fresh : key a ∉ (l.take i).map key := fun acked =>
      across _ acked _ (List.mem_map_of_mem member) rfl
    simpa using fresh
  calc l.filter (fun a => !((l.take i).map key).contains (key a))
      = (l.take i ++ l.drop i).filter (fun a => !((l.take i).map key).contains (key a)) := by
        rw [List.take_append_drop]
    _ = l.drop i := by rw [List.filter_append, front, back, List.nil_append]

/-- Dropping from the pending entries of a run those whose rendered id is among the first
`i` of the run leaves the pending entries of the rest. -/
theorem filter_acknowledged
    {run : List StreamEntry}
    (distinct : (run.map (·.id.render)).Nodup)
    (consumer : String)
    (i : Nat) :
    (run.map fun e => ({ id := e.id, consumer } : PendingEntry)).filter
        (fun p => !((run.take i).map (·.id.render)).contains p.id.render) =
      (run.drop i).map fun e => ({ id := e.id, consumer } : PendingEntry) := by
  rw [List.filter_map]
  congr 1
  exact filter_not_mem_take (fun e : StreamEntry => e.id.render) distinct i

/-! ## Groups -/

namespace Stream

variable {st : Stream} {g : Group}

@[simp] theorem entries_putGroup (h : Group) : (st.putGroup h).entries = st.entries := rfl

theorem group?_putGroup
    {name : String}
    (found : st.group? name = some g)
    (h : Group)
    (renamed : h.name = g.name) :
    (st.putGroup h).group? name = some h := by
  have named : g.name = name := by
    simpa using List.find?_some found
  obtain ⟨before, after, split, missed⟩ :
      ∃ before after, st.groups = before ++ g :: after ∧ ∀ o ∈ before, o.name ≠ name := by
    obtain ⟨-, before, after, split, missed⟩ := List.find?_eq_some_iff_append.mp found
    exact ⟨before, after, split, fun o member => by simpa using missed o member⟩
  have skipped : (before.map fun o => if o.name == h.name then h else o).find?
      (·.name == name) = none := by
    apply List.find?_eq_none.mpr
    intro o member
    obtain ⟨o', member', rfl⟩ := List.mem_map.mp member
    have differs : o'.name ≠ h.name := by
      rw [renamed, named]
      exact missed o' member'
    simpa [differs] using missed o' member'
  unfold group? putGroup
  rw [split, List.map_append, List.map_cons, List.find?_append, skipped]
  simp [renamed, named]

/-- Reads at most `count` items as a prefix of them. -/
theorem upTo_eq_take {α : Type} (count : Nat) (xs : List α) :
    upTo count xs = xs.take (if count = 0 then xs.length else count) := by
  unfold upTo
  split <;> simp

/-- Reading new entries hands out the next entries after those delivered. -/
theorem deliverNew_eq
    {d : Nat}
    (splits : Splits g.lastDelivered st.entries d)
    (consumer : String)
    (count : Nat) :
    st.deliverNew g consumer count =
      match (upTo count (st.entries.drop d)).getLast? with
      | none => ([], g)
      | some last =>
        (upTo count (st.entries.drop d),
          { g with
            lastDelivered := last.id
            pending := g.pending.filter (fun p =>
                !((upTo count (st.entries.drop d)).map (·.id)).contains p.id) ++
              (upTo count (st.entries.drop d)).map fun e => { id := e.id, consumer } }) := by
  cases final : (upTo count (st.entries.drop d)).getLast? with
  | none => simp only [deliverNew, filter_of_splits splits, final]
  | some last => simp only [deliverNew, filter_of_splits splits, final]

end Stream

/-- Acknowledging readable ids drops the pending entries rendered as one of them. -/
theorem Group.acknowledgeAll_of_readable
    (g : Group)
    (ids : List String)
    (reads : ∀ id ∈ ids, (EntryId.parse? id).isSome) :
    (g.acknowledgeAll ids).1.isSome ∧
      (g.acknowledgeAll ids).2 =
        { g with pending := g.pending.filter fun p => !ids.contains p.id.render } := by
  induction ids generalizing g with
  | nil => simp [Group.acknowledgeAll]
  | cons id rest ih =>
      obtain ⟨parsed, readsParsed⟩ : ∃ x, EntryId.parse? id = some x := by
        simpa [Option.isSome_iff_exists] using reads id List.mem_cons_self
      have dropped : (g.acknowledge id).2 =
          { g with pending := g.pending.filter fun p => p.id.render != id } := by
        unfold Group.acknowledge
        split
        · rfl
        · rename_i none
          have kept : g.pending.filter (fun p => p.id.render != id) = g.pending := by
            apply List.filter_eq_self.mpr
            intro p member
            simpa using fun same => none (List.any_eq_true.mpr ⟨p, member, by simp [same]⟩)
          rw [kept]
      unfold Group.acknowledgeAll
      rw [readsParsed]
      dsimp only
      cases acknowledged : g.acknowledge id with
      | mk hit g1 =>
          rw [acknowledged] at dropped
          simp only at dropped
          subst dropped
          obtain ⟨counted, after⟩ := ih _ fun id' member => reads id' (List.mem_cons_of_mem _ member)
          refine ⟨by simpa using counted, ?_⟩
          rw [after, List.filter_filter]
          congr 2
          funext p
          simp only [List.contains_cons, Bool.not_or, Bool.and_comm]
          congr 1

/-! ## Stream commands on a healthy server -/

namespace Server

variable {s : Server} {key group consumer : String} {st : Stream} {g : Group}

theorem streamAt?_of_found (found : s.find? key = some (.stream st)) :
    s.streamAt? key = .ok (some st) := by
  simp [streamAt?, found]

/-- A read of new entries hands out what the group delivers next and records it, or
answers none and changes nothing. -/
theorem xreadgroup_new
    (healthy : s.ready = .ok ())
    (found : s.find? key = some (.stream st))
    (grouped : st.group? group = some g)
    (count : Nat) :
    s.xreadgroup key group consumer ">" count =
      if (st.deliverNew g consumer count).1.isEmpty then (.ok none, s)
      else (.ok (some (st.deliverNew g consumer count).1),
        s.store key (.stream (st.putGroup (st.deliverNew g consumer count).2))) := by
  by_cases empty : (st.deliverNew g consumer count).1.isEmpty
  · rw [if_pos empty]
    apply command_of_ok healthy
    simp [streamAt?_of_found found, grouped, empty, bind, Except.bind, pure, Except.pure]
  · rw [if_neg empty]
    apply command_of_ok healthy
    simp [streamAt?_of_found found, grouped, empty, bind, Except.bind, pure, Except.pure]

/-- A replaying read hands out the consumer's pending entries after an id and changes
nothing. -/
theorem xreadgroup_pending
    (healthy : s.ready = .ok ())
    (found : s.find? key = some (.stream st))
    (grouped : st.group? group = some g)
    {position : String}
    {after : EntryId}
    (parsed : EntryId.parse? position = some after)
    (count : Nat) :
    s.xreadgroup key group consumer position count =
      (.ok (some (st.deliverPending g consumer after count)), s) := by
  have notNew : (position == ">") = false := by
    have differs : position ≠ ">" := by
      rintro rfl
      rw [EntryId.parse?_new] at parsed
      cases parsed
    simpa using differs
  apply command_of_ok healthy
  simp [streamAt?_of_found found, grouped, notNew, parsed, bind, Except.bind, pure, Except.pure]

/-- Acknowledging readable ids drops their pending entries from the group. -/
theorem xack_of_readable
    (healthy : s.ready = .ok ())
    (found : s.find? key = some (.stream st))
    (grouped : st.group? group = some g)
    {ids : List String}
    (reads : ∀ id ∈ ids, (EntryId.parse? id).isSome) :
    ∃ n, s.xack key group ids =
      (.ok n, s.store key (.stream (st.putGroup
        { g with pending := g.pending.filter fun p => !ids.contains p.id.render }))) := by
  obtain ⟨counted, after⟩ := Group.acknowledgeAll_of_readable g ids reads
  obtain ⟨n, some⟩ := Option.isSome_iff_exists.mp counted
  refine ⟨n, ?_⟩
  unfold xack
  rw [healthy, streamAt?_of_found found]
  simp only [grouped]
  rw [some, after]

/-- Creating a group on an absent key creates the stream with the group. -/
theorem xgroupCreate_of_absent (healthy : s.ready = .ok ()) (absent : s.find? key = none) :
    s.xgroupCreate key group =
      (.ok (), s.store key (.stream { groups := [{ name := group }] })) := by
  apply command_of_ok healthy
  simp [streamAt?, absent, Stream.group?, bind, Except.bind, pure, Except.pure]

/-- Creating a group a stream lacks adds it. -/
theorem xgroupCreate_of_fresh
    (healthy : s.ready = .ok ())
    (found : s.find? key = some (.stream st))
    (fresh : st.group? group = none) :
    s.xgroupCreate key group =
      (.ok (), s.store key (.stream { st with groups := st.groups ++ [{ name := group }] })) := by
  apply command_of_ok healthy
  simp [streamAt?_of_found found, fresh, bind, Except.bind, pure, Except.pure]

/-- Creating a group a stream has already is refused as busy. -/
theorem xgroupCreate_of_existing
    (healthy : s.ready = .ok ())
    (found : s.find? key = some (.stream st))
    (grouped : st.group? group = some g) :
    s.xgroupCreate key group = (.error busyGroup, s) := by
  apply command_of_error healthy
  simp [streamAt?_of_found found, grouped, bind, Except.bind, throw, throwThe, MonadExceptOf.throw]

end Server

end Redis
end Tallykeeper
