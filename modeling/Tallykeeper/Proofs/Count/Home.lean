import Mathlib
import Tallykeeper.Service.World
import Tallykeeper.Proofs.Redis.Server
import Tallykeeper.Proofs.Value.RoundTrip
import Tallykeeper.Proofs.Count.Overflow

/-!
# Counts in their home

The service keeps its counts in memory or on the server, as bytes of a value codec. Either
way the count store is described by what each key holds: `holds s key v?` says that the
key reads as `v?`. While the server answers, reading, incrementing and setting a count act
on that description alone. A read answers the held value or `key not found`; an increment
adds to the held value, zero for none, unless the sum leaves the 64-bit range, and then it
changes nothing; a write makes the key hold the written value. Other keys keep what they
held, and the stores beside the counts stay as they were.
-/

namespace Tallykeeper

@[simp] theorem MemCounts.find?_put
    (m : MemCounts)
    (key k : String)
    (v : Int64) :
    (m.put key v).find? k = if k = key then some v else m.find? k :=
  lookup_put m.values key k v

theorem MemCounts.find?_erase (m : MemCounts) (key k : String) :
    (m.erase key).find? k = if k = key then none else m.find? k :=
  lookup_erase m.values key k

theorem serverKey_inj {a b : String} (same : serverKey a = serverKey b) : a = b := by
  simpa [serverKey] using same

namespace ServerCounts

variable {c : ValueCodec} {srv : Redis.Server} {key : String} {v? : Option Int64}

/-- The codec a server increments natively writes decimal text. -/
theorem encode_of_native (native : c.native = true) (v : Int64) :
    c.encode v = Text.Utf8.encode (Numeral.decimal v) := by
  have decimal : c.code ≠ 1 := by
    simp only [ValueCodec.native, decide_eq_true_eq] at native
    simp [native]
  simp [ValueCodec.encode, decimal]

/-- The server's reply to an increment past the range mentions an overflow. -/
theorem mentions_wouldOverflow :
    ∃ t, Redis.wouldOverflow = .reply t ∧ Text.mentions t "overflow" = true :=
  ⟨_, rfl, by decide⟩

/-- Under the native codec an increment is the server's own; its refusal of a sum out of
range is read as an overflow of the count. -/
theorem incr_of_native
    (healthy : srv.ready = .ok ())
    (native : c.native = true)
    (held : srv.find? (serverKey key) = v?.map fun v => .bytes (c.encode v))
    (delta : Int64) :
    incr c key delta srv =
      if overflows (v?.getD 0) delta then (.error (overflowFault key delta), srv)
      else (.ok (v?.getD 0 + delta),
        srv.store (serverKey key) (.bytes (c.encode (v?.getD 0 + delta)))) := by
  have text : srv.find? (serverKey key) =
      v?.map fun v => .bytes (Text.Utf8.encode (Numeral.decimal v)) := by
    simpa [encode_of_native native] using held
  obtain ⟨t, reply, mentioned⟩ := mentions_wouldOverflow
  by_cases wraps : overflows (v?.getD 0) delta
  · simp [incr, native, Redis.Server.incrBy_of_decimal healthy text, wraps, reply, mentioned]
  · simp [incr, native, Redis.Server.incrBy_of_decimal healthy text, wraps,
      encode_of_native native]

/-- Under any other codec an increment reads the bytes, checks the sum and writes it back;
its overflow names the server key. -/
theorem incrByRewrite_of_held
    (healthy : srv.ready = .ok ())
    (held : srv.find? (serverKey key) = v?.map fun v => .bytes (c.encode v))
    (delta : Int64) :
    incrByRewrite c key delta srv =
      if overflows (v?.getD 0) delta then (.error (overflowFault (serverKey key) delta), srv)
      else (.ok (v?.getD 0 + delta),
        (srv.store (serverKey key) (.bytes (c.encode (v?.getD 0 + delta)))).expireIn
          (serverKey key) none) := by
  cases v? with
  | none =>
      simp only [Option.map_none] at held
      by_cases wraps : overflows 0 delta
      · simp [incrByRewrite, Redis.Server.get_of_absent healthy held, wraps]
      · simp [incrByRewrite, Redis.Server.get_of_absent healthy held, wraps,
          Redis.Server.set_of_healthy healthy]
  | some v =>
      simp only [Option.map_some] at held
      by_cases wraps : overflows v delta
      · simp [incrByRewrite, Redis.Server.get_of_bytes healthy held, ValueCodec.decode_encode,
          wraps]
      · simp [incrByRewrite, Redis.Server.get_of_bytes healthy held, ValueCodec.decode_encode,
          wraps, Redis.Server.set_of_healthy healthy]

/-- Writing a count touches its server key alone. -/
theorem set_only (c : ValueCodec) (key : String) (v : Int64) (srv : Redis.Server) :
    Redis.Server.Only (serverKey key) srv (set c key v srv).2 := by
  have written := Redis.Server.set_only (serverKey key) (c.encode v) srv
  unfold set
  split <;> rename_i stored <;> rw [stored] at written <;> exact written

/-- Rewriting a count touches its server key alone. -/
theorem incrByRewrite_only (c : ValueCodec) (key : String) (delta : Int64) (srv : Redis.Server) :
    Redis.Server.Only (serverKey key) srv (incrByRewrite c key delta srv).2 := by
  unfold incrByRewrite
  dsimp only
  split
  · exact Redis.Server.Only.refl _ srv
  · split
    · exact Redis.Server.Only.refl _ srv
    · split
      · exact Redis.Server.Only.refl _ srv
      · -- only the write-back changes the server
        rename_i current _ _
        have written := Redis.Server.set_only (serverKey key) (c.encode (current + delta)) srv
        split <;> rename_i stored <;> rw [stored] at written <;> exact written

/-- Incrementing a count touches its server key alone. -/
theorem incr_only (c : ValueCodec) (key : String) (delta : Int64) (srv : Redis.Server) :
    Redis.Server.Only (serverKey key) srv (incr c key delta srv).2 := by
  unfold incr
  split
  · have added := Redis.Server.incrBy_only (serverKey key) delta srv
    split <;> rename_i stored <;> rw [stored] at added <;> exact added
  · exact incrByRewrite_only c key delta srv

end ServerCounts

namespace Service
namespace Stores

/-- What the count store holds for a key. -/
def holds (s : Stores) (key : String) (v? : Option Int64) : Prop :=
  match s.countHome with
  | .memory => s.counts.find? key = v?
  | .server c => s.server.find? (serverKey key) = v?.map fun v => .bytes (c.encode v)

/-- The count store changed at one key only: the key holds `v`, every other key what it
held, and the stores beside the counts are as they were. -/
structure Rewrites (s s' : Stores) (key : String) (v : Int64) : Prop where
  backend : s'.backend = s.backend
  catalog : s'.catalog = s.catalog
  script : s'.script = s.script
  ready : s'.server.ready = s.server.ready
  written : s'.holds key (some v)
  kept : ∀ k v?, k ≠ key → s.holds k v? → s'.holds k v?

variable {s : Stores} {key : String} {v? : Option Int64}

/-- A count held in memory is rewritten by putting it. -/
theorem rewrites_put
    (memory : s.countHome = .memory)
    (key : String)
    (v : Int64) :
    Rewrites s { s with counts := s.counts.put key v } key v where
  backend := rfl
  catalog := rfl
  script := rfl
  ready := rfl
  written := by simp [holds, memory]
  kept := by
    intro k v? other held
    simp only [holds, memory] at held ⊢
    simp [other, held]

/-- A count held on the server is rewritten by any server that reads the new bytes at
its key and every other key as before. -/
theorem rewrites_server
    {c : ValueCodec}
    (server : s.countHome = .server c)
    {srv : Redis.Server}
    {v : Int64}
    (found : ∀ k, srv.find? k =
      if k = serverKey key then some (.bytes (c.encode v)) else s.server.find? k)
    (ready : srv.ready = s.server.ready) :
    Rewrites s { s with server := srv } key v where
  backend := rfl
  catalog := rfl
  script := rfl
  ready := ready
  written := by simp [holds, server, found]
  kept := by
    intro k v? other held
    have apart : serverKey k ≠ serverKey key := fun same => other (serverKey_inj same)
    simp only [holds, server] at held ⊢
    simp [found, apart, held]

/-- A read answers the held value, or `key not found` for a key that holds none. -/
theorem countGet_of_holds
    (healthy : s.server.ready = .ok ())
    (held : s.holds key v?) :
    countGet key s = (v?.elim (.error (.wrap .keyNotFound key)) .ok, s) := by
  cases home : s.countHome with
  | memory =>
      simp only [holds, home] at held
      cases v? <;> simp [countGet, home, MemCounts.get, held]
  | server c =>
      simp only [holds, home] at held
      cases v? with
      | none =>
          simp [countGet, home, ServerCounts.get, Redis.Server.get_of_absent healthy held]
      | some v =>
          simp [countGet, home, ServerCounts.get, Redis.Server.get_of_bytes healthy held,
            ValueCodec.decode_encode]

theorem countIncr_of_server
    {c : ValueCodec}
    (server : s.countHome = .server c)
    (delta : Int64) :
    countIncr key delta s = s.onServer (ServerCounts.incr c key delta) := by
  simp [countIncr, server]

/-- An increment whose sum leaves the range is refused with an overflow and changes
nothing, in every home. -/
theorem countIncr_of_overflows
    (healthy : s.server.ready = .ok ())
    (held : s.holds key v?)
    {delta : Int64}
    (wraps : overflows (v?.getD 0) delta = true) :
    ∃ f, countIncr key delta s = (.error f, s) ∧ f.is .overflow := by
  cases home : s.countHome with
  | memory =>
      simp only [holds, home] at held
      refine ⟨overflowFault key delta, ?_, by simp [overflowFault]⟩
      simp [countIncr, home, MemCounts.incr, held, wraps]
  | server c =>
      simp only [holds, home] at held
      by_cases native : c.native = true
      · refine ⟨overflowFault key delta, ?_, by simp [overflowFault]⟩
        simp [countIncr_of_server home, onServer, ServerCounts.incr_of_native healthy native held,
          wraps]
      · refine ⟨overflowFault (serverKey key) delta, ?_, by simp [overflowFault]⟩
        simp [countIncr_of_server home, onServer, ServerCounts.incr, native,
          ServerCounts.incrByRewrite_of_held healthy held, wraps]

/-- An increment whose sum stays in range answers the sum, which the key then holds. -/
theorem countIncr_of_fits
    (healthy : s.server.ready = .ok ())
    (held : s.holds key v?)
    {delta : Int64}
    (fits : overflows (v?.getD 0) delta = false) :
    (countIncr key delta s).1 = .ok (v?.getD 0 + delta) ∧
      Rewrites s (countIncr key delta s).2 key (v?.getD 0 + delta) := by
  cases home : s.countHome with
  | memory =>
      simp only [holds, home] at held
      have incremented : countIncr key delta s =
          (.ok (v?.getD 0 + delta), { s with counts := s.counts.put key (v?.getD 0 + delta) }) := by
        simp [countIncr, home, MemCounts.incr, held, fits]
      rw [incremented]
      exact ⟨rfl, rewrites_put home key _⟩
  | server c =>
      simp only [holds, home] at held
      by_cases native : c.native = true
      · have incremented : countIncr key delta s =
            (.ok (v?.getD 0 + delta), { s with server := (s.server.store (serverKey key)
              (.bytes (c.encode (v?.getD 0 + delta)))) }) := by
          simp [countIncr_of_server home, onServer, ServerCounts.incr_of_native healthy native held,
            fits]
        rw [incremented]
        exact ⟨rfl, rewrites_server home (fun k => by simp) (by simp)⟩
      · have incremented : countIncr key delta s =
            (.ok (v?.getD 0 + delta), { s with server := ((s.server.store (serverKey key)
              (.bytes (c.encode (v?.getD 0 + delta)))).expireIn (serverKey key) none) }) := by
          simp [countIncr_of_server home, onServer, ServerCounts.incr, native,
            ServerCounts.incrByRewrite_of_held healthy held, fits]
        rw [incremented]
        exact ⟨rfl, rewrites_server home (fun k => by simp) (by simp)⟩

/-- A write answers the value, which the key then holds. -/
theorem countSet_of_healthy
    (healthy : s.server.ready = .ok ())
    (key : String)
    (v : Int64) :
    (countSet key v s).1 = .ok v ∧ Rewrites s (countSet key v s).2 key v := by
  cases home : s.countHome with
  | memory =>
      have written : countSet key v s = (.ok v, { s with counts := s.counts.put key v }) := by
        simp [countSet, home]
      rw [written]
      exact ⟨rfl, rewrites_put home key v⟩
  | server c =>
      have written : countSet key v s =
          (.ok v, { s with server := ((s.server.store (serverKey key)
            (.bytes (c.encode v))).expireIn (serverKey key) none) }) := by
        simp [countSet, home, onServer, ServerCounts.set, Redis.Server.set_of_healthy healthy]
      rw [written]
      exact ⟨rfl, rewrites_server home (fun k => by simp) (by simp)⟩

/-- A count operation changed the stores at the count alone: the ledger is as it was, and the
server changed at the count's server key at most. -/
structure CountOnly (key : String) (s s' : Stores) : Prop where
  ledger : s'.ledger = s.ledger
  server : Redis.Server.Only (serverKey key) s.server s'.server

theorem countOnly_onServer
    {α : Type}
    (op : Redis.Server → α × Redis.Server)
    (touched : Redis.Server.Only (serverKey key) s.server (op s.server).2) :
    CountOnly key s (s.onServer op).2 :=
  ⟨rfl, touched⟩

theorem countIncr_only (key : String) (delta : Int64) (s : Stores) :
    CountOnly key s (countIncr key delta s).2 := by
  cases home : s.countHome with
  | memory =>
      unfold countIncr
      rw [home]
      dsimp only
      split
      · exact ⟨rfl, Redis.Server.Only.refl _ _⟩
      · exact ⟨rfl, Redis.Server.Only.refl _ _⟩
  | server c =>
      rw [countIncr_of_server home]
      exact countOnly_onServer _ (ServerCounts.incr_only c key delta s.server)

theorem countSet_only (key : String) (v : Int64) (s : Stores) :
    CountOnly key s (countSet key v s).2 := by
  cases home : s.countHome with
  | memory =>
      unfold countSet
      rw [home]
      exact ⟨rfl, Redis.Server.Only.refl _ _⟩
  | server c =>
      unfold countSet
      rw [home]
      exact countOnly_onServer _ (ServerCounts.set_only c key v s.server)

end Stores
end Service
end Tallykeeper
