import Mathlib
import Tallykeeper.Proofs.Count.Faults

/-!
# Increments store exact sums

An increment adds a signed 64-bit delta to a count, an absent count reading as zero. The
check `overflows` decides from the two operands alone whether the range holds their
mathematical sum, and neither bound it compares against wraps, the least delta included.
So an increment held in memory, and one on the server that reads the count, checks the sum
and writes it back, stores the exact sum whenever the range holds it. Otherwise it is
refused with the overflow fault and the count stays as it was. The main statement is
`increments_store_exact_sums`.
-/

namespace Tallykeeper

namespace MemCounts

variable {m : MemCounts} {key : String} {delta : Int64}

/-- An increment in memory whose sum fits stores that sum under its key. -/
theorem incr_of_representable
    (fits : Representable (((m.find? key).getD 0).toInt + delta.toInt)) :
    ∃ v : Int64, v.toInt = ((m.find? key).getD 0).toInt + delta.toInt ∧
      m.incr key delta = .ok (v, m.put key v) := by
  have unchecked := (overflows_eq_false_iff _ _).mpr fits
  refine ⟨(m.find? key).getD 0 + delta, toInt_add_of_not_overflows unchecked, ?_⟩
  simp [incr, unchecked]

/-- An increment in memory whose sum leaves the range is refused. -/
theorem incr_of_not_representable
    (exceeds : ¬ Representable (((m.find? key).getD 0).toInt + delta.toInt)) :
    m.incr key delta = .error (overflowFault key delta) := by
  have checked := (overflows_iff_not_representable _ _).mpr exceeds
  simp [incr, checked]

end MemCounts

namespace ServerCounts

variable {c : ValueCodec} {key : String} {srv : Redis.Server} {current delta : Int64}

theorem incrByRewrite_of_representable
    (healthy : srv.ready = .ok ())
    (reads : ReadsAs c srv key current)
    (fits : Representable (current.toInt + delta.toInt)) :
    ∃ v : Int64, v.toInt = current.toInt + delta.toInt ∧
      incrByRewrite c key delta srv =
        (.ok v, (srv.store (serverKey key) (.bytes (c.encode v))).expireIn
          (serverKey key) none) := by
  have unchecked := (overflows_eq_false_iff current delta).mpr fits
  refine ⟨current + delta, toInt_add_of_not_overflows unchecked, ?_⟩
  rw [incrByRewrite_of_reads healthy reads, unchecked]
  rfl

theorem incrByRewrite_of_not_representable
    (healthy : srv.ready = .ok ())
    (reads : ReadsAs c srv key current)
    (exceeds : ¬ Representable (current.toInt + delta.toInt)) :
    incrByRewrite c key delta srv = (.error (overflowFault (serverKey key) delta), srv) := by
  rw [incrByRewrite_of_reads healthy reads, (overflows_iff_not_representable _ _).mpr exceeds]
  rfl

end ServerCounts

/-- The overflow check tells exactly when a sum leaves the signed 64-bit range, and the
bounds it computes never wrap. So an increment in memory, and one on the server that reads
the count, checks and writes the sum back, stores the exact sum when the range holds it and
is refused with the overflow fault otherwise, the count left as it was. -/
theorem increments_store_exact_sums :
    (∀ current delta : Int64,
      overflows current delta = true ↔ ¬ Representable (current.toInt + delta.toInt)) ∧
    (∀ delta : Int64,
      (0 < delta → (Int64.maxValue - delta).toInt = Int64.maxValue.toInt - delta.toInt) ∧
      (delta ≤ 0 → (Int64.minValue - delta).toInt = Int64.minValue.toInt - delta.toInt)) ∧
    (∀ (m : MemCounts) (key : String) (delta : Int64),
      (Representable (((m.find? key).getD 0).toInt + delta.toInt) →
        ∃ v : Int64, v.toInt = ((m.find? key).getD 0).toInt + delta.toInt ∧
          m.incr key delta = .ok (v, m.put key v)) ∧
      (¬ Representable (((m.find? key).getD 0).toInt + delta.toInt) →
        m.incr key delta = .error (overflowFault key delta))) ∧
    (∀ (c : ValueCodec) (key : String) (srv : Redis.Server) (current delta : Int64),
      srv.ready = .ok () → ServerCounts.ReadsAs c srv key current →
      (Representable (current.toInt + delta.toInt) →
        ∃ v : Int64, v.toInt = current.toInt + delta.toInt ∧
          ServerCounts.incrByRewrite c key delta srv =
            (.ok v, (srv.store (serverKey key) (.bytes (c.encode v))).expireIn
              (serverKey key) none)) ∧
      (¬ Representable (current.toInt + delta.toInt) →
        ServerCounts.incrByRewrite c key delta srv =
          (.error (overflowFault (serverKey key) delta), srv))) :=
  ⟨overflows_iff_not_representable,
    fun _ => ⟨toInt_maxValue_sub_of_pos, toInt_minValue_sub_of_nonpos⟩,
    fun _ _ _ => ⟨MemCounts.incr_of_representable, MemCounts.incr_of_not_representable⟩,
    fun _ _ _ _ _ healthy reads =>
      ⟨ServerCounts.incrByRewrite_of_representable healthy reads,
        ServerCounts.incrByRewrite_of_not_representable healthy reads⟩⟩

/-- At the top of the range an increment by one is refused, in memory and on the server
under the binary codec; for the least delta the bound of the check is zero. -/
theorem increment_past_the_top_refused :
    let top : Redis.Server :=
      ({} : Redis.Server).store "named:1:7" (.bytes (ValueCodec.binary.encode Int64.maxValue))
    ¬ Representable (Int64.maxValue.toInt + (1 : Int64).toInt) ∧
      ({ values := [("1:7", Int64.maxValue)] } : MemCounts).incr "1:7" 1 =
        .error (overflowFault "1:7" 1) ∧
      ServerCounts.incrByRewrite .binary "1:7" 1 top =
        (.error (overflowFault "named:1:7" 1), top) ∧
      (Int64.minValue - Int64.minValue).toInt = Int64.minValue.toInt - Int64.minValue.toInt := by
  intro top
  have exceeds : ¬ Representable (Int64.maxValue.toInt + (1 : Int64).toInt) := by decide
  have held : (({ values := [("1:7", Int64.maxValue)] } : MemCounts).find? "1:7").getD 0 =
      Int64.maxValue := rfl
  have reads : ServerCounts.ReadsAs .binary top "1:7" Int64.maxValue :=
    .inr ⟨_, by simp [top, serverKey], ValueCodec.decode_encode _ _⟩
  refine ⟨exceeds, ?_, ?_, ?_⟩
  · exact (increments_store_exact_sums.2.2.1 _ "1:7" 1).2 (held ▸ exceeds)
  · exact (increments_store_exact_sums.2.2.2 .binary "1:7" top _ 1 rfl reads).2 exceeds
  · exact (increments_store_exact_sums.2.1 Int64.minValue).2 (by decide)

end Tallykeeper
