import Mathlib
import Tallykeeper.Value.Codec
import Tallykeeper.Proofs.Numeral.Decimal

/-!
# Value codecs read back what they write

Every value codec reads its own bytes back to the value that was written. For the decimal
codecs this is the round trip of decimal text. For the binary codec the written bytes are
the eight big-endian bytes of the value with redundant sign bytes trimmed from the front;
trimming keeps the sign extension, and the sign extension of the eight bytes is the value.
-/

namespace Tallykeeper
namespace ValueCodec

/-! ## Sign extension -/

/-- A leading byte that only repeats the sign of the next one adds nothing to the sign
extension. -/
theorem signExtend_cons_redundant
    {b0 b1 : UInt8}
    {rest : List UInt8}
    (redundant : (b0 == 0x00 && b1 < 0x80) || (b0 == 0xFF && b1 ≥ 0x80)) :
    signExtend (b0 :: b1 :: rest) = signExtend (b1 :: rest) := by
  simp only [Bool.or_eq_true, Bool.and_eq_true, beq_iff_eq, decide_eq_true_eq] at redundant
  rcases redundant with ⟨rfl, low⟩ | ⟨rfl, high⟩
  · have positive : ¬ b1 ≥ 0x80 := by
      simp only [ge_iff_le, UInt8.le_iff_toNat_le, UInt8.lt_iff_toNat_lt] at low ⊢
      omega
    simp [signExtend, positive]
  · simp [signExtend, high]

theorem signExtend_trimSign (bs : List UInt8) : signExtend (trimSign bs) = signExtend bs := by
  fun_induction trimSign bs with
  | case1 b0 b1 rest redundant ih =>
      rw [ih, signExtend_cons_redundant redundant]
  | case2 => rfl
  | case3 => rfl

theorem length_trimSign_le (bs : List UInt8) : (trimSign bs).length ≤ bs.length := by
  fun_induction trimSign bs with
  | case1 b0 b1 rest _ ih =>
      simp only [List.length_cons] at ih ⊢
      omega
  | case2 => exact Nat.le_refl _
  | case3 => exact Nat.le_refl _

theorem trimSign_ne_nil {bs : List UInt8} (nonempty : bs ≠ []) : trimSign bs ≠ [] := by
  fun_induction trimSign bs with
  | case1 b0 b1 rest _ ih => exact ih (List.cons_ne_nil _ _)
  | case2 => exact List.cons_ne_nil _ _
  | case3 => exact nonempty

/-! ## The eight bytes of a value -/

theorem wordBytes_eq_div (v : Int64) :
    wordBytes v =
      (List.range 8).reverse.map fun i => UInt8.ofNat (v.toUInt64.toNat / 2 ^ (8 * i)) := by
  simp only [wordBytes]
  apply List.map_congr_left
  intro i member
  simp only [List.mem_reverse, List.mem_range] at member
  apply UInt8.toNat_inj.mp
  have shift : 8 * i % 64 = 8 * i := Nat.mod_eq_of_lt (by omega)
  simp [UInt8.toNat_ofNat', Nat.shiftRight_eq_div_pow, shift]

/-- Folding big-endian bytes onto an accumulator shifts it past them and adds the number
they spell. -/
theorem foldl_bigEndian
    (u : Nat)
    (start : Int)
    (k : Nat) :
    ((List.range k).reverse.map fun i => UInt8.ofNat (u / 2 ^ (8 * i))).foldl
        (fun (acc : Int) (b : UInt8) => acc * 256 + b.toNat) start =
      start * 256 ^ k + ((u % 256 ^ k : Nat) : Int) := by
  induction k generalizing start with
  | zero => simp
  | succ k ih =>
      have byte : (UInt8.ofNat (u / 2 ^ (8 * k))).toNat = u / 256 ^ k % 256 := by
        rw [UInt8.toNat_ofNat', pow_mul]
        rfl
      have split : u % 256 ^ (k + 1) = u % 256 ^ k + 256 ^ k * (u / 256 ^ k % 256) :=
        Nat.mod_pow_succ
      rw [List.range_succ, List.reverse_append, List.reverse_singleton, List.singleton_append,
        List.map_cons, List.foldl_cons, ih, byte, split]
      push_cast
      ring

/-- The eight big-endian bytes of a value, sign extended, are the value. -/
theorem signExtend_wordBytes (v : Int64) : signExtend (wordBytes v) = v.toInt := by
  have bounded := v.toUInt64.toNat_lt
  have whole : v.toUInt64.toNat % 256 ^ 8 = v.toUInt64.toNat := Nat.mod_eq_of_lt bounded
  have top : (UInt8.ofNat (v.toUInt64.toNat / 2 ^ (8 * 7))).toNat =
      v.toUInt64.toNat / 2 ^ 56 := by
    rw [UInt8.toNat_ofNat']
    omega
  have signed := BitVec.toInt_eq_toNat_cond v.toBitVec
  have unsigned : v.toUInt64.toNat = v.toBitVec.toNat := rfl
  simp only [Int64.toInt_toBitVec, ← unsigned] at signed
  simp only [signExtend]
  rw [wordBytes_eq_div, foldl_bigEndian, whole, signed]
  have half : (0x80 : UInt8).toNat = 128 := rfl
  simp only [List.range_succ, List.range_zero, List.nil_append, List.reverse_cons,
    List.reverse_nil, List.map_cons, List.cons_append, UInt8.le_iff_toNat_le, top, half]
  split <;> split <;> omega

theorem length_wordBytes (v : Int64) : (wordBytes v).length = 8 := by
  simp [wordBytes]

/-! ## Round trips -/

theorem encodeBinary_ne_nil (v : Int64) : encodeBinary v ≠ [] := by
  apply trimSign_ne_nil
  intro empty
  have eight := length_wordBytes v
  rw [empty] at eight
  simp at eight

theorem length_encodeBinary_le (v : Int64) : (encodeBinary v).length ≤ 8 := by
  have eight := length_wordBytes v
  have trimmed := length_trimSign_le (wordBytes v)
  rw [encodeBinary]
  omega

/-- The binary codec reads its bytes back: they are one to eight bytes whose sign
extension is the value. -/
theorem decodeBinary_encodeBinary (v : Int64) : decodeBinary (encodeBinary v) = .ok v := by
  have short := length_encodeBinary_le v
  have positive : (encodeBinary v).length ≠ 0 := by
    simpa using encodeBinary_ne_nil v
  have extended : signExtend (encodeBinary v) = v.toInt := by
    rw [encodeBinary, signExtend_trimSign, signExtend_wordBytes]
  simp only [decodeBinary, extended, Int64.ofInt_toInt]
  simp [positive, Nat.not_lt.mpr short]

/-- Every codec, known or not, reads back the value it wrote. -/
theorem decode_encode (c : ValueCodec) (v : Int64) : c.decode (c.encode v) = .ok v := by
  by_cases binary : c.code = 1
  · simp [decode, encode, binary, decodeBinary_encodeBinary]
  · simp [decode, encode, binary, Numeral.parseSigned_encode_decimal]

end ValueCodec
end Tallykeeper
