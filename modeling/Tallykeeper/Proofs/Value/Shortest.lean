import Mathlib
import Tallykeeper.Proofs.Value.RoundTrip

/-!
# The shortest binary form

Big-endian bytes denote a two's-complement number: the number they spell, less `256 ^ n`
when the first byte's top bit is set. Reading binary bytes computes exactly that value, and
bytes of one length denote distinct values, so a value has one shortest form. Writing a value
gives that form.

Reading then writing back returns the bytes with their redundant leading sign bytes dropped.
The bytes come back unchanged exactly when they are minimal, and two readable byte strings
read alike exactly when they trim alike.
-/

namespace Tallykeeper
namespace ValueCodec

/-! ## Two's complement -/

/-- The number big-endian bytes spell. -/
def bigEndian (bs : List UInt8) : Nat :=
  Nat.ofDigits 256 (bs.reverse.map UInt8.toNat)

/-- Whether the first byte has its top bit set. -/
def topBitSet : List UInt8 → Bool
  | b :: _ => b ≥ 0x80
  | [] => false

/-- The two's-complement value of big-endian bytes. -/
def twosComplement (bs : List UInt8) : Int :=
  bigEndian bs - if topBitSet bs then 256 ^ bs.length else 0

/-- The byte that only repeats the sign of `b`. -/
def signFill (b : UInt8) : UInt8 :=
  if b ≥ 0x80 then 0xFF else 0x00

/-- Bytes that do not start with a byte repeating the sign of the next one. -/
def Minimal : List UInt8 → Prop
  | b0 :: b1 :: _ => b0 ≠ signFill b1
  | _ => True

instance : DecidablePred Minimal
  | [] => inferInstanceAs (Decidable True)
  | [_] => inferInstanceAs (Decidable True)
  | b0 :: b1 :: _ => inferInstanceAs (Decidable (b0 ≠ signFill b1))

example : Minimal [0x00, 0x80] ∧ ¬ Minimal [0xFF, 0xFF, 0x7F] := by decide

theorem bigEndian_cons (b : UInt8) (rest : List UInt8) :
    bigEndian (b :: rest) = b.toNat * 256 ^ rest.length + bigEndian rest := by
  simp only [bigEndian, List.reverse_cons, List.map_append, List.map_cons, List.map_nil,
    Nat.ofDigits_append, Nat.ofDigits_singleton, List.length_map, List.length_reverse]
  ring

/-- Bytes are base-256 digits. -/
theorem byteDigits_lt (bs : List UInt8) : ∀ d ∈ bs.reverse.map UInt8.toNat, d < 256 := by
  simp only [List.mem_map, List.mem_reverse]
  rintro d ⟨b, -, rfl⟩
  exact b.toNat_lt

theorem bigEndian_lt (bs : List UInt8) : bigEndian bs < 256 ^ bs.length := by
  simpa [bigEndian] using Nat.ofDigits_lt_base_pow_length (by norm_num) (byteDigits_lt bs)

theorem bigEndian_inj
    {bs cs : List UInt8}
    (len : bs.length = cs.length)
    (same : bigEndian bs = bigEndian cs) :
    bs = cs := by
  have digits := Nat.ofDigits_inj_of_len_eq (by norm_num) (by simp [len]) (byteDigits_lt bs)
    (byteDigits_lt cs) same
  have reversed : bs.reverse = cs.reverse :=
    List.map_injective_iff.mpr (fun _ _ equal => UInt8.toNat_inj.mp equal) digits
  exact List.reverse_inj.mp reversed

/-- Folding bytes onto an accumulator shifts it past them and adds the number they spell. -/
theorem foldl_bytes (start : Int) (bs : List UInt8) :
    bs.foldl (fun (acc : Int) (b : UInt8) => acc * 256 + b.toNat) start =
      start * 256 ^ bs.length + bigEndian bs := by
  induction bs generalizing start with
  | nil => simp [bigEndian]
  | cons b rest ih =>
      rw [List.foldl_cons, ih, bigEndian_cons, List.length_cons]
      push_cast
      ring

/-- Sign extension computes the two's-complement value. -/
theorem signExtend_eq_twosComplement (bs : List UInt8) : signExtend bs = twosComplement bs := by
  cases bs with
  | nil => simp [signExtend, twosComplement, bigEndian, topBitSet]
  | cons b rest =>
      by_cases top : b ≥ 0x80
      · simp only [signExtend, foldl_bytes, twosComplement, topBitSet, top, if_true,
          decide_true]
        ring
      · simp [signExtend, foldl_bytes, twosComplement, topBitSet, top, bigEndian_cons]

/-- Bytes denote a negative value exactly when the first top bit is set. -/
theorem twosComplement_neg_iff (bs : List UInt8) : twosComplement bs < 0 ↔ topBitSet bs = true := by
  cases bs with
  | nil => simp [twosComplement, bigEndian, topBitSet]
  | cons b rest =>
      have spelled : (bigEndian rest : Int) < 256 ^ rest.length := by exact_mod_cast bigEndian_lt rest
      have power : (0 : Int) < 256 ^ rest.length := by positivity
      have byte : (b.toNat : Int) ≤ 255 := by have := b.toNat_lt; omega
      by_cases top : b ≥ 0x80
      · have scaled : (b.toNat : Int) * 256 ^ rest.length ≤ 255 * 256 ^ rest.length :=
          mul_le_mul_of_nonneg_right byte power.le
        simp only [twosComplement, bigEndian_cons, topBitSet, top, decide_true, if_true,
          List.length_cons, iff_true]
        push_cast
        rw [pow_succ]
        linarith
      · have scaled : 0 ≤ (b.toNat : Int) * 256 ^ rest.length := by positivity
        simp only [twosComplement, bigEndian_cons, topBitSet, top, decide_false,
          Bool.false_eq_true, if_false, iff_false, not_lt]
        push_cast
        linarith

/-- One to `k + 1` bytes denote a value in the signed range of `k + 1` bytes. -/
theorem twosComplement_bounds (b : UInt8) (rest : List UInt8) :
    -(128 * 256 ^ rest.length) ≤ twosComplement (b :: rest) ∧
      twosComplement (b :: rest) < 128 * 256 ^ rest.length := by
  have spelled : (bigEndian rest : Int) < 256 ^ rest.length := by exact_mod_cast bigEndian_lt rest
  have power : (0 : Int) < 256 ^ rest.length := by positivity
  have byte : (b.toNat : Int) ≤ 255 := by have := b.toNat_lt; omega
  by_cases top : b ≥ 0x80
  · have high : (128 : Int) ≤ b.toNat := by
      have : (0x80 : UInt8).toNat ≤ b.toNat := UInt8.le_iff_toNat_le.mp top
      exact_mod_cast this
    have lower : 128 * 256 ^ rest.length ≤ (b.toNat : Int) * 256 ^ rest.length :=
      mul_le_mul_of_nonneg_right high power.le
    have upper : (b.toNat : Int) * 256 ^ rest.length ≤ 255 * 256 ^ rest.length :=
      mul_le_mul_of_nonneg_right byte power.le
    simp only [twosComplement, bigEndian_cons, topBitSet, top, decide_true, if_true,
      List.length_cons]
    push_cast
    rw [pow_succ]
    constructor <;> nlinarith
  · have low : (b.toNat : Int) ≤ 127 := by
      have : ¬ (0x80 : UInt8).toNat ≤ b.toNat := fun h => top (UInt8.le_iff_toNat_le.mpr h)
      have : b.toNat < 128 := by simpa using this
      omega
    have upper : (b.toNat : Int) * 256 ^ rest.length ≤ 127 * 256 ^ rest.length :=
      mul_le_mul_of_nonneg_right low power.le
    have scaled : 0 ≤ (b.toNat : Int) * 256 ^ rest.length := by positivity
    simp only [twosComplement, bigEndian_cons, topBitSet, top, decide_false, Bool.false_eq_true,
      if_false]
    push_cast
    constructor <;> linarith

/-- Bytes of one length that denote one value are the same bytes. -/
theorem eq_of_twosComplement_eq
    {bs cs : List UInt8}
    (len : bs.length = cs.length)
    (same : twosComplement bs = twosComplement cs) :
    bs = cs := by
  have sign : topBitSet bs = topBitSet cs := by
    have negative := (twosComplement_neg_iff bs).symm.trans (same ▸ twosComplement_neg_iff cs)
    exact Bool.eq_iff_iff.mpr negative
  apply bigEndian_inj len
  simp only [twosComplement, sign, len, sub_left_inj] at same
  exact_mod_cast same

/-! ## Sign bytes -/

/-- The trimming test asks whether the first byte is the sign fill of the second. -/
theorem redundant_iff (b0 b1 : UInt8) :
    ((b0 == 0x00 && b1 < 0x80) || (b0 == 0xFF && b1 ≥ 0x80)) = true ↔ b0 = signFill b1 := by
  by_cases top : b1 ≥ 0x80
  · have notBelow : ¬ b1 < 0x80 := fun below => absurd top (UInt8.not_le.mpr below)
    simp [signFill, top, notBelow]
  · have below : b1 < 0x80 := UInt8.not_le.mp top
    simp [signFill, top, below]

@[simp] theorem signFill_signFill (b : UInt8) : signFill (signFill b) = signFill b := by
  unfold signFill
  by_cases top : b ≥ 0x80
  · rw [if_pos top]
    decide
  · rw [if_neg top]
    decide

theorem signExtend_cons_signFill (b : UInt8) (rest : List UInt8) :
    signExtend (signFill b :: b :: rest) = signExtend (b :: rest) :=
  signExtend_cons_redundant ((redundant_iff _ _).mpr rfl)

theorem trimSign_cons_signFill (b : UInt8) (rest : List UInt8) :
    trimSign (signFill b :: b :: rest) = trimSign (b :: rest) := by
  rw [trimSign, if_pos ((redundant_iff _ _).mpr rfl)]

/-- Sign bytes in front of `b :: rest`, one more at the back of the run. -/
theorem replicate_signFill_succ (k : Nat) (b : UInt8) (rest : List UInt8) :
    List.replicate (k + 1) (signFill b) ++ b :: rest =
      List.replicate k (signFill (signFill b)) ++ signFill b :: b :: rest := by
  rw [signFill_signFill, List.replicate_succ', List.append_assoc]
  rfl

/-- Sign bytes in front change no sign extension. -/
theorem signExtend_replicate_signFill (k : Nat) (b : UInt8) (rest : List UInt8) :
    signExtend (List.replicate k (signFill b) ++ b :: rest) = signExtend (b :: rest) := by
  induction k generalizing b rest with
  | zero => rfl
  | succ k ih => rw [replicate_signFill_succ, ih, signExtend_cons_signFill]

/-- Sign bytes in front are trimmed away. -/
theorem trimSign_replicate_signFill (k : Nat) (b : UInt8) (rest : List UInt8) :
    trimSign (List.replicate k (signFill b) ++ b :: rest) = trimSign (b :: rest) := by
  induction k generalizing b rest with
  | zero => rfl
  | succ k ih => rw [replicate_signFill_succ, ih, trimSign_cons_signFill]

/-! ## Trimming -/

/-- Trimming keeps the bytes or shortens them. -/
theorem trimSign_eq_or_shorter (bs : List UInt8) :
    trimSign bs = bs ∨ (trimSign bs).length < bs.length := by
  fun_induction trimSign bs with
  | case1 b0 b1 rest _ _ =>
      have shorter := length_trimSign_le (b1 :: rest)
      simp only [List.length_cons] at shorter ⊢
      exact .inr (by omega)
  | case2 => exact .inl rfl
  | case3 => exact .inl rfl

/-- Trimming keeps exactly the minimal bytes. -/
theorem trimSign_eq_self_iff (bs : List UInt8) : trimSign bs = bs ↔ Minimal bs := by
  match bs with
  | [] => simp [trimSign, Minimal]
  | [b] => simp [trimSign, Minimal]
  | b0 :: b1 :: rest =>
      by_cases redundant : b0 = signFill b1
      · subst redundant
        have shorter := length_trimSign_le (b1 :: rest)
        simp only [Minimal, ne_eq, not_true_eq_false, iff_false]
        intro kept
        rw [trimSign_cons_signFill] at kept
        rw [kept] at shorter
        simp at shorter
      · have notRedundant :
            ((b0 == 0x00 && b1 < 0x80) || (b0 == 0xFF && b1 ≥ 0x80)) = false := by
          simpa [← redundant_iff] using redundant
        simp only [Minimal, ne_eq, redundant, not_false_eq_true, iff_true]
        rw [trimSign, if_neg (by simp [notRedundant])]

/-! ## Reading -/

/-- One to eight bytes read as their two's-complement value, which fits in 64 bits. -/
theorem toInt_ofInt_signExtend
    {raw : List UInt8}
    (nonempty : raw ≠ [])
    (short : raw.length ≤ 8) :
    (Int64.ofInt (signExtend raw)).toInt = signExtend raw := by
  obtain ⟨b, rest, rfl⟩ := List.exists_cons_of_ne_nil nonempty
  obtain ⟨lower, upper⟩ := twosComplement_bounds b rest
  have power : (256 : Int) ^ rest.length ≤ 256 ^ 7 :=
    pow_le_pow_right₀ (by norm_num) (by simp at short; omega)
  rw [Int64.toInt_ofInt, signExtend_eq_twosComplement]
  apply Int.bmod_eq_of_le
  · have : -(((Int64.size : Nat) : Int) / 2) = -(128 * 256 ^ 7) := by norm_num [Int64.size]
    rw [this]
    linarith
  · have : ((Int64.size : Nat) + 1 : Int) / 2 = 128 * 256 ^ 7 := by norm_num [Int64.size]
    rw [this]
    linarith

/-- The eight bytes of a value read from `b :: rest` are `b :: rest` behind sign bytes. -/
theorem wordBytes_ofInt_signExtend
    (b : UInt8)
    (rest : List UInt8)
    (short : rest.length < 8) :
    wordBytes (Int64.ofInt (signExtend (b :: rest))) =
      List.replicate (7 - rest.length) (signFill b) ++ b :: rest := by
  apply eq_of_twosComplement_eq
  · simp only [length_wordBytes, List.length_append, List.length_replicate, List.length_cons]
    omega
  · rw [← signExtend_eq_twosComplement, ← signExtend_eq_twosComplement, signExtend_wordBytes,
      toInt_ofInt_signExtend (List.cons_ne_nil b rest) (by simp; omega),
      signExtend_replicate_signFill]

/-- Writing back what one to eight bytes read as trims their redundant sign bytes. -/
theorem encodeBinary_ofInt_signExtend
    {raw : List UInt8}
    (nonempty : raw ≠ [])
    (short : raw.length ≤ 8) :
    encodeBinary (Int64.ofInt (signExtend raw)) = trimSign raw := by
  obtain ⟨b, rest, rfl⟩ := List.exists_cons_of_ne_nil nonempty
  have eight : rest.length < 8 := by simp at short; omega
  rw [encodeBinary, wordBytes_ofInt_signExtend b rest eight, trimSign_replicate_signFill]

/-! ## The shortest form -/

/-- Every other form of a value is longer than the written one. -/
theorem encodeBinary_shortest
    (v : Int64)
    {bs : List UInt8}
    (nonempty : bs ≠ [])
    (same : twosComplement bs = v.toInt) :
    bs = encodeBinary v ∨ (encodeBinary v).length < bs.length := by
  by_cases short : bs.length ≤ 8
  · have read : Int64.ofInt (signExtend bs) = v := by
      rw [signExtend_eq_twosComplement, same, Int64.ofInt_toInt]
    rw [← read, encodeBinary_ofInt_signExtend nonempty short]
    rcases trimSign_eq_or_shorter bs with kept | shorter
    · exact .inl kept.symm
    · exact .inr shorter
  · have written := length_encodeBinary_le v
    exact .inr (by omega)

/-- Every codec reads back what it writes. The binary codec writes one to eight bytes: the
shortest big-endian two's-complement form of the value, every other form being longer. -/
theorem codec_round_trip_shortest (c : ValueCodec) (v : Int64) :
    c.decode (c.encode v) = .ok v ∧
      (1 ≤ (binary.encode v).length ∧ (binary.encode v).length ≤ 8) ∧
      twosComplement (binary.encode v) = v.toInt ∧
      ∀ bs, bs ≠ [] → twosComplement bs = v.toInt →
        bs = binary.encode v ∨ (binary.encode v).length < bs.length := by
  have written : binary.encode v = encodeBinary v := by simp [encode, binary]
  have nonempty := encodeBinary_ne_nil v
  refine ⟨decode_encode c v, ⟨?_, ?_⟩, ?_, ?_⟩
  · rw [written]
    exact List.length_pos_of_ne_nil nonempty
  · rw [written]
    exact length_encodeBinary_le v
  · rw [written, ← signExtend_eq_twosComplement, encodeBinary, signExtend_trimSign,
      signExtend_wordBytes]
  · intro bs other same
    rw [written]
    exact encodeBinary_shortest v other same

/-! ## Reading normalises -/

/-- Binary reading fails, with the value codec fault, exactly for no bytes or more than eight. -/
theorem decodeBinary_fails_iff (raw : List UInt8) :
    (∃ detail, decodeBinary raw = .error (.wrap .valueCodec detail)) ↔
      raw.length = 0 ∨ 8 < raw.length := by
  unfold decodeBinary
  split
  · rename_i bad
    simp only [Bool.or_eq_true, decide_eq_true_eq, gt_iff_lt] at bad
    exact ⟨fun _ => bad, fun _ => ⟨_, rfl⟩⟩
  · rename_i good
    simp only [Bool.or_eq_true, decide_eq_true_eq, gt_iff_lt] at good
    constructor
    · rintro ⟨_, impossible⟩
      cases impossible
    · intro bad
      exact absurd bad good

theorem decodeBinary_of_length
    {raw : List UInt8}
    (nonempty : raw ≠ [])
    (short : raw.length ≤ 8) :
    decodeBinary raw = .ok (Int64.ofInt (signExtend raw)) := by
  have reading : ¬ (raw.length = 0 || decide (raw.length > 8)) = true := by
    simp only [Bool.or_eq_true, decide_eq_true_eq, not_or]
    exact ⟨fun empty => nonempty (List.length_eq_zero_iff.mp empty), by omega⟩
  simp only [decodeBinary, if_neg reading]

/-- Writing back what one to eight bytes read as gives them trimmed. -/
theorem map_encodeBinary_decodeBinary
    {raw : List UInt8}
    (nonempty : raw ≠ [])
    (short : raw.length ≤ 8) :
    (decodeBinary raw).map encodeBinary = .ok (trimSign raw) := by
  rw [decodeBinary_of_length nonempty short]
  exact congrArg Except.ok (encodeBinary_ofInt_signExtend nonempty short)

/-- Reading then writing back gives the bytes with their redundant sign bytes dropped; it
gives the bytes themselves exactly for minimal ones, and two readable byte strings read alike
exactly when they trim alike. -/
theorem binary_reading_normalises (raw : List UInt8) :
    ((∃ detail, decodeBinary raw = .error (.wrap .valueCodec detail)) ↔
        raw.length = 0 ∨ 8 < raw.length) ∧
      (raw ≠ [] → raw.length ≤ 8 → (decodeBinary raw).map encodeBinary = .ok (trimSign raw)) ∧
      ((decodeBinary raw).map encodeBinary = .ok raw ↔
        raw ≠ [] ∧ raw.length ≤ 8 ∧ Minimal raw) ∧
      ∀ raw', raw ≠ [] → raw.length ≤ 8 → raw' ≠ [] → raw'.length ≤ 8 →
        (decodeBinary raw = decodeBinary raw' ↔ trimSign raw = trimSign raw') := by
  refine ⟨decodeBinary_fails_iff raw, fun nonempty short => map_encodeBinary_decodeBinary
    nonempty short, ?_, ?_⟩
  · constructor
    · intro written
      by_cases readable : raw ≠ [] ∧ raw.length ≤ 8
      · rw [map_encodeBinary_decodeBinary readable.1 readable.2, Except.ok.injEq] at written
        exact ⟨readable.1, readable.2, (trimSign_eq_self_iff raw).mp written⟩
      · -- bytes of a length that does not read fail, and nothing is written back
        have bad : raw.length = 0 ∨ 8 < raw.length := by
          by_cases empty : raw = []
          · exact .inl (List.length_eq_zero_iff.mpr empty)
          · exact .inr (Nat.lt_of_not_le fun short => readable ⟨empty, short⟩)
        obtain ⟨detail, failed⟩ := (decodeBinary_fails_iff raw).mpr bad
        rw [failed] at written
        cases written
    · rintro ⟨nonempty, short, minimal⟩
      rw [map_encodeBinary_decodeBinary nonempty short, (trimSign_eq_self_iff raw).mpr minimal]
  · intro raw' nonempty short nonempty' short'
    rw [decodeBinary_of_length nonempty short, decodeBinary_of_length nonempty' short',
      Except.ok.injEq]
    constructor
    · intro same
      rw [← encodeBinary_ofInt_signExtend nonempty short,
        ← encodeBinary_ofInt_signExtend nonempty' short', same]
    · intro trimmed
      rw [← signExtend_trimSign raw, ← signExtend_trimSign raw', trimmed]

/-- `ff ff 7f` reads as `ff 7f` does, and writes back as `ff 7f`. -/
theorem binary_reading_normalises_sign_run :
    (decodeBinary [0xFF, 0xFF, 0x7F]).map encodeBinary = .ok [0xFF, 0x7F] ∧
      decodeBinary [0xFF, 0xFF, 0x7F] = decodeBinary [0xFF, 0x7F] :=
  ⟨(binary_reading_normalises [0xFF, 0xFF, 0x7F]).2.1 (by decide) (by decide),
    ((binary_reading_normalises [0xFF, 0xFF, 0x7F]).2.2.2 [0xFF, 0x7F] (by decide) (by decide)
      (by decide) (by decide)).mpr (by decide)⟩

end ValueCodec
end Tallykeeper
