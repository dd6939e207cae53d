import Mathlib
import Tallykeeper.Numeral.Integer

/-!
# Decimal text reads back

The decimal text of a signed 64-bit value is a run of ASCII digits after an optional
`-`. The signed reader with base ten takes the UTF-8 bytes of that text back to the
value, so decimal text is a faithful form of a value. It holds no `:`, which lets it
stand as one part of a key whose parts are separated by colons.
-/

namespace Tallykeeper

/-- Two lists that each run up to a first separator agree once the separator is found. -/
theorem append_cons_inj_of_not_mem
    {α : Type}
    {c : α}
    {a b a' b' : List α}
    (here : c ∉ a)
    (there : c ∉ a')
    (same : a ++ c :: b = a' ++ c :: b') :
    a = a' ∧ b = b' := by
  induction a generalizing a' with
  | nil =>
      cases a' with
      | nil => simpa using same
      | cons y rest =>
          simp only [List.nil_append, List.cons_append, List.cons.injEq] at same
          exact absurd (same.1 ▸ List.mem_cons_self ..) there
  | cons x rest ih =>
      cases a' with
      | nil =>
          simp only [List.nil_append, List.cons_append, List.cons.injEq] at same
          exact absurd (same.1 ▸ List.mem_cons_self ..) here
      | cons y rest' =>
          simp only [List.cons_append, List.cons.injEq] at same
          obtain ⟨first, tail⟩ := same
          have later := ih (fun inRest => here (List.mem_cons_of_mem _ inRest))
            (fun inRest => there (List.mem_cons_of_mem _ inRest)) tail
          exact ⟨by rw [first, later.1], later.2⟩

namespace Numeral

/-! ## Digits as bytes -/

/-- The bytes of the decimal digits of a natural number. -/
def digitBytes (n : Nat) : List UInt8 :=
  (Nat.toDigits 10 n).map fun c => c.toNat.toUInt8

theorem encodeChar_of_ascii
    {c : Char}
    (ascii : c.toNat < 0x80) :
    Text.Utf8.encodeChar c = [c.toNat.toUInt8] := by
  simp [Text.Utf8.encodeChar, ascii]

/-- A digit is one ASCII byte, so the text of a number is its digit bytes. -/
theorem encode_repr (n : Nat) : Text.Utf8.encode (Nat.repr n) = digitBytes n := by
  rw [Text.Utf8.encode, Nat.toList_repr, digitBytes, List.map_eq_flatMap]
  apply List.flatMap_congr
  intro c member
  have digit := Nat.isDigit_of_mem_toDigits (by decide) (by decide) member
  simp only [Char.isDigit, Bool.and_eq_true, decide_eq_true_eq] at digit
  apply encodeChar_of_ascii
  have upper : c.toNat ≤ 57 := digit.2
  omega

theorem digitValue_digitChar
    {k : Nat}
    (digit : k < 10) :
    digitValue k.digitChar.toNat.toUInt8 = some k := by
  rw [Nat.toNat_digitChar_of_lt_ten digit]
  revert k
  decide

/-- The byte of a digit lies between `0` and `9`. -/
theorem digitBytes_head
    (n : Nat) :
    ∃ b rest, digitBytes n = b :: rest ∧ 48 ≤ b.toNat ∧ b.toNat ≤ 57 := by
  cases digits : Nat.toDigits 10 n with
  | nil => exact absurd digits Nat.toDigits_ne_nil
  | cons c rest =>
      have member : c ∈ Nat.toDigits 10 n := by simp [digits]
      have digit := Nat.isDigit_of_mem_toDigits (by decide) (by decide) member
      simp only [Char.isDigit, Bool.and_eq_true, decide_eq_true_eq] at digit
      have lower : 48 ≤ c.toNat := digit.1
      have upper : c.toNat ≤ 57 := digit.2
      have byte : c.toNat.toUInt8.toNat = c.toNat := by
        simp [Nat.toUInt8, UInt8.toNat_ofNat']
        omega
      refine ⟨c.toNat.toUInt8, rest.map fun c => c.toNat.toUInt8, by simp [digitBytes, digits], ?_⟩
      omega

/-! ## Scanning digits -/

/-- Digits are scanned from the left, one at a time, so a scan of two runs is the scan of
the second run from where the first ended. -/
theorem scanDigits_append
    (base : Nat)
    (underscores : Bool)
    (acc : Nat)
    (xs ys : List UInt8) :
    scanDigits base underscores acc (xs ++ ys) =
      (scanDigits base underscores acc xs).bind (scanDigits base underscores · ys) := by
  induction xs generalizing acc with
  | nil => rfl
  | cons b rest ih =>
      simp only [List.cons_append, scanDigits]
      split
      · exact ih acc
      · split
        · split
          · split
            · rfl
            · exact ih _
          · rfl
        · rfl

/-- The digits of a number below the unsigned bound scan to that number. -/
theorem scanDigits_digitBytes
    (n : Nat)
    (fits : n ≤ unsignedMax) :
    scanDigits 10 false 0 (digitBytes n) = .ok n := by
  induction n using Nat.strong_induction_on with
  | _ n ih =>
      rcases Nat.lt_or_ge n 10 with small | large
      · rw [digitBytes, Nat.toDigits_of_lt_base small]
        have bounded : n ≤ unsignedMax := fits
        simp [scanDigits, digitValue_digitChar small, small]
        omega
      · have front : scanDigits 10 false 0 (digitBytes (n / 10)) = .ok (n / 10) :=
          ih (n / 10) (by omega) (by unfold unsignedMax at fits ⊢; omega)
        have last : n % 10 < 10 := Nat.mod_lt n (by decide)
        rw [digitBytes, Nat.toDigits_of_base_le (by decide) large, List.map_append,
          scanDigits_append, ← digitBytes, front]
        have recombined : n / 10 * 10 + n % 10 = n := by omega
        simp only [Except.bind, List.map_cons, List.map_nil]
        rw [scanDigits, digitValue_digitChar last]
        simp [last, recombined, Nat.not_lt.mpr fits, scanDigits]

/-! ## Signed values -/

/-- The signed reader with base ten reads the decimal text of every value back. -/
theorem parseSigned_encode_decimal (v : Int64) :
    parseSigned (.fixed 10) (Text.Utf8.encode (decimal v)) = .ok v := by
  have upper := v.toInt_lt
  have lower := v.le_toInt
  have back : Int64.ofInt v.toInt = v := v.ofInt_toInt
  rw [decimal]
  cases value : v.toInt with
  | ofNat m =>
      rw [value, Int.ofNat_eq_natCast] at upper back
      change parseSigned (.fixed 10) (Text.Utf8.encode (Nat.repr m)) = .ok v
      rw [encode_repr]
      obtain ⟨b, rest, bytes, low, high⟩ := digitBytes_head m
      have scanned := scanDigits_digitBytes m (by unfold unsignedMax; omega)
      rw [bytes] at scanned ⊢
      have plus : b ≠ 43 := by
        intro equal
        subst equal
        simp at low
      have minus : b ≠ 45 := by
        intro equal
        subst equal
        simp at low
      simp [parseSigned, readUnsigned, plus, minus, scanned]
      rw [if_neg (by omega), ← back]
  | negSucc m =>
      rw [value] at lower back
      change parseSigned (.fixed 10) (Text.Utf8.encode ("-" ++ Nat.repr (m + 1))) = .ok v
      have split : Text.Utf8.encode ("-" ++ Nat.repr (m + 1)) = 45 :: digitBytes (m + 1) := by
        rw [← encode_repr]
        simp [Text.Utf8.encode, String.toList_append, Text.Utf8.encodeChar]
      have scanned := scanDigits_digitBytes (m + 1) (by unfold unsignedMax; omega)
      obtain ⟨b, rest, bytes, -, -⟩ := digitBytes_head (m + 1)
      rw [split, bytes]
      rw [bytes] at scanned
      have inside : ¬ m + 1 > 9223372036854775808 := by omega
      simp only [parseSigned, readUnsigned, List.isEmpty_cons, Bool.false_eq_true, ↓reduceIte,
        scanned, inside]
      rw [← back]
      rfl

/-- No colon stands in decimal text. -/
theorem colon_not_mem_decimal (v : Int64) : ':' ∉ (decimal v).toList := by
  intro member
  rw [decimal] at member
  cases value : v.toInt with
  | ofNat m =>
      rw [value] at member
      change ':' ∈ (Nat.repr m).toList at member
      rw [Nat.toList_repr] at member
      have digit := Nat.isDigit_of_mem_toDigits (by decide) (by decide) member
      simp at digit
  | negSucc m =>
      rw [value] at member
      change ':' ∈ ("-" ++ Nat.repr (m + 1)).toList at member
      rw [String.toList_append, Nat.toList_repr] at member
      simp only [List.mem_append] at member
      rcases member with sign | member
      · simp at sign
      · have digit := Nat.isDigit_of_mem_toDigits (by decide) (by decide) member
        simp at digit

end Numeral
end Tallykeeper
