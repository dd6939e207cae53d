import Tallykeeper.Text.Quoted

/-!
# Integer numerals

Integer numerals are read from byte strings. A numeral is refused as invalid
at the first byte that is no digit of its base, and with a range flaw at the first digit
that takes the value past the bound, whichever comes first from the left: a run of too
many digits is out of range even when a bad byte follows it.

Signed numerals take an optional `+` or `-` and must lie in the 64-bit signed range;
unsigned numerals must lie below 2^64. Under the prefix rule a numeral may start with
`0b`, `0o` or `0x` (in either case) to pick base 2, 8 or 16, a lone leading `0` picks base
8, and underscores may separate digits.
-/

namespace Tallykeeper
namespace Numeral

/-- Why a numeral is refused. -/
inductive Flaw
  | invalid
  | range
  deriving DecidableEq, Repr

/-- The reader that refused a numeral, as the message names it. -/
inductive Reader
  | signed
  | unsigned
  | boolean
  deriving DecidableEq, Repr

/-- A refused numeral: the reader, the text as it was given, and the flaw. -/
structure Refusal where
  reader : Reader
  text : List UInt8
  flaw : Flaw
  deriving DecidableEq, Repr

/-- The name of a reader in messages. -/
def Reader.name : Reader → String
  | .signed => "ParseInt"
  | .unsigned => "ParseUint"
  | .boolean => "ParseBool"

/-- The words for a flaw in messages. -/
def Flaw.words : Flaw → String
  | .invalid => "invalid syntax"
  | .range => "value out of range"

/-- The message of a refusal, quoting the text it refused. -/
def Refusal.message (r : Refusal) : String :=
  "strconv." ++ r.reader.name ++ ": parsing " ++ Text.Quoted.ofBytes r.text ++ ": " ++
    r.flaw.words

/-- How the base of a numeral is chosen. -/
inductive Radix
  | fixed (base : Nat)
  | prefixed
  deriving DecidableEq, Repr

/-- The largest unsigned 64-bit value. -/
def unsignedMax : Nat := 18446744073709551615

/-- The byte of an ASCII letter in lower case; other bytes map to bytes that are no
letter. -/
def lowerByte (b : UInt8) : UInt8 := b ||| 0x20

/-- The value of a byte as a digit of any base up to 36. -/
def digitValue (b : UInt8) : Option Nat :=
  if 48 ≤ b && b ≤ 57 then some (b.toNat - 48)
  else if 97 ≤ lowerByte b && lowerByte b ≤ 122 then some ((lowerByte b).toNat - 87)
  else none

/-- Reads digits of `base` onto `acc`, skipping underscores when `underscores` holds. It
stops as invalid at the first byte that is no digit of the base, and with a range
flaw at the first digit that takes the value past `unsignedMax`. -/
def scanDigits (base : Nat) (underscores : Bool) : Nat → List UInt8 → Except Flaw Nat
  | acc, [] => .ok acc
  | acc, b :: rest =>
    if underscores && b == 95 then scanDigits base underscores acc rest
    else match digitValue b with
      | some d =>
        if d < base then
          if acc * base + d > unsignedMax then .error .range
          else scanDigits base underscores (acc * base + d) rest
        else .error .invalid
      | none => .error .invalid

/-- Where an underscore may stand: only between two digits (a base prefix counts as a
digit), never first or last. Classes: 0 start, 1 digit, 2 underscore, 3 other. -/
def underscoresPlaced (hex : Bool) : Nat → List UInt8 → Bool
  | seen, [] => seen != 2
  | seen, b :: rest =>
    if (48 ≤ b && b ≤ 57) || (hex && 97 ≤ lowerByte b && lowerByte b ≤ 102) then
      underscoresPlaced hex 1 rest
    else if b == 95 then
      if seen != 1 then false else underscoresPlaced hex 2 rest
    else if seen == 2 then false
    else underscoresPlaced hex 3 rest

/-- Whether the underscores of a numeral under the prefix rule are well placed. -/
def underscoresFit (text : List UInt8) : Bool :=
  let body := match text with
    | b :: rest => if b == 43 || b == 45 then rest else text
    | [] => []
  match body with
  | 48 :: p :: rest =>
    if lowerByte p == 98 || lowerByte p == 111 || lowerByte p == 120 then
      underscoresPlaced (lowerByte p == 120) 1 rest
    else underscoresPlaced false 0 body
  | _ => underscoresPlaced false 0 body

/-- The base and the digits of a numeral under the prefix rule. -/
def splitPrefix (text : List UInt8) : Nat × List UInt8 :=
  match text with
  | 48 :: p :: q :: rest =>
    if lowerByte p == 98 then (2, q :: rest)
    else if lowerByte p == 111 then (8, q :: rest)
    else if lowerByte p == 120 then (16, q :: rest)
    else (8, p :: q :: rest)
  | 48 :: rest => (8, rest)
  | _ => (10, text)

/-- Reads an unsigned numeral below 2^64, reporting only the flaw. -/
def readUnsigned (radix : Radix) (text : List UInt8) : Except Flaw Nat :=
  if text.isEmpty then .error .invalid
  else match radix with
    | .fixed base => scanDigits base false 0 text
    | .prefixed =>
      let (base, digits) := splitPrefix text
      match scanDigits base true 0 digits with
      | .error f => .error f
      | .ok n =>
        if digits.contains 95 && !underscoresFit text then .error .invalid else .ok n

/-- Reads an unsigned 64-bit numeral. -/
def parseUnsigned (radix : Radix) (text : List UInt8) : Except Refusal UInt64 :=
  match readUnsigned radix text with
  | .ok n => .ok n.toUInt64
  | .error f => .error ⟨.unsigned, text, f⟩

/-- Reads a signed 64-bit numeral with an optional sign. -/
def parseSigned (radix : Radix) (text : List UInt8) : Except Refusal Int64 :=
  let (negative, digits) := match text with
    | 43 :: rest => (false, rest)
    | 45 :: rest => (true, rest)
    | _ => (false, text)
  if text.isEmpty then .error ⟨.signed, text, .invalid⟩
  else match readUnsigned radix digits with
    | .error f => .error ⟨.signed, text, f⟩
    | .ok n =>
      if negative then
        if n > 9223372036854775808 then .error ⟨.signed, text, .range⟩ else .ok (Int64.ofInt (-(n : Int)))
      else
        if n ≥ 9223372036854775808 then .error ⟨.signed, text, .range⟩ else .ok (Int64.ofInt n)

/-- Reads a signed decimal numeral from a text. -/
def parseDecimal (s : String) : Except Refusal Int64 :=
  parseSigned (.fixed 10) (Text.Utf8.encode s)

/-- Reads a truth value: `1 t T TRUE true True` or `0 f F FALSE false False`. -/
def parseBool (s : String) : Except Refusal Bool :=
  if ["1", "t", "T", "TRUE", "true", "True"].contains s then .ok true
  else if ["0", "f", "F", "FALSE", "false", "False"].contains s then .ok false
  else .error ⟨.boolean, Text.Utf8.encode s, .invalid⟩

/-- The decimal text of a signed 64-bit value. -/
def decimal (n : Int64) : String :=
  toString n.toInt

end Numeral
end Tallykeeper
