/-!
# UTF-8 byte strings

A byte string is read as UTF-8 one piece at a time. A piece is either a well-formed
scalar value, or a single stray byte that starts no well-formed sequence: the reading
then goes on with the byte after it. The well-formed sequences are those of RFC 3629:
no overlong forms, no surrogates, nothing above U+10FFFF.

The lossy text of a byte string replaces every stray byte by U+FFFD.

Names are byte strings (`ByteString`): they are compared byte by byte, and read as
runes only where a check counts or classifies characters, each stray byte then reading as
U+FFFD, as a rune decoder reads it.
-/

namespace Tallykeeper
namespace Text

/-- One piece of a UTF-8 reading: a scalar value, or a byte that starts none. -/
inductive Utf8Piece
  | scalar (c : Char)
  | stray (b : UInt8)
  deriving DecidableEq, Repr

/-- The character a piece shows in a lossy text. -/
def Utf8Piece.shown : Utf8Piece → Char
  | .scalar c => c
  | .stray _ => '\uFFFD'

namespace Utf8

/-- A continuation byte, `10xxxxxx`. -/
def isTail (b : UInt8) : Bool :=
  0x80 ≤ b && b ≤ 0xBF

/-- The payload bits of a continuation byte. -/
def tailBits (b : UInt8) : Nat :=
  b.toNat % 64

/-- The range the second byte must lie in after a given lead byte. -/
def secondRange (lead : UInt8) : UInt8 × UInt8 :=
  if lead = 0xE0 then (0xA0, 0xBF)
  else if lead = 0xED then (0x80, 0x9F)
  else if lead = 0xF0 then (0x90, 0xBF)
  else if lead = 0xF4 then (0x80, 0x8F)
  else (0x80, 0xBF)

/-- The number of continuation bytes a lead byte asks for, or none for a byte that
leads no sequence. -/
def tailCount (lead : UInt8) : Option Nat :=
  if lead < 0x80 then some 0
  else if 0xC2 ≤ lead && lead ≤ 0xDF then some 1
  else if 0xE0 ≤ lead && lead ≤ 0xEF then some 2
  else if 0xF0 ≤ lead && lead ≤ 0xF4 then some 3
  else none

/-- The value of a lead byte's payload bits when it asks for `n` continuation bytes. -/
def leadBits (lead : UInt8) (n : Nat) : Nat :=
  match n with
  | 0 => lead.toNat
  | 1 => lead.toNat % 32
  | 2 => lead.toNat % 16
  | _ => lead.toNat % 8

/-- Whether the continuation bytes after `lead` are well formed. -/
def tailsFit (lead : UInt8) : List UInt8 → Bool
  | [] => true
  | b :: rest =>
    let r := secondRange lead
    r.1 ≤ b && b ≤ r.2 && rest.all isTail

/-- The scalar value at the front of a byte string with the number of continuation
bytes it used, or none when the first byte is stray. -/
def scalarAt (lead : UInt8) (rest : List UInt8) : Option (Char × Nat) :=
  match tailCount lead with
  | none => none
  | some n =>
    let tails := rest.take n
    if tails.length = n && tailsFit lead tails then
      some (Char.ofNat (tails.foldl (fun acc b => acc * 64 + tailBits b) (leadBits lead n)), n)
    else none

/-- The pieces of a byte string, in order. -/
def pieces : List UInt8 → List Utf8Piece
  | [] => []
  | lead :: rest =>
    match scalarAt lead rest with
    | some (c, n) => .scalar c :: pieces (rest.drop n)
    | none => .stray lead :: pieces rest
termination_by bs => bs.length
decreasing_by
  all_goals simp only [List.length_drop, List.length_cons]
  all_goals omega

/-- The text of a byte string, with every stray byte shown as U+FFFD. -/
def lossy (bs : List UInt8) : String :=
  String.ofList ((pieces bs).map Utf8Piece.shown)

/-- The UTF-8 bytes of one character. -/
def encodeChar (c : Char) : List UInt8 :=
  let n := c.toNat
  if n < 0x80 then [n.toUInt8]
  else if n < 0x800 then [(0xC0 + n / 64).toUInt8, (0x80 + n % 64).toUInt8]
  else if n < 0x10000 then
    [(0xE0 + n / 4096).toUInt8, (0x80 + n / 64 % 64).toUInt8, (0x80 + n % 64).toUInt8]
  else
    [(0xF0 + n / 262144).toUInt8, (0x80 + n / 4096 % 64).toUInt8,
      (0x80 + n / 64 % 64).toUInt8, (0x80 + n % 64).toUInt8]

/-- The UTF-8 bytes of a text. -/
def encode (s : String) : List UInt8 :=
  s.toList.flatMap encodeChar

end Utf8

/-- A byte string, compared byte by byte; it is read as text only to be checked or shown. -/
structure ByteString where
  bytes : List UInt8
  deriving DecidableEq, Repr

namespace ByteString

/-- The UTF-8 bytes of a text. -/
def ofString (s : String) : ByteString :=
  ⟨Utf8.encode s⟩

/-- The runes of a byte string, read one piece at a time, a stray byte as U+FFFD. -/
def runes (b : ByteString) : List Char :=
  (Utf8.pieces b.bytes).map Utf8Piece.shown

/-- The text of a byte string, with every stray byte shown as U+FFFD. -/
def text (b : ByteString) : String :=
  Utf8.lossy b.bytes

/-- The empty byte string. -/
def empty : ByteString :=
  ⟨[]⟩

end ByteString

end Text
end Tallykeeper
