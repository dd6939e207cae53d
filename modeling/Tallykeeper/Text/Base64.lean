/-!
# Base64

The standard base64 alphabet with `=` padding. Line breaks (carriage return, line feed)
in the text are ignored; the rest must be whole groups of four characters, padding only
at the end of the last group.
-/

namespace Tallykeeper
namespace Text
namespace Base64

/-- The value of a character of the alphabet. -/
def digit (c : Char) : Option Nat :=
  if 'A' ≤ c && c ≤ 'Z' then some (c.toNat - 'A'.toNat)
  else if 'a' ≤ c && c ≤ 'z' then some (c.toNat - 'a'.toNat + 26)
  else if '0' ≤ c && c ≤ '9' then some (c.toNat - '0'.toNat + 52)
  else if c == '+' then some 62
  else if c == '/' then some 63
  else none

/-- The bytes of one group of four characters; `last` allows padding. -/
def group (last : Bool) : List Char → Option (List UInt8)
  | [a, b, '=', '='] =>
    if !last then none
    else do
      let x ← digit a
      let y ← digit b
      some [((x * 4 + y / 16) % 256).toUInt8]
  | [a, b, c, '='] =>
    if !last then none
    else do
      let x ← digit a
      let y ← digit b
      let z ← digit c
      some [((x * 4 + y / 16) % 256).toUInt8, ((y * 16 + z / 4) % 256).toUInt8]
  | [a, b, c, d] => do
    let x ← digit a
    let y ← digit b
    let z ← digit c
    let w ← digit d
    some [((x * 4 + y / 16) % 256).toUInt8, ((y * 16 + z / 4) % 256).toUInt8,
      ((z * 64 + w) % 256).toUInt8]
  | _ => none

/-- Decodes groups of four characters. -/
def groups : List Char → Option (List UInt8)
  | [] => some []
  | a :: b :: c :: d :: rest => do
    let here ← group rest.isEmpty [a, b, c, d]
    let more ← groups rest
    some (here ++ more)
  | _ => none

/-- Decodes a base64 text, none when it is not one. -/
def decode (s : String) : Option (List UInt8) :=
  groups (s.toList.filter fun c => c != '\r' && c != '\n')

end Base64
end Text
end Tallykeeper
