import Tallykeeper.Fault
import Tallykeeper.Numeral.Integer
import Tallykeeper.Text.Fold

/-!
# Value codecs

Counter values are stored as byte strings under a value codec. Codecs are numbered
0 to 255: number 1 is the binary codec and every other number writes decimal text, number
0 being the named decimal codec.

The binary form of a value is the shortest big-endian two's-complement byte string
whose sign extension is the value: a leading `00` is dropped while the next byte's top bit
is clear, a leading `ff` while it is set. Reading accepts any one to eight bytes and sign
extends them, so forms that are not the shortest read too.
-/

namespace Tallykeeper

/-- A value codec, by number. -/
structure ValueCodec where
  code : UInt8
  deriving DecidableEq, Repr

namespace ValueCodec

/-- Decimal text, the codec a store can increment natively. -/
def decimal : ValueCodec := ⟨0⟩

/-- Shortest big-endian two's complement. -/
def binary : ValueCodec := ⟨1⟩

/-- The name of a codec; numbers without a codec of their own are `unknown`. -/
def name (c : ValueCodec) : String :=
  if c.code = 0 then "decimal" else if c.code = 1 then "binary" else "unknown"

/-- Whether a store holding this codec's bytes can increment them itself. -/
def native (c : ValueCodec) : Bool :=
  c.code = 0

/-- The codec with a name, matched caselessly. -/
def ofName (name : String) : Except Fault ValueCodec :=
  if Text.Fold.matchesWord name "decimal" then .ok decimal
  else if Text.Fold.matchesWord name "binary" then .ok binary
  else .error (.wrap .invalidCodec ("unknown codec '" ++ name ++ "'"))

/-- Drops leading sign bytes that the next byte repeats. -/
def trimSign : List UInt8 → List UInt8
  | b0 :: b1 :: rest =>
    if (b0 == 0x00 && b1 < 0x80) || (b0 == 0xFF && b1 ≥ 0x80) then trimSign (b1 :: rest)
    else b0 :: b1 :: rest
  | bs => bs

/-- The eight big-endian bytes of a value. -/
def wordBytes (v : Int64) : List UInt8 :=
  (List.range 8).reverse.map fun i => (v.toUInt64 >>> (8 * i).toUInt64).toUInt8

/-- The shortest two's-complement bytes of a value. -/
def encodeBinary (v : Int64) : List UInt8 :=
  trimSign (wordBytes v)

/-- The sign extension of one to eight bytes. -/
def signExtend (bs : List UInt8) : Int :=
  let start : Int := match bs with
    | b :: _ => if b ≥ 0x80 then -1 else 0
    | [] => 0
  bs.foldl (fun acc b => acc * 256 + b.toNat) start

/-- Reads binary bytes: one to eight of them, sign extended. -/
def decodeBinary (bs : List UInt8) : Except Fault Int64 :=
  if bs.length = 0 || bs.length > 8 then
    .error (.wrap .valueCodec ("binary value of " ++ toString bs.length ++ " bytes"))
  else .ok (Int64.ofInt (signExtend bs))

/-- Writes a value under a codec. -/
def encode (c : ValueCodec) (v : Int64) : List UInt8 :=
  if c.code = 1 then encodeBinary v else Text.Utf8.encode (Numeral.decimal v)

/-- Reads a value under a codec. -/
def decode (c : ValueCodec) (bs : List UInt8) : Except Fault Int64 :=
  if c.code = 1 then decodeBinary bs
  else match Numeral.parseSigned (.fixed 10) bs with
    | .ok v => .ok v
    | .error r =>
      .error (.wrap .valueCodec ("decimal '" ++ Text.Utf8.lossy bs ++ "': " ++ r.message))

end ValueCodec

end Tallykeeper
