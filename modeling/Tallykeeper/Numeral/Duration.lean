import Tallykeeper.Text.Utf8

/-!
# Durations

A duration is written as an optional sign and one or more terms, each a decimal number
with an optional fraction followed by a unit: `ns`, `us` (or `µs`, `μs`), `ms`, `s`, `m`,
`h`. The lone text `0` (after the sign) is zero. The value is counted in nanoseconds and
must fit the signed 64-bit range.

Integer parts are exact; a fraction is scaled by the unit in binary floating point and
truncated, as the digits after the point can be more than an exact computation needs.
Refused texts are quoted with every byte outside printable ASCII written as `\xNN`.
-/

namespace Tallykeeper
namespace Numeral

/-- The nanoseconds of a unit. -/
def unitNanos (u : List UInt8) : Option Nat :=
  if u = [110, 115] then some 1
  else if u = [117, 115] || u = [0xC2, 0xB5, 115] || u = [0xCE, 0xBC, 115] then some 1000
  else if u = [109, 115] then some 1000000
  else if u = [115] then some 1000000000
  else if u = [109] then some 60000000000
  else if u = [104] then some 3600000000000
  else none

/-- The quoted form of a text in duration messages. -/
def quoteDuration (s : String) : String :=
  let hex := fun (n : Nat) => "0123456789abcdef".toList.getD n '0'
  let body := s.toList.flatMap fun c =>
    if c.toNat ≥ 0x80 || c.toNat < 0x20 then
      (Text.Utf8.encodeChar c).flatMap fun b => ['\\', 'x', hex (b.toNat / 16), hex (b.toNat % 16)]
    else if c = '"' || c = '\\' then ['\\', c]
    else [c]
  String.ofList ('"' :: body ++ ['"'])

/-- The bound every partial sum must stay below or at: two to the 63rd. -/
def durationBound : Nat := 9223372036854775808

/-- An ASCII digit. -/
def isDigitByte (b : UInt8) : Bool := 48 ≤ b && b ≤ 57

/-- Reads leading digits exactly; none when they pass the bound. -/
def leadingInt : Nat → List UInt8 → Option (Nat × List UInt8)
  | acc, [] => some (acc, [])
  | acc, b :: rest =>
    if isDigitByte b then
      if acc > durationBound / 10 then none
      else
        let x := acc * 10 + (b.toNat - 48)
        if x > durationBound then none else leadingInt x rest
    else some (acc, b :: rest)

/-- Reads the digits of a fraction, keeping the precision that fits and the scale. -/
def leadingFraction : Nat → Float → Bool → List UInt8 → Nat × Float × List UInt8
  | acc, scale, _, [] => (acc, scale, [])
  | acc, scale, overflow, b :: rest =>
    if isDigitByte b then
      if overflow then leadingFraction acc scale true rest
      else if acc > (durationBound - 1) / 10 then leadingFraction acc scale true rest
      else
        let y := acc * 10 + (b.toNat - 48)
        if y > durationBound then leadingFraction acc scale true rest
        else leadingFraction y (scale * 10) false rest
    else (acc, scale, b :: rest)

/-- Why a duration is refused. -/
inductive DurationFlaw
  | invalid
  | missingUnit
  | unknownUnit (u : List UInt8)
  deriving DecidableEq, Repr

/-- Reads the terms of a duration onto a sum, for at most `fuel` terms. -/
def durationTerms : Nat → Nat → List UInt8 → Except DurationFlaw Nat
  | _, sum, [] => .ok sum
  | 0, _, _ => .error .invalid
  | fuel + 1, sum, s@(c :: _) =>
    if !(c == 46 || isDigitByte c) then .error .invalid
    else
      match leadingInt 0 s with
      | none => .error .invalid
      | some (v, afterInt) =>
        let pre := afterInt.length != s.length
        let (f, scale, afterFrac, post) :=
          match afterInt with
          | 46 :: more =>
            let (f, scale, rest) := leadingFraction 0 1 false more
            (f, scale, rest, rest.length != more.length)
          | other => (0, 1, other, false)
        if !pre && !post then .error .invalid
        else
          let unit := afterFrac.takeWhile fun b => !(b == 46 || isDigitByte b)
          let rest := afterFrac.drop unit.length
          if unit.isEmpty then .error .missingUnit
          else match unitNanos unit with
            | none => .error (.unknownUnit unit)
            | some u =>
              if v > durationBound / u then .error .invalid
              else
                let whole := v * u
                let frac := if f > 0 then (Float.ofNat f * (Float.ofNat u / scale)).toUInt64.toNat else 0
                let v' := whole + frac
                if v' > durationBound then .error .invalid
                else
                  let sum' := sum + v'
                  if sum' > durationBound then .error .invalid
                  else durationTerms fuel sum' rest

/-- Reads a duration in nanoseconds, or the message of its refusal. -/
def parseDuration (s : String) : Except String Int64 :=
  let bytes := Text.Utf8.encode s
  let (negative, body) := match bytes with
    | 45 :: rest => (true, rest)
    | 43 :: rest => (false, rest)
    | _ => (false, bytes)
  let invalid := "time: invalid duration " ++ quoteDuration s
  if body = [48] then .ok 0
  else if body.isEmpty then .error invalid
  else
    match durationTerms (body.length + 1) 0 body with
    | .error .invalid => .error invalid
    | .error .missingUnit => .error ("time: missing unit in duration " ++ quoteDuration s)
    | .error (.unknownUnit u) =>
      .error ("time: unknown unit " ++ quoteDuration (Text.Utf8.lossy u) ++ " in duration " ++
        quoteDuration s)
    | .ok d =>
      if negative then .ok (Int64.ofInt (-(d : Int)))
      else if d > durationBound - 1 then .error invalid
      else .ok (Int64.ofInt d)

end Numeral
end Tallykeeper
