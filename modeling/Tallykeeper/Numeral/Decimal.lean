/-!
# Decimal floating-point numerals

A decimal numeral is an optional sign, digits with an optional fraction (or a fraction
alone), and an optional exponent: `[-+]?(\.[0-9]+|[0-9]+(\.[0-9]*)?)([eE][-+]?[0-9]+)?`.
Its value is the nearest double; a numeral whose value lies beyond the largest double is
out of range and has none, while one below the smallest goes to zero.
-/

namespace Tallykeeper
namespace Numeral

/-- The parts of a decimal numeral: whether it is negative, its digits as one number,
and the power of ten they are scaled by. -/
structure DecimalParts where
  negative : Bool
  digits : Nat
  /-- The number of digits, leading zeros included. -/
  count : Nat
  exponent : Int
  deriving DecidableEq, Repr

/-- Splits leading ASCII digits off a list of characters. -/
def splitDigits (cs : List Char) : List Char × List Char :=
  (cs.takeWhile Char.isDigit, cs.dropWhile Char.isDigit)

/-- The value of a list of decimal digits. -/
def digitsValue (ds : List Char) : Nat :=
  ds.foldl (fun acc d => acc * 10 + (d.toNat - '0'.toNat)) 0

/-- Reads an exponent `[eE][-+]?[0-9]+` that takes the whole rest. -/
def readExponent : List Char → Option Int
  | [] => some 0
  | e :: rest =>
    if e == 'e' || e == 'E' then
      let (negative, body) := match rest with
        | '-' :: more => (true, more)
        | '+' :: more => (false, more)
        | _ => (false, rest)
      let (ds, tail) := splitDigits body
      if ds.isEmpty || !tail.isEmpty then none
      else
        let v : Int := digitsValue ds
        some (if negative then -v else v)
    else none

/-- The parts of a decimal numeral, if the text is one. -/
def decimalParts (s : String) : Option DecimalParts :=
  let cs := s.toList
  let (negative, body) := match cs with
    | '-' :: rest => (true, rest)
    | '+' :: rest => (false, rest)
    | _ => (false, cs)
  let (whole, afterWhole) := splitDigits body
  let (frac, afterFrac, hasPoint) := match afterWhole with
    | '.' :: rest =>
      let (f, t) := splitDigits rest
      (f, t, true)
    | other => ([], other, false)
  let wellFormed := if whole.isEmpty then hasPoint && !frac.isEmpty else true
  if !wellFormed then none
  else
    match readExponent afterFrac with
    | none => none
    | some e =>
      some { negative, digits := digitsValue (whole ++ frac), count := whole.length + frac.length,
             exponent := e - frac.length }

/-- The nearest double of parts, none when it lies beyond the largest double. -/
def DecimalParts.toFloat (p : DecimalParts) : Option Float :=
  let signed := fun (f : Float) => if p.negative then -f else f
  let magnitude := p.exponent + (toString p.digits).length
  if p.digits = 0 then some (signed 0)
  else if magnitude > 310 then none
  else if magnitude < -330 then some (signed 0)
  else
    let f :=
      if p.exponent ≥ 0 then Float.ofScientific p.digits false p.exponent.toNat
      else Float.ofScientific p.digits true (-p.exponent).toNat
    if f.isInf then none else some (signed f)

/-- The nearest double of a decimal numeral, none when the text is not one or its value
is out of range. -/
def readDecimalFloat (s : String) : Option Float :=
  (decimalParts s).bind DecimalParts.toFloat

end Numeral
end Tallykeeper
