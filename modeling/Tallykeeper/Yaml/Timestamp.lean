/-!
# Timestamps

A plain scalar that reads as a timestamp is tagged `!!timestamp`. The forms read are a
date `YYYY-M-D` with a one- or two-digit month and day, alone or followed by a time
`h:m:s` (one or two digits each) with an optional fraction after `.` or `,`: after `T`
or `t` the time must end in a zone, `Z` or `±hh:mm`; after spaces it has no zone.

The month lies in 1 to 12, the day in the days of that month (leap years counted), the
hour below 24, minutes and seconds below 60, and a zone at most 24 hours and 60 minutes.
-/

namespace Tallykeeper
namespace Yaml
namespace Timestamp

/-- One or two leading ASCII digits and their value. -/
def number12 : List Char → Option (Nat × List Char)
  | a :: b :: rest =>
    if a.isDigit then
      if b.isDigit then some ((a.toNat - 48) * 10 + (b.toNat - 48), rest)
      else some (a.toNat - 48, b :: rest)
    else none
  | [a] => if a.isDigit then some (a.toNat - 48, []) else none
  | [] => none

/-- Exactly two ASCII digits and their value. -/
def number2 : List Char → Option Nat
  | [a, b] => if a.isDigit && b.isDigit then some ((a.toNat - 48) * 10 + (b.toNat - 48)) else none
  | _ => none

/-- Whether a year is a leap year. -/
def isLeap (y : Nat) : Bool := y % 4 == 0 && (y % 100 != 0 || y % 400 == 0)

/-- The number of days of a month, from 1 to 12. -/
def daysIn (month year : Nat) : Nat :=
  match month with
  | 2 => if isLeap year then 29 else 28
  | 4 | 6 | 9 | 11 => 30
  | _ => 31

/-- Reads `YYYY-M-D`, answering the rest when the date is valid. -/
def readDate (cs : List Char) : Option (List Char) :=
  match cs with
  | y0 :: y1 :: y2 :: y3 :: '-' :: rest =>
    if !(y0.isDigit && y1.isDigit && y2.isDigit && y3.isDigit) then none
    else
      let year := (y0.toNat - 48) * 1000 + (y1.toNat - 48) * 100 + (y2.toNat - 48) * 10 + (y3.toNat - 48)
      match number12 rest with
      | some (month, '-' :: more) =>
        match number12 more with
        | some (day, after) =>
          if 1 ≤ month && month ≤ 12 && 1 ≤ day && day ≤ daysIn month year then some after
          else none
        | none => none
      | _ => none
  | _ => none

/-- Drops an optional fraction: `.` or `,` followed by at least one digit, then digits. -/
def dropFraction : List Char → List Char
  | c :: d :: rest =>
    if (c == '.' || c == ',') && d.isDigit then rest.dropWhile Char.isDigit else c :: d :: rest
  | cs => cs

/-- Reads `h:m:s` with an optional fraction, answering the rest when the time is valid. -/
def readTime (cs : List Char) : Option (List Char) :=
  match number12 cs with
  | some (h, ':' :: r1) =>
    match number12 r1 with
    | some (m, ':' :: r2) =>
      match number12 r2 with
      | some (s, r3) => if h < 24 && m < 60 && s < 60 then some (dropFraction r3) else none
      | none => none
    | _ => none
  | _ => none

/-- Whether a text is exactly a zone: `Z`, or a sign, two digits, `:` and two digits. -/
def isZone : List Char → Bool
  | ['Z'] => true
  | [sign, h0, h1, ':', m0, m1] =>
    (sign == '+' || sign == '-') &&
      match number2 [h0, h1], number2 [m0, m1] with
      | some h, some m => h ≤ 24 && m ≤ 60
      | _, _ => false
  | _ => false

/-- Whether a text reads as a timestamp. -/
def isTimestamp (s : String) : Bool :=
  match readDate s.toList with
  | none => false
  | some [] => true
  | some (sep :: rest) =>
    if sep == 'T' || sep == 't' then
      match readTime rest with
      | some zone => isZone zone
      | none => false
    else if sep == ' ' then
      match readTime (rest.dropWhile (· == ' ')) with
      | some [] => true
      | _ => false
    else false

end Timestamp
end Yaml
end Tallykeeper
