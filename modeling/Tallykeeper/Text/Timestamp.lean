/-!
# RFC 3339 timestamps

A clock reading in nanoseconds since the Unix epoch is written in UTC as
`YYYY-MM-DDTHH:MM:SS.fractionZ`, the fraction holding the nanoseconds with trailing zeros
dropped, and left out with its point when there are none. The date is the proleptic
Gregorian date of the day, found by counting eras of 400 years from 1 March of year 0, so
that the leap day ends each counted year.
-/

namespace Tallykeeper
namespace Text
namespace Timestamp

/-- The decimal digits of a number, padded with zeros to a width. -/
def padded (width n : Nat) : String :=
  let digits := Nat.repr n
  String.ofList (List.replicate (width - digits.length) '0') ++ digits

/-- The year, month and day of a day counted from 1970-01-01. -/
def civil (days : Int) : Int × Nat × Nat :=
  let shifted := days + 719468
  let era := shifted / 146097
  let dayOfEra := (shifted - era * 146097).toNat
  let yearOfEra := (dayOfEra - dayOfEra / 1460 + dayOfEra / 36524 - dayOfEra / 146096) / 365
  -- the day and the month counted from 1 March
  let dayOfYear := dayOfEra - (365 * yearOfEra + yearOfEra / 4 - yearOfEra / 100)
  let monthFromMarch := (5 * dayOfYear + 2) / 153
  let day := dayOfYear - (153 * monthFromMarch + 2) / 5 + 1
  let month := if monthFromMarch < 10 then monthFromMarch + 3 else monthFromMarch - 9
  ((yearOfEra : Int) + era * 400 + (if month ≤ 2 then 1 else 0), month, day)

/-- The fraction of a second of a nanosecond count below a second: a point and its digits
without trailing zeros, or nothing for none. -/
def fraction (nanos : Nat) : String :=
  if nanos = 0 then ""
  else "." ++ String.ofList ((padded 9 nanos).toList.reverse.dropWhile (· = '0')).reverse

/-- A clock reading in RFC 3339 form, in UTC, to the nanosecond. -/
def rfc3339 (ns : Int64) : String :=
  let seconds := ns.toInt / 1000000000
  let nanos := (ns.toInt % 1000000000).toNat
  let secondOfDay := (seconds % 86400).toNat
  let (year, month, day) := civil (seconds / 86400)
  padded 4 year.toNat ++ "-" ++ padded 2 month ++ "-" ++ padded 2 day ++ "T" ++
    padded 2 (secondOfDay / 3600) ++ ":" ++ padded 2 (secondOfDay / 60 % 60) ++ ":" ++
    padded 2 (secondOfDay % 60) ++ fraction nanos ++ "Z"

example : rfc3339 0 = "1970-01-01T00:00:00Z" := by decide

example : rfc3339 (-1) = "1969-12-31T23:59:59.999999999Z" := by decide

example : rfc3339 951782400120000000 = "2000-02-29T00:00:00.12Z" := by decide

end Timestamp
end Text
end Tallykeeper
