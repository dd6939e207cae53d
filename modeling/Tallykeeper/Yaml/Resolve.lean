import Tallykeeper.Numeral.Integer
import Tallykeeper.Numeral.Decimal
import Tallykeeper.Yaml.Timestamp
import Tallykeeper.Yaml.Token

/-!
# Resolving scalars

A scalar with no tag gets one from its text: `~`, `null` and the empty text are null,
`true` and `false` (in three spellings each) are booleans, integers may have a sign, a
base prefix (`0x`, `0o`, `0b`, or a lone leading `0` for octal) and underscores, decimal
numerals and `.inf`/`.nan` are floats, dates are timestamps, and everything else is a
string. Integers that do not fit 64 signed bits but fit 64 unsigned bits stay integers;
larger ones read as floats.

A text that starts with a sign or a digit is read with its underscores dropped. After a
`0b` or `0o` prefix the digits may carry a sign of their own (`0b-1` is -1). A text that
starts with a point is a float numeral whose digits may be grouped by underscores, each
standing between two digits (`.5_0` is 0.5).

An explicit tag of a known kind must agree with the text, except that an integer may be
tagged as a float. Tags are written short: `tag:yaml.org,2002:int` is `!!int`.
-/

namespace Tallykeeper
namespace Yaml

/-- The short form of a tag. -/
def shortTag (t : String) : String :=
  if t.startsWith standardPrefix then "!!" ++ (t.drop standardPrefix.length).toString else t

/-- The value a scalar resolves to. -/
inductive Resolved
  | null
  | bool (b : Bool)
  /-- An integer in the signed 64-bit range. -/
  | int (v : Int)
  /-- An integer above the signed 64-bit range and within the unsigned one. -/
  | uint (v : Nat)
  | float (f : Float)
  | timestamp
  | text (s : String)
  deriving Repr, Inhabited

/-- The kind of value the first character of a text hints at: `S` a sign, `D` a digit,
`M` a word of the fixed table, `.` a float, `N` the empty text; none for anything
else. -/
def hintOf (s : String) : Option Char :=
  match s.toList with
  | [] => some 'N'
  | c :: _ =>
    if c == '+' || c == '-' then some 'S'
    else if c.isDigit then some 'D'
    else if "yYnNtTfFoO~".contains c then some 'M'
    else if c == '.' then some '.'
    else none

/-- The texts with a fixed resolution. -/
def fixedWord (s : String) : Option (String × Resolved) :=
  if s == "true" || s == "True" || s == "TRUE" then some ("!!bool", .bool true)
  else if s == "false" || s == "False" || s == "FALSE" then some ("!!bool", .bool false)
  else if s == "" || s == "~" || s == "null" || s == "Null" || s == "NULL" then some ("!!null", .null)
  else if s == ".nan" || s == ".NaN" || s == ".NAN" then some ("!!float", .float (0.0 / 0.0))
  else if s == ".inf" || s == ".Inf" || s == ".INF" || s == "+.inf" || s == "+.Inf" || s == "+.INF" then
    some ("!!float", .float (1.0 / 0.0))
  else if s == "-.inf" || s == "-.Inf" || s == "-.INF" then some ("!!float", .float (-1.0 / 0.0))
  else none

/-- Reads an integer under the prefix rule: signed 64-bit first, then unsigned. -/
def readInteger (s : String) : Option Resolved :=
  let bytes := Text.Utf8.encode s
  match Numeral.parseSigned .prefixed bytes with
  | .ok v => some (.int v.toInt)
  | .error _ =>
    match Numeral.parseUnsigned .prefixed bytes with
    | .ok v => some (.uint v.toNat)
    | .error _ => none

/-- Reads the digits after a `0b` or `0o` prefix in a fixed base, with a sign of their
own allowed: signed 64-bit first, then unsigned. -/
def readAfterPrefix (base : Nat) (digits : String) : Option Resolved :=
  let bytes := Text.Utf8.encode digits
  match Numeral.parseSigned (.fixed base) bytes with
  | .ok v => some (.int v.toInt)
  | .error _ =>
    match Numeral.parseUnsigned (.fixed base) bytes with
    | .ok v => some (.uint v.toNat)
    | .error _ => none

/-- Reads a negative numeral written with its sign before a `0b` or `0o` prefix, the
digits after the prefix read in a fixed base; signed 64-bit only. -/
def readNegatedAfterPrefix (base : Nat) (digits : String) : Option Resolved :=
  match Numeral.parseSigned (.fixed base) (Text.Utf8.encode ("-" ++ digits)) with
  | .ok v => some (.int v.toInt)
  | .error _ => none

/-- Reads a binary or octal numeral whose sign may follow its prefix. -/
def readPrefixed (plain : String) : Option Resolved :=
  let binary :=
    if plain.startsWith "0b" then readAfterPrefix 2 (plain.drop 2).toString
    else if plain.startsWith "-0b" then readNegatedAfterPrefix 2 (plain.drop 3).toString
    else none
  match binary with
  | some r => some r
  | none =>
    if plain.startsWith "0o" then readAfterPrefix 8 (plain.drop 2).toString
    else if plain.startsWith "-0o" then readNegatedAfterPrefix 8 (plain.drop 3).toString
    else none

/-- Reads a float numeral whose digits may be grouped by underscores, each standing
between two digits: a misplaced underscore makes it no numeral. -/
def readGroupedFloat (s : String) : Option Float :=
  if Numeral.underscoresFit (Text.Utf8.encode s) then
    Numeral.readDecimalFloat (String.ofList (s.toList.filter (· != '_')))
  else none

/-- Resolves a text that starts with a sign or a digit. -/
def resolveNumeric (tag value : String) : Option (String × Resolved) :=
  if (tag == "" || tag == "!!timestamp") && Timestamp.isTimestamp value then
    some ("!!timestamp", .timestamp)
  else
    let plain := String.ofList (value.toList.filter (· != '_'))
    match readInteger plain with
    | some r => some ("!!int", r)
    | none =>
      match Numeral.readDecimalFloat plain with
      | some f => some ("!!float", .float f)
      | none => (readPrefixed plain).map fun r => ("!!int", r)

/-- The tag and value a text resolves to under a tag that is empty or of a known kind. -/
def resolvePlain (tag value : String) : String × Resolved :=
  let found : Option (String × Resolved) :=
    match hintOf value with
    | none => none
    | some hint =>
      if tag == "!!str" || tag == "!!binary" then none
      else
        match fixedWord value with
        | some r => some r
        | none =>
          if hint == '.' then (readGroupedFloat value).map fun f => ("!!float", .float f)
          else if hint == 'S' || hint == 'D' then resolveNumeric tag value
          else none
  found.getD ("!!str", .text value)

/-- Whether values under a tag are resolved from their text. -/
def resolvable (tag : String) : Bool :=
  ["", "!!str", "!!bool", "!!int", "!!float", "!!null", "!!timestamp"].contains tag

/-- The tag and value of a scalar with a given tag, or the message when the text does
not fit the tag. -/
def resolve (tag value : String) : Except String (String × Resolved) :=
  let t := shortTag tag
  if !resolvable t then .ok (t, .text value)
  else
    let (rtag, out) := resolvePlain t value
    if t == "" || t == rtag || t == "!!str" || t == "!!binary" then .ok (rtag, out)
    else
      match t, rtag, out with
      | "!!float", "!!int", .int v => .ok ("!!float", .float (Float.ofInt v))
      | _, _, _ =>
        .error ("cannot decode " ++ rtag ++ " " ++ String.singleton (Char.ofNat 96) ++ value ++
          String.singleton (Char.ofNat 96) ++ " as a " ++ t)

end Yaml
end Tallykeeper
