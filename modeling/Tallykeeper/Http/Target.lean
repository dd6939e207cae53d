import Tallykeeper.Text.Utf8

/-!
# Request targets

A request target is a path, percent-encoded, optionally followed by `?` and a query. The
path is decoded byte by byte: `%` followed by two hex digits stands for that byte, and a
`%` not followed by two hex digits makes the target unusable.

A path is clean when it has no empty, `.` or `..` segment, except that it may end in a
slash; cleaning removes such segments, a `..` taking the segment before it along (at the
root it is simply dropped), and keeps a final slash.

Writing a path back escapes every byte except letters, digits, `-_.~` and the
separators `$&+,/:;=@`, as `%` and two upper-case hex digits.
-/

namespace Tallykeeper
namespace Http

/-- The value of an ASCII hex digit. -/
def hexValue (b : UInt8) : Option Nat :=
  if 0x30 ≤ b && b ≤ 0x39 then some (b.toNat - 0x30)
  else if 0x61 ≤ b && b ≤ 0x66 then some (b.toNat - 0x57)
  else if 0x41 ≤ b && b ≤ 0x46 then some (b.toNat - 0x37)
  else none

/-- The bytes a percent-encoded path stands for, or none when a `%` is malformed. -/
def percentDecode : List UInt8 → Option (List UInt8)
  | [] => some []
  | c :: rest =>
    if c = 0x25 then
      match rest with
      | a :: b :: more =>
        match hexValue a, hexValue b with
        | some x, some y => (percentDecode more).map fun r => (x * 16 + y).toUInt8 :: r
        | _, _ => none
      | _ => none
    else (percentDecode rest).map (c :: ·)

/-- Whether a byte is written as it is in a path. -/
def keptInPath (b : UInt8) : Bool :=
  (0x61 ≤ b && b ≤ 0x7A) || (0x41 ≤ b && b ≤ 0x5A) || (0x30 ≤ b && b ≤ 0x39) ||
    "-_.~$&+,/:;=@".toList.any (·.toUInt8 = b)

/-- The upper-case hex digit of a number below sixteen. -/
def upperHex (n : Nat) : Char :=
  if n < 10 then Char.ofNat (48 + n) else Char.ofNat (55 + n)

/-- A path written back with its bytes escaped. -/
def escapePath (p : List UInt8) : String :=
  String.ofList (p.flatMap fun b =>
    if keptInPath b then [Char.ofNat b.toNat]
    else ['%', upperHex (b.toNat / 16), upperHex (b.toNat % 16)])

/-- The slash byte. -/
def slash : UInt8 := 0x2F

/-- The segments of a path between slashes. -/
def segments (p : List UInt8) : List (List UInt8) :=
  p.splitOn slash

/-- The segments of a rooted path with empty, `.` and `..` segments resolved. -/
def resolveSegments (segs : List (List UInt8)) : List (List UInt8) :=
  (segs.foldl (fun kept s =>
    if s.isEmpty || s == [0x2E] then kept
    else if s == [0x2E, 0x2E] then kept.drop 1
    else s :: kept) []).reverse

/-- The clean form of a path: rooted, resolved, and ending in a slash when the path did
(unless it is the root itself). -/
def cleanPath (p : List UInt8) : List UInt8 :=
  if p.isEmpty then [slash]
  else
    let rooted := if p.head? = some slash then p else slash :: p
    let body := resolveSegments (segments rooted)
    let clean := slash :: List.intercalate [slash] body
    if rooted.getLast? = some slash && clean != [slash] then clean ++ [slash] else clean

/-- A parsed request target: the decoded path, and what follows it from the `?` on. -/
structure Target where
  path : List UInt8
  suffix : String
  deriving DecidableEq, Repr

/-- Parses a request target, or none when its path is malformed. -/
def Target.parse (raw : String) : Option Target :=
  let (pathPart, rest) := raw.toList.span (· != '?')
  (percentDecode (Text.Utf8.encode (String.ofList pathPart))).map fun path =>
    { path, suffix := String.ofList rest }

/-- A target written back with a given path. -/
def Target.render (t : Target) (path : List UInt8) : String :=
  escapePath path ++ t.suffix

/-- A text made safe for an HTML attribute. -/
def htmlEscape (s : String) : String :=
  String.join (s.toList.map fun c =>
    match c with
    | '&' => "&amp;"
    | '<' => "&lt;"
    | '>' => "&gt;"
    | '"' => "&#34;"
    | other => if other.toNat = 39 then "&#39;" else String.singleton other)

end Http
end Tallykeeper
