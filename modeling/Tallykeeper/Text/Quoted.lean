import Tallykeeper.Text.Printable
import Tallykeeper.Text.Utf8

/-!
# Quoted text

A quoted text is enclosed in double quotes. Printable characters stand for themselves,
except the quote and the backslash, which take a backslash. The seven C control
escapes are written `\a \b \f \n \r \t \v`; other controls below the space and DEL are
written `\xNN`, other unprintable characters `\uNNNN` or `\UNNNNNNNN`, and a stray byte
of an invalid UTF-8 string `\xNN`. Hex digits are lower case.
-/

namespace Tallykeeper
namespace Text
namespace Quoted

/-- The lower-case hex digit of a number below sixteen. -/
def hexDigit (n : Nat) : Char :=
  if n < 10 then Char.ofNat (48 + n) else Char.ofNat (87 + n)

/-- The `width` lower-case hex digits of `n`, most significant first. -/
def hexDigits : Nat → Nat → List Char
  | 0, _ => []
  | width + 1, n => hexDigits width (n / 16) ++ [hexDigit (n % 16)]

/-- The escape of one character inside quotes. -/
def escapeChar (c : Char) : List Char :=
  if c = '"' || c = '\\' then ['\\', c]
  else if isPrintable c then [c]
  else match c.toNat with
    | 7 => ['\\', 'a']
    | 8 => ['\\', 'b']
    | 12 => ['\\', 'f']
    | 10 => ['\\', 'n']
    | 13 => ['\\', 'r']
    | 9 => ['\\', 't']
    | 11 => ['\\', 'v']
    | n =>
      if n < 0x20 || n = 0x7F then ['\\', 'x'] ++ hexDigits 2 n
      else if n < 0x10000 then ['\\', 'u'] ++ hexDigits 4 n
      else ['\\', 'U'] ++ hexDigits 8 n

/-- The escape of one piece of a UTF-8 reading. -/
def escapePiece : Utf8Piece → List Char
  | .scalar c => escapeChar c
  | .stray b => ['\\', 'x'] ++ hexDigits 2 b.toNat

/-- A byte string in quotes, read as UTF-8. -/
def ofBytes (bs : List UInt8) : String :=
  String.ofList ('"' :: ((Utf8.pieces bs).flatMap escapePiece ++ ['"']))

/-- A text in quotes. -/
def ofString (s : String) : String :=
  String.ofList ('"' :: (s.toList.flatMap escapeChar ++ ['"']))

end Quoted
end Text
end Tallykeeper
