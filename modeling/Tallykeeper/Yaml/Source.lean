import Tallykeeper.Text.Utf8

/-!
# YAML character source

A YAML stream is read as characters of its UTF-8 text; a byte order mark at the very
start is dropped. The text is decoded in chunks of 512 bytes, a character that crosses a
chunk's end going to the next chunk, and a chunk is decoded only when a reader asks for a
character in it. Decoding a chunk that holds a character a stream may not contain fails.
Past the end the source shows the character NUL, which ends the stream.

The module also holds the character classes of the grammar.
-/

namespace Tallykeeper
namespace Yaml

/-- Whether a character may appear in a YAML stream: tab, line feed, carriage return, and
the printable characters. -/
def isAllowed (c : Char) : Bool :=
  let v := c.toNat
  v == 0x09 || v == 0x0A || v == 0x0D || (0x20 ≤ v && v ≤ 0x7E) || v == 0x85 ||
    (0xA0 ≤ v && v ≤ 0xD7FF) || (0xE000 ≤ v && v ≤ 0xFFFD) || (0x10000 ≤ v && v ≤ 0x10FFFF)

/-- The size of a decoding chunk in bytes. -/
def chunkBytes : Nat := 512

/-- The character counts at which decoding chunks end, given the byte widths of the
remaining characters, the byte offset of the next one, the characters counted so far and
the byte offset where the current chunk starts. -/
def chunkEnds : List Nat → Nat → Nat → Nat → List Nat
  | [], _, count, _ => [count]
  | w :: ws, offset, count, start =>
    if offset + w ≤ start + chunkBytes then chunkEnds ws (offset + w) (count + 1) start
    else count :: chunkEnds ws (offset + w) (count + 1) offset

/-- A YAML stream as a reader sees it. -/
structure Source where
  chars : Array Char
  /-- The character counts at which the decoding chunks end, in increasing order. -/
  chunks : List Nat
  /-- The position of the first character a stream may not contain, if any. -/
  firstBad : Option Nat
  deriving Repr, Inhabited

namespace Source

/-- The source of a text. -/
def ofString (s : String) : Source :=
  let all := s.toList
  let (chars, offset) := match all with
    | '\uFEFF' :: rest => (rest, 3)
    | _ => (all, 0)
  let widths := chars.map fun c => (Text.Utf8.encodeChar c).length
  { chars := chars.toArray,
    chunks := chunkEnds widths offset 0 0,
    firstBad := chars.findIdx? fun c => !isAllowed c }

/-- The character at a position, NUL past the end. -/
def get (src : Source) (i : Nat) : Char :=
  src.chars.getD i '\x00'

/-- The number of characters decoded once the characters before `need` are: the end of
the first chunk that covers them, or of the last chunk. -/
def decodedFor (src : Source) (need : Nat) : Nat :=
  match src.chunks.find? (· ≥ need) with
  | some e => e
  | none => src.chunks.getLast?.getD 0

end Source

/-- A line break: carriage return, line feed, next line, line or paragraph separator. -/
def isBreak (c : Char) : Bool :=
  c == '\r' || c == '\n' || c == '\u0085' || c == '\u2028' || c == '\u2029'

/-- The end of the stream. -/
def isEnd (c : Char) : Bool := c == '\x00'

/-- A space or a tab. -/
def isBlank (c : Char) : Bool := c == ' ' || c == '\t'

/-- A line break or the end of the stream. -/
def isBreakOrEnd (c : Char) : Bool := isBreak c || isEnd c

/-- A blank, a line break or the end of the stream. -/
def isBlankOrEnd (c : Char) : Bool := isBlank c || isBreakOrEnd c

/-- A space, a line break or the end of the stream. -/
def isSpaceOrEnd (c : Char) : Bool := c == ' ' || isBreakOrEnd c

/-- A character of anchors, directive names and tag handles: ASCII letters and digits,
`_` and `-`. -/
def isWordChar (c : Char) : Bool :=
  ('0' ≤ c && c ≤ '9') || ('A' ≤ c && c ≤ 'Z') || ('a' ≤ c && c ≤ 'z') || c == '_' || c == '-'

/-- An ASCII decimal digit. -/
def isDigit (c : Char) : Bool := '0' ≤ c && c ≤ '9'

/-- An ASCII hexadecimal digit. -/
def isHex (c : Char) : Bool :=
  isDigit c || ('A' ≤ c && c ≤ 'F') || ('a' ≤ c && c ≤ 'f')

/-- The value of a hexadecimal digit. -/
def hexValue (c : Char) : Nat :=
  if isDigit c then c.toNat - '0'.toNat
  else if 'A' ≤ c && c ≤ 'F' then c.toNat - 'A'.toNat + 10
  else c.toNat - 'a'.toNat + 10

end Yaml
end Tallykeeper
