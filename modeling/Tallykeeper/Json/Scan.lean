import Tallykeeper.Json.Value
import Tallykeeper.Text.Quoted
import Tallykeeper.Text.Utf8

/-!
# Reading the first JSON value of a body

A body is read one byte at a time by a scanner whose phases follow the JSON grammar.
Every byte either continues the current literal, opens or closes a container, separates
members, is white space, or is refused with a message naming the byte and what the
scanner was looking for. The first value is complete when its closing bracket arrives,
or, for a scalar at the top, when any byte after it arrives or the body ends; whatever
follows the first value is never looked at.

While the scanner runs, a builder keeps the containers that are still open as a stack
of part-built frames and the bytes of the literal being read, so the value is built by
a plain walk over the bytes.

Only the first `limit` bytes of a body are ever available. A value that is still open
when they run out fails with `http: request body too large`; a value still open at the
real end of the body fails with `unexpected EOF`, or with `EOF` when nothing but white
space was read.
-/

namespace Tallykeeper
namespace Json
namespace Scan

open Text

/-- What an open container waits for. -/
inductive Slot
  | objectKey
  | objectValue
  | arrayValue
  deriving DecidableEq, Repr

/-- The scanner's place in the grammar. -/
inductive Phase
  | beginValue
  | beginValueOrEmpty
  | beginStringOrEmpty
  | beginString
  | endValue
  | endTop
  | inString
  | inStringEsc
  /-- Inside a `\u` escape, with the number of hex digits still to come. -/
  | inStringEscU (left : Nat)
  | neg
  | zero
  | one
  | dot
  | dot0
  | exp
  | expSign
  | exp0
  /-- Inside `true`, `false` or `null`, with the letters still to come. -/
  | word (rest : List Char) (name : String)
  deriving Repr

/-- What one byte did. -/
inductive Op
  /-- The byte belongs to the literal being read. -/
  | inside
  | beginLiteral
  | beginObject
  | objectKey
  | objectValue
  | endObject
  | beginArray
  | arrayValue
  | endArray
  | space
  /-- The top-level value ended before this byte. -/
  | done
  | fail (message : String)
  deriving Repr

/-- A scanner: its phase and the slots of the containers that are open. -/
structure Scanner where
  phase : Phase := .beginValue
  slots : List Slot := []
  deriving Repr

/-- The deepest nesting the scanner accepts. -/
def maxDepth : Nat := 10000

/-- JSON white space. -/
def isSpace (c : UInt8) : Bool :=
  c = 0x20 || c = 0x09 || c = 0x0D || c = 0x0A

/-- An ASCII digit. -/
def isDigit (c : UInt8) : Bool :=
  0x30 ≤ c && c ≤ 0x39

/-- An ASCII hex digit. -/
def isHex (c : UInt8) : Bool :=
  isDigit c || (0x61 ≤ c && c ≤ 0x66) || (0x41 ≤ c && c ≤ 0x46)

/-- A byte as a message shows it: in single quotes, escaped the way a quoted text
escapes the character with the byte's value. -/
def showByte (c : UInt8) : String :=
  let tick := Char.ofNat 39
  if c = 39 then String.ofList [tick, '\\', tick, tick]
  else if c = 34 then String.ofList [tick, '"', tick]
  else
    let q := (Quoted.ofString (String.singleton (Char.ofNat c.toNat))).toList
    String.ofList (tick :: (q.drop 1).dropLast ++ [tick])

/-- The refusal of a byte in a context. -/
def failure (c : UInt8) (context : String) : Op :=
  .fail ("invalid character " ++ showByte c ++ " " ++ context)

/-- The scanner after a container closed, leaving the given slots open. -/
def closed (rest : List Slot) : Scanner :=
  if rest.isEmpty then { phase := .endTop } else { phase := .endValue, slots := rest }

/-- The byte after a complete value. -/
def endValue (slots : List Slot) (c : UInt8) : Scanner × Op :=
  match slots with
  | [] => ({ phase := .endTop }, .done)
  | s :: rest =>
    if isSpace c then ({ phase := .endValue, slots }, .space)
    else match s with
      | .objectKey =>
        if c = ':'.toUInt8 then ({ phase := .beginValue, slots := .objectValue :: rest }, .objectKey)
        else ({ phase := .endValue, slots }, failure c "after object key")
      | .objectValue =>
        if c = ','.toUInt8 then ({ phase := .beginString, slots := .objectKey :: rest }, .objectValue)
        else if c = '}'.toUInt8 then (closed rest, .endObject)
        else ({ phase := .endValue, slots }, failure c "after object key:value pair")
      | .arrayValue =>
        if c = ','.toUInt8 then ({ phase := .beginValue, slots }, .arrayValue)
        else if c = ']'.toUInt8 then (closed rest, .endArray)
        else ({ phase := .endValue, slots }, failure c "after array element")

/-- Opens a container, refusing one nested too deep. -/
def push (slots : List Slot) (c : UInt8) (slot : Slot) (next : Phase) (op : Op) :
    Scanner × Op :=
  if slots.length + 1 ≤ maxDepth then ({ phase := next, slots := slot :: slots }, op)
  else ({ phase := next, slots := slot :: slots }, failure c "exceeded max depth")

/-- The first byte of a value. -/
def beginValue (slots : List Slot) (c : UInt8) : Scanner × Op :=
  let lit (p : Phase) : Scanner × Op := ({ phase := p, slots }, .beginLiteral)
  if isSpace c then ({ phase := .beginValue, slots }, .space)
  else if c = '{'.toUInt8 then push slots c .objectKey .beginStringOrEmpty .beginObject
  else if c = '['.toUInt8 then push slots c .arrayValue .beginValueOrEmpty .beginArray
  else if c = '"'.toUInt8 then lit .inString
  else if c = '-'.toUInt8 then lit .neg
  else if c = '0'.toUInt8 then lit .zero
  else if c = 't'.toUInt8 then lit (.word ['r', 'u', 'e'] "true")
  else if c = 'f'.toUInt8 then lit (.word ['a', 'l', 's', 'e'] "false")
  else if c = 'n'.toUInt8 then lit (.word ['u', 'l', 'l'] "null")
  else if 0x31 ≤ c && c ≤ 0x39 then lit .one
  else ({ phase := .beginValue, slots }, failure c "looking for beginning of value")

/-- The first byte of an object key. -/
def beginString (slots : List Slot) (c : UInt8) : Scanner × Op :=
  if isSpace c then ({ phase := .beginString, slots }, .space)
  else if c = '"'.toUInt8 then ({ phase := .inString, slots }, .beginLiteral)
  else ({ phase := .beginString, slots }, failure c "looking for beginning of object key string")

/-- A byte after the integer part of a number. -/
def afterInteger (slots : List Slot) (c : UInt8) : Scanner × Op :=
  if c = '.'.toUInt8 then ({ phase := .dot, slots }, .inside)
  else if c = 'e'.toUInt8 || c = 'E'.toUInt8 then ({ phase := .exp, slots }, .inside)
  else endValue slots c

/-- The first digit of an exponent. -/
def exponentDigit (slots : List Slot) (c : UInt8) : Scanner × Op :=
  if isDigit c then ({ phase := .exp0, slots }, .inside)
  else ({ phase := .expSign, slots }, failure c "in exponent of numeric literal")

/-- One step of the scanner. -/
def step (s : Scanner) (c : UInt8) : Scanner × Op :=
  let stay (p : Phase) : Scanner × Op := ({ s with phase := p }, .inside)
  match s.phase with
  | .beginValue => beginValue s.slots c
  | .beginValueOrEmpty =>
    if isSpace c then (s, .space)
    else if c = ']'.toUInt8 then endValue s.slots c
    else beginValue s.slots c
  | .beginStringOrEmpty =>
    if isSpace c then (s, .space)
    else if c = '}'.toUInt8 then endValue (.objectValue :: s.slots.drop 1) c
    else beginString s.slots c
  | .beginString => beginString s.slots c
  | .endValue => endValue s.slots c
  | .endTop => (s, .done)
  | .inString =>
    if c = '"'.toUInt8 then stay .endValue
    else if c = '\\'.toUInt8 then stay .inStringEsc
    else if c < 0x20 then (s, failure c "in string literal")
    else (s, .inside)
  | .inStringEsc =>
    if "bfnrt\\/\"".toList.any (·.toUInt8 = c) then stay .inString
    else if c = 'u'.toUInt8 then stay (.inStringEscU 4)
    else (s, failure c "in string escape code")
  | .inStringEscU left =>
    if isHex c then stay (if left ≤ 1 then .inString else .inStringEscU (left - 1))
    else (s, failure c "in \\u hexadecimal character escape")
  | .neg =>
    if c = '0'.toUInt8 then stay .zero
    else if 0x31 ≤ c && c ≤ 0x39 then stay .one
    else (s, failure c "in numeric literal")
  | .one => if isDigit c then (s, .inside) else afterInteger s.slots c
  | .zero => afterInteger s.slots c
  | .dot =>
    if isDigit c then stay .dot0
    else (s, failure c "after decimal point in numeric literal")
  | .dot0 =>
    if isDigit c then (s, .inside)
    else if c = 'e'.toUInt8 || c = 'E'.toUInt8 then stay .exp
    else endValue s.slots c
  | .exp =>
    if c = '+'.toUInt8 || c = '-'.toUInt8 then stay .expSign
    else exponentDigit s.slots c
  | .expSign => exponentDigit s.slots c
  | .exp0 => if isDigit c then (s, .inside) else endValue s.slots c
  | .word rest name =>
    match rest with
    | [] => endValue s.slots c
    | w :: more =>
      if c = w.toUInt8 then stay (if more.isEmpty then .endValue else .word more name)
      else
        let tick := Char.ofNat 39
        (s, failure c ("in literal " ++ name ++ " (expecting " ++ String.ofList [tick, w, tick] ++ ")"))

/-- The value of four hex digits. -/
def hexValue (ds : List Char) : Option Nat :=
  ds.foldl (fun acc d => acc.bind fun n =>
    if '0' ≤ d && d ≤ '9' then some (n * 16 + (d.toNat - 48))
    else if 'a' ≤ d && d ≤ 'f' then some (n * 16 + (d.toNat - 87))
    else if 'A' ≤ d && d ≤ 'F' then some (n * 16 + (d.toNat - 55))
    else none) (some 0)

/-- A UTF-16 surrogate. -/
def isSurrogate (n : Nat) : Bool :=
  0xD800 ≤ n && n < 0xE000

/-- The character a surrogate pair stands for, when the pair is well formed. -/
def pairValue (hi lo : Nat) : Option Char :=
  if 0xD800 ≤ hi && hi < 0xDC00 && 0xDC00 ≤ lo && lo < 0xE000 then
    some (Char.ofNat (0x10000 + (hi - 0xD800) * 0x400 + (lo - 0xDC00)))
  else none

/-- The character of a simple escape letter. -/
def simpleEscape (e : Char) : Char :=
  match e with
  | 'b' => Char.ofNat 8
  | 'f' => Char.ofNat 12
  | 'n' => '\n'
  | 'r' => '\r'
  | 't' => '\t'
  | other => other

/-- The characters of a string literal's inside, escapes resolved: a stray byte
becomes U+FFFD, and so does a surrogate escape that does not start a well-formed
pair; the escape after such a surrogate is then read on its own. -/
def unescape : List Utf8Piece → List Char
  | [] => []
  | .stray _ :: rest => '\uFFFD' :: unescape rest
  | .scalar '\\' :: .scalar 'u' :: .scalar a :: .scalar b :: .scalar c :: .scalar d :: rest =>
    match hexValue [a, b, c, d] with
    | none => unescape rest
    | some n =>
      if isSurrogate n then
        match rest with
        | .scalar '\\' :: .scalar 'u' :: .scalar e :: .scalar f :: .scalar g :: .scalar h :: more =>
          match (hexValue [e, f, g, h]).bind (pairValue n) with
          | some ch => ch :: unescape more
          | none =>
            '\uFFFD' :: unescape
              (.scalar '\\' :: .scalar 'u' :: .scalar e :: .scalar f :: .scalar g :: .scalar h :: more)
        | other => '\uFFFD' :: unescape other
      else Char.ofNat n :: unescape rest
  | .scalar '\\' :: .scalar e :: rest => simpleEscape e :: unescape rest
  | .scalar c :: rest => c :: unescape rest
termination_by ps => ps.length
decreasing_by all_goals (simp only [List.length_cons]; omega)

/-- The value of a complete literal from its bytes. -/
def literalValue (bytes : List UInt8) : Value :=
  match bytes with
  | [] => .null
  | first :: rest =>
    if first = '"'.toUInt8 then .text (String.ofList (unescape (Utf8.pieces rest.dropLast)))
    else if first = 't'.toUInt8 then .bool true
    else if first = 'f'.toUInt8 then .bool false
    else if first = 'n'.toUInt8 then .null
    else .number (String.ofList (bytes.map fun b => Char.ofNat b.toNat))

/-- A container that is still open. -/
inductive Frame
  /-- An array with its items so far, latest first. -/
  | array (items : List Value)
  /-- An object with its members so far, latest first, and the key read for the member
  whose value is still to come. -/
  | object (members : List (String × Value)) (key : Option String)

/-- The value being built: the open containers, the bytes of the literal being read
(latest first), and the top-level value once it is complete. -/
structure Builder where
  frames : List Frame := []
  literal : Option (List UInt8) := none
  result : Option Value := none

namespace Builder

/-- Hands a complete value to the innermost open container: an item of an array, the
key or the value of an object member, or the top-level value. -/
def attach (b : Builder) (v : Value) : Builder :=
  match b.frames with
  | [] => { b with result := some v }
  | .array items :: rest => { b with frames := .array (v :: items) :: rest }
  | .object members none :: rest =>
    match v with
    | .text k => { b with frames := .object members (some k) :: rest }
    | _ => b
  | .object members (some k) :: rest =>
    { b with frames := .object ((k, v) :: members) none :: rest }

/-- Completes the literal being read, if any. -/
def close (b : Builder) : Builder :=
  match b.literal with
  | none => b
  | some bytes => { b with literal := none }.attach (literalValue bytes.reverse)

/-- Completes the innermost container. -/
def pop (b : Builder) : Builder :=
  match b.frames with
  | .array items :: rest => { b with frames := rest }.attach (.array items.reverse)
  | .object members _ :: rest => { b with frames := rest }.attach (.object members.reverse)
  | [] => b

/-- Follows one byte and what the scanner made of it. -/
def feed (b : Builder) (op : Op) (c : UInt8) : Builder :=
  match op with
  | .inside => { b with literal := b.literal.map (c :: ·) }
  | .beginLiteral => { b.close with literal := some [c] }
  | .beginObject => let b := b.close; { b with frames := .object [] none :: b.frames }
  | .beginArray => let b := b.close; { b with frames := .array [] :: b.frames }
  | .endObject => b.close.pop
  | .endArray => b.close.pop
  | _ => b.close

end Builder

/-- Where a scan stands after the bytes it was given. -/
inductive Progress
  | complete (v : Value)
  | broken (message : String)
  | pending (s : Scanner) (b : Builder)

/-- Scans bytes until the first value is complete or a byte is refused. -/
def scan (s : Scanner) (b : Builder) : List UInt8 → Progress
  | [] => .pending s b
  | c :: rest =>
    match step s c with
    | (_, .fail m) => .broken m
    | (_, .done) => .complete ((b.feed .done c).result.getD .null)
    | (s', .endObject) =>
      let b' := b.feed .endObject c
      if s'.slots.isEmpty then .complete (b'.result.getD .null) else scan s' b' rest
    | (s', .endArray) =>
      let b' := b.feed .endArray c
      if s'.slots.isEmpty then .complete (b'.result.getD .null) else scan s' b' rest
    | (s', op) => scan s' (b.feed op c) rest

/-- The first value of the bytes that could be read, given whether more bytes stood
behind them that could not be. -/
def firstValue (bytes : List UInt8) (cutOff : Bool) : Except String Value :=
  match scan {} {} bytes with
  | .complete v => .ok v
  | .broken m => .error m
  | .pending s b =>
    if cutOff then .error "http: request body too large"
    else match step s 0x20 with
      | (_, .done) => .ok ((b.feed .done 0x20).result.getD .null)
      | _ => .error (if bytes.any (fun c => !isSpace c) then "unexpected EOF" else "EOF")

/-- The first value of a body of which only the first `limit` bytes can be read. -/
def readBody (limit : Nat) (body : List UInt8) : Except String Value :=
  firstValue (body.take limit) (decide (limit < body.length))

end Scan
end Json
end Tallykeeper
