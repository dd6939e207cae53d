import Tallykeeper.Yaml.Source
import Tallykeeper.Yaml.Token

/-!
# The lexer state

Cutting a stream into tokens keeps a position in the source, a queue of tokens not yet
handed on, the stack of block indentations, the flow nesting level, and for every flow
level the place where a simple key (a key written without `?`) may have started.

A simple key is found only when the `:` after it is; the tokens `KEY` and, for a new
block mapping, `BLOCK-MAPPING-START` are then inserted into the queue where the key
started. So a token stays in the queue while it may still turn out to start a key: on
the same line and within 1024 characters. A key that must be one (it starts a line at the
block's indentation) and is not completed is a failure.

This module holds the state, the primitive moves over characters, and the bookkeeping of
simple keys and indentation.
-/

namespace Tallykeeper
namespace Yaml

/-- The apostrophe. -/
def tick : Char := Char.ofNat 39

/-- A text between apostrophes, as messages quote indicators. -/
def ticked (s : String) : String :=
  String.singleton tick ++ s ++ String.singleton tick

/-- A place where a simple key may start. -/
structure SimpleKey where
  possible : Bool := false
  required : Bool := false
  /-- The number of the token the key starts before, counted over the whole stream. -/
  tokenNumber : Nat := 0
  mark : Mark := {}
  deriving Repr, Inhabited

/-- The state of cutting a stream into tokens. -/
structure Lexer where
  source : Source
  mark : Mark := {}
  /-- Characters decoded so far. -/
  decoded : Nat := 0
  /-- Line breaks read since the last character that is not blank. -/
  newlines : Nat := 0
  streamStarted : Bool := false
  /-- Whether the `STREAM-END` token was handed on. -/
  streamEnded : Bool := false
  flowLevel : Nat := 0
  /-- Tokens found and not yet handed on. -/
  queue : List Token := []
  /-- Tokens handed on so far. -/
  taken : Nat := 0
  /-- Whether the queue's head is known to be final. -/
  available : Bool := false
  indent : Int := -1
  indents : List Int := []
  keyAllowed : Bool := false
  /-- The possible simple key of every flow level, the block level first. -/
  keys : Array SimpleKey := #[]
  /-- The flow level of the simple key that starts before a token, by token number. -/
  keyLevels : List (Nat × Nat) := []
  deriving Repr, Inhabited

/-- Cutting a stream into tokens, step by step. -/
abbrev LexM := EStateM Failure Lexer

namespace Lexer

/-- The lexer of a text. -/
def ofString (s : String) : Lexer :=
  { source := Source.ofString s }

/-- A bound on the steps of any loop over the source. -/
def budget : LexM Nat := do
  return 2 * (← get).source.chars.size + 16

/-- The number the next token gets. -/
def nextNumber (s : Lexer) : Nat := s.taken + s.queue.length

/-- The level of the innermost flow collection, zero in block context. -/
def topLevel (s : Lexer) : Nat := s.keys.size - 1

/-- The possible simple key at a level. -/
def keyAt (s : Lexer) (level : Nat) : SimpleKey := s.keys.getD level {}

/-- Makes sure the characters up to `n` ahead are decoded, failing when a decoded chunk
holds a character a stream may not contain. -/
def cache (n : Nat) : LexM Unit := do
  let s ← get
  let need := s.mark.index + n
  if need ≤ s.decoded then return
  let d := max s.decoded (s.source.decodedFor need)
  if let some i := s.source.firstBad then
    if i < d then
      throw { stage := .reader, problem := "control characters are not allowed" }
  set { s with decoded := d }

/-- The character `k` places ahead. -/
def peek (k : Nat) : LexM Char := do
  let s ← get
  return s.source.get (s.mark.index + k)

/-- Moves past a character that is not a line break. -/
def skip : LexM Unit := modify fun s =>
  let c := s.source.get s.mark.index
  { s with
    newlines := if isBlank c then s.newlines else 0,
    mark := { s.mark with index := s.mark.index + 1, column := s.mark.column + 1 } }

/-- Moves past a line break; a carriage return and line feed count as one. -/
def skipLine : LexM Unit := modify fun s =>
  let c := s.source.get s.mark.index
  let width := if c == '\r' && s.source.get (s.mark.index + 1) == '\n' then 2 else 1
  if isBreak c then
    { s with
      mark := { index := s.mark.index + width, line := s.mark.line + 1, column := 0 },
      newlines := s.newlines + 1 }
  else s

/-- Moves past a character, adding it to a text. -/
def read (buf : String) : LexM String := do
  let c ← peek 0
  skip
  return buf.push c

/-- Moves past a line break, adding it to a text: a line or paragraph separator as
itself, any other break as a line feed. -/
def readLine (buf : String) : LexM String := do
  let c ← peek 0
  if c == '\u2028' || c == '\u2029' then
    skipLine
    return buf.push c
  else if isBreak c then
    skipLine
    return buf.push '\n'
  else return buf

/-- Fails at the current position, in a context that starts at a mark. -/
def fail {α : Type} (contextMark : Mark) (problem : String) : LexM α := do
  throw { stage := .tokens, contextMark, problem, problemMark := (← get).mark }

/-- Appends a token to the queue. -/
def append (kind : TokenKind) (start stop : Mark) : LexM Unit :=
  modify fun s => { s with queue := s.queue ++ [{ kind, start, stop }] }

/-- Inserts a token into the queue at a place counted from its head. -/
def insertAt (i : Nat) (t : Token) : LexM Unit :=
  modify fun s => { s with queue := s.queue.insertIdx i t }

/-- Moves past `n` characters that are not line breaks. -/
def skipN : Nat → LexM Unit
  | 0 => pure ()
  | n + 1 => do skip; skipN n

/-- Forgets the possible simple key of the current level; fails if it had to be one. -/
def removeSimpleKey : LexM Unit := do
  let s ← get
  let level := s.topLevel
  let k := s.keyAt level
  if k.possible then
    if k.required then fail k.mark ("could not find expected " ++ ticked ":")
    set { s with
      keys := s.keys.modify level fun k => { k with possible := false },
      keyLevels := s.keyLevels.filter (·.1 != k.tokenNumber) }

/-- Records that a simple key may start before the next token, when one may. -/
def saveSimpleKey : LexM Unit := do
  let s ← get
  if s.keyAllowed then
    let k : SimpleKey :=
      { possible := true,
        required := s.flowLevel == 0 && s.indent == (s.mark.column : Int),
        tokenNumber := s.nextNumber,
        mark := s.mark }
    removeSimpleKey
    modify fun s => { s with
      keys := s.keys.modify s.topLevel fun _ => k,
      keyLevels := (k.tokenNumber, s.topLevel) :: s.keyLevels.filter (·.1 != k.tokenNumber) }

/-- Whether the simple key of a level can still be completed. A key left behind by a new
line or by more than 1024 characters is dropped, and fails if it had to be one. -/
def keyStillPossible (level : Nat) : LexM Bool := do
  let s ← get
  let k := s.keyAt level
  if !k.possible then return false
  if k.mark.line < s.mark.line || k.mark.index + 1024 < s.mark.index then
    if k.required then fail k.mark ("could not find expected " ++ ticked ":")
    modify fun s => { s with keys := s.keys.modify level fun k => { k with possible := false } }
    return false
  return true

/-- Enters a flow collection. -/
def increaseFlowLevel : LexM Unit := do
  modify fun s => { s with
    keys := s.keys.push { tokenNumber := s.nextNumber, mark := s.mark },
    flowLevel := s.flowLevel + 1 }
  let s ← get
  if s.flowLevel > 10000 then fail (s.keyAt s.topLevel).mark "exceeded max depth of 10000"

/-- Leaves a flow collection. -/
def decreaseFlowLevel : LexM Unit := modify fun s =>
  if s.flowLevel > 0 then
    let k := s.keyAt s.topLevel
    { s with
      flowLevel := s.flowLevel - 1,
      keys := s.keys.pop,
      keyLevels := s.keyLevels.filter (·.1 != k.tokenNumber) }
  else s

/-- Opens a block at a deeper column in block context, adding its start token at the end
of the queue or before the token of a given number. -/
def rollIndent (column : Int) (number : Option Nat) (kind : TokenKind) (mark : Mark) :
    LexM Unit := do
  let s ← get
  if s.flowLevel > 0 || s.indent ≥ column then return
  set { s with indents := s.indent :: s.indents, indent := column }
  if s.indents.length + 1 > 10000 then
    fail (s.keyAt s.topLevel).mark "exceeded max depth of 10000"
  let t : Token := { kind, start := mark, stop := mark }
  match number with
  | some n => insertAt (n - s.taken) t
  | none => append kind mark mark

/-- The `BLOCK-END` tokens that close every block deeper than a column, with the
indentation and stack left. -/
def closeBlocks (column : Int) (mark : Mark) : Int → List Int → List Token × Int × List Int
  | indent, [] => ([], indent, [])
  | indent, outer :: rest =>
    if indent > column then
      let (ts, i, st) := closeBlocks column mark outer rest
      ({ kind := .blockEnd, start := mark, stop := mark } :: ts, i, st)
    else ([], indent, outer :: rest)

/-- Closes every block deeper than a column, in block context. -/
def unrollIndent (column : Int) (scanMark : Mark) : LexM Unit := modify fun s =>
  if s.flowLevel > 0 then s
  else
    let (ts, i, st) := closeBlocks column { scanMark with index := scanMark.index - 1 } s.indent s.indents
    { s with queue := s.queue ++ ts, indent := i, indents := st }

end Lexer

end Yaml
end Tallykeeper
