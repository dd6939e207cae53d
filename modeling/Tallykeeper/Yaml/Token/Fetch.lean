import Tallykeeper.Yaml.Token.Scalar
import Tallykeeper.Yaml.Token.Tag

/-!
# Finding the next tokens

The lexer finds tokens one at a time and only as far as it must: it keeps at least three
tokens in its queue and, while the head of the queue may still start a simple key, reads
on until that is settled. The token that follows blanks is picked by its first
characters; indicators of block collections (`-`, `?`, `:`) open a block at their
column when one is not open yet, and lines indented less than the current block close
it with `BLOCK-END` tokens.
-/

namespace Tallykeeper
namespace Yaml
namespace Lexer

/-- Starts the stream. -/
def fetchStreamStart : LexM Unit := do
  modify fun s => { s with
    indent := -1, keys := s.keys.push {}, keyLevels := [], keyAllowed := true,
    streamStarted := true }
  let m := (← get).mark
  append .streamStart m m

/-- Ends the stream, closing every block. -/
def fetchStreamEnd : LexM Unit := do
  modify fun s =>
    if s.mark.column != 0 then { s with mark := { s.mark with column := 0, line := s.mark.line + 1 } }
    else s
  unrollIndent (-1) (← get).mark
  removeSimpleKey
  modify fun s => { s with keyAllowed := false }
  let m := (← get).mark
  append .streamEnd m m

/-- Reads a one-character indicator into a token. -/
def indicator (kind : TokenKind) : LexM Unit := do
  let start := (← get).mark
  skip
  append kind start (← get).mark

/-- Reads `---` or `...`, closing every block. -/
def fetchDocumentIndicator (kind : TokenKind) : LexM Unit := do
  unrollIndent (-1) (← get).mark
  removeSimpleKey
  modify fun s => { s with keyAllowed := false }
  let start := (← get).mark
  skipN 3
  append kind start (← get).mark

/-- Reads a directive, closing every block. -/
def fetchDirective : LexM Unit := do
  unrollIndent (-1) (← get).mark
  removeSimpleKey
  modify fun s => { s with keyAllowed := false }
  let t ← scanDirective
  append t.kind t.start t.stop

/-- Reads `[` or `{`. -/
def fetchFlowCollectionStart (kind : TokenKind) : LexM Unit := do
  saveSimpleKey
  increaseFlowLevel
  modify fun s => { s with keyAllowed := true }
  indicator kind

/-- Reads `]` or `}`. -/
def fetchFlowCollectionEnd (kind : TokenKind) : LexM Unit := do
  removeSimpleKey
  decreaseFlowLevel
  modify fun s => { s with keyAllowed := false }
  indicator kind

/-- Reads `,` in flow context. -/
def fetchFlowEntry : LexM Unit := do
  removeSimpleKey
  modify fun s => { s with keyAllowed := true }
  indicator .flowEntry

/-- Reads the `-` of a block sequence entry. -/
def fetchBlockEntry : LexM Unit := do
  let s ← get
  if s.flowLevel == 0 then
    if !s.keyAllowed then
      fail s.mark "block sequence entries are not allowed in this context"
    rollIndent s.mark.column none .blockSequenceStart s.mark
  removeSimpleKey
  modify fun s => { s with keyAllowed := true }
  indicator .blockEntry

/-- Reads the `?` of a complex key. -/
def fetchKey : LexM Unit := do
  let s ← get
  if s.flowLevel == 0 then
    if !s.keyAllowed then fail s.mark "mapping keys are not allowed in this context"
    rollIndent s.mark.column none .blockMappingStart s.mark
  removeSimpleKey
  modify fun s => { s with keyAllowed := s.flowLevel == 0 }
  indicator .key

/-- Reads the `:` of a value, completing the simple key before it if there is one. -/
def fetchValue : LexM Unit := do
  let level := (← get).topLevel
  if ← keyStillPossible level then
    let s ← get
    let k := s.keyAt level
    insertAt (k.tokenNumber - s.taken) { kind := .key, start := k.mark, stop := k.mark }
    rollIndent k.mark.column (some k.tokenNumber) .blockMappingStart k.mark
    modify fun s => { s with
      keys := s.keys.modify level fun k => { k with possible := false },
      keyLevels := s.keyLevels.filter (·.1 != k.tokenNumber),
      keyAllowed := false }
  else
    let s ← get
    if s.flowLevel == 0 then
      if !s.keyAllowed then fail s.mark "mapping values are not allowed in this context"
      rollIndent s.mark.column none .blockMappingStart s.mark
    modify fun s => { s with keyAllowed := s.flowLevel == 0 }
  indicator .value

/-- Reads a token that may start a simple key but may not be followed by one. -/
def fetchKeyLike (scan : LexM Token) : LexM Unit := do
  saveSimpleKey
  modify fun s => { s with keyAllowed := false }
  let t ← scan
  append t.kind t.start t.stop

/-- Reads a block scalar. -/
def fetchBlockScalar (literal : Bool) : LexM Unit := do
  removeSimpleKey
  modify fun s => { s with keyAllowed := true }
  let t ← scanBlockScalar literal
  append t.kind t.start t.stop

/-- Whether a character starts a plain scalar, given the next one. -/
def startsPlain (flowLevel : Nat) (c next : Char) : Bool :=
  !(isBlankOrEnd c || "-?:,[]\x7b\x7d#&*!|>\"%@".contains c || c == tick || c == Char.ofNat 96) ||
    (c == '-' && !isBlank next) ||
    (flowLevel == 0 && (c == '?' || c == ':') && !isBlankOrEnd next)

/-- Reads a token that starts with a content character. -/
def fetchContent (c next : Char) : LexM Unit := do
  let s ← get
  let flow := s.flowLevel > 0
  if c == '[' then fetchFlowCollectionStart .flowSequenceStart
  else if c == '{' then fetchFlowCollectionStart .flowMappingStart
  else if c == ']' then fetchFlowCollectionEnd .flowSequenceEnd
  else if c == '}' then fetchFlowCollectionEnd .flowMappingEnd
  else if c == ',' then fetchFlowEntry
  else if c == '-' && isBlankOrEnd next then fetchBlockEntry
  else if c == '?' && (flow || isBlankOrEnd next) then fetchKey
  else if c == ':' && (flow || isBlankOrEnd next) then fetchValue
  else if c == '*' then fetchKeyLike (scanAnchor true)
  else if c == '&' then fetchKeyLike (scanAnchor false)
  else if c == '!' then fetchKeyLike scanTag
  else if c == '|' && !flow then fetchBlockScalar true
  else if c == '>' && !flow then fetchBlockScalar false
  else if c == tick then fetchKeyLike (scanFlowScalar true)
  else if c == '"' then fetchKeyLike (scanFlowScalar false)
  else if startsPlain s.flowLevel c next then
    saveSimpleKey
    modify fun s => { s with keyAllowed := false }
    let t ← scanPlainScalar
    append t.kind t.start t.stop
  else fail s.mark "found character that cannot start any token"

/-- Finds the next token. -/
def fetchNextToken : LexM Unit := do
  cache 1
  if !(← get).streamStarted then
    fetchStreamStart
    return
  let scanMark := (← get).mark
  skipToToken
  unrollIndent (← get).mark.column scanMark
  cache 4
  let c ← peek 0
  if isEnd c then
    fetchStreamEnd
    return
  if (← get).mark.column == 0 && c == '%' then
    fetchDirective
    return
  if ← atDocumentMarker then
    fetchDocumentIndicator (if c == '-' then .documentStart else .documentEnd)
    return
  fetchContent c (← peek 1)
  match (← get).queue.getLast? with
  | some t => if t.kind == .blockEntry then return
  | none => pure ()
  passLineComment

/-- Finds tokens until the head of the queue is settled. -/
def fetchMoreTokens : LexM Unit := do
  for _ in [0:(← budget)] do
    let s ← get
    if s.queue.length ≥ 3 then
      match s.keyLevels.lookup s.taken with
      | none => break
      | some level => if !(← keyStillPossible level) then break
    fetchNextToken
  modify fun s => { s with available := true }

end Lexer
end Yaml
end Tallykeeper
