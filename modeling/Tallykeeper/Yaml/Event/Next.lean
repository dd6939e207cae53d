import Tallykeeper.Yaml.Event

/-!
# The next event

One step of the event machine per state. A node is an alias, or optional anchor and tag
properties followed by a scalar, a collection start, or nothing (an empty scalar when a
property was given). A block mapping's value may be a sequence whose `-` entries sit at
the mapping's own indentation. An entry, key or value that is left out is an empty plain
scalar.
-/

namespace Tallykeeper
namespace Yaml
namespace Parser

/-- Starts the stream. -/
def streamStart : ParseM Event := do
  let t ← peekToken
  if t.kind != .streamStart then fail "did not find expected <stream-start>" t.start
  expect .implicitDocumentStart
  skipToken
  return { kind := .streamStart, start := t.start, stop := t.stop }

/-- Starts a document, or ends the stream. Before the first document, content may start
a document without `---`. -/
def documentStart (implicit : Bool) : ParseM Event := do
  let mut t ← peekToken
  if !implicit then
    for _ in [0:(← budget)] do
      if t.kind != .documentEnd then break
      skipToken
      t ← peekToken
  if implicit && !(isDirective t || t.kind == .documentStart || t.kind == .streamEnd) then
    processDirectives
    pushState .documentEnd
    expect .blockNode
    return { kind := .documentStart, start := t.start, stop := t.stop }
  else if t.kind != .streamEnd then
    let start := t.start
    processDirectives
    let d ← peekToken
    if d.kind != .documentStart then fail "did not find expected <document start>" d.start
    pushState .documentEnd
    expect .documentContent
    skipToken
    return { kind := .documentStart, start, stop := d.stop }
  else
    expect .finished
    skipToken
    return { kind := .streamEnd, start := t.start, stop := t.stop }

/-- Reads a node with its properties. In block context a block collection may start it;
`indentless` allows a sequence of `-` entries at the current indentation. -/
def node (block indentless : Bool) : ParseM Event := do
  let first ← peekToken
  if let .alias name := first.kind then
    popState
    skipToken
    return { kind := .alias name, start := first.start, stop := first.stop }
  let start := first.start
  let mut stop := first.start
  let mut t := first
  let mut anchor := ""
  let mut tagged := false
  let mut handle := ""
  let mut suffix := ""
  let mut tagMark := first.start
  match first.kind with
  | .anchor name =>
    anchor := name
    stop := first.stop
    skipToken
    t ← peekToken
    if let .tag h s := t.kind then
      tagged := true
      handle := h
      suffix := s
      tagMark := t.start
      stop := t.stop
      skipToken
      t ← peekToken
  | .tag h s =>
    tagged := true
    handle := h
    suffix := s
    stop := first.stop
    skipToken
    t ← peekToken
    if let .anchor name := t.kind then
      anchor := name
      stop := t.stop
      skipToken
      t ← peekToken
  | _ => pure ()
  let mut tag := ""
  if tagged then
    if handle.isEmpty then tag := suffix
    else
      match (← get).tagDirectives.find? (·.1 == handle) with
      | some (_, pre) => tag := pre ++ suffix
      | none => pure ()
      if tag.isEmpty then failIn start "found undefined tag handle" tagMark
  if indentless && t.kind == .blockEntry then
    expect .indentlessSequenceEntry
    return { kind := .sequenceStart anchor tag, start, stop := t.stop }
  match t.kind with
  | .scalar value style =>
    popState
    skipToken
    return { kind := .scalar anchor tag value style, start, stop := t.stop }
  | .flowSequenceStart =>
    expect .flowSequenceFirstEntry
    return { kind := .sequenceStart anchor tag, start, stop := t.stop }
  | .flowMappingStart =>
    expect .flowMappingFirstKey
    return { kind := .mappingStart anchor tag, start, stop := t.stop }
  | .blockSequenceStart =>
    if block then
      expect .blockSequenceFirstEntry
      return { kind := .sequenceStart anchor tag, start, stop := t.stop }
  | .blockMappingStart =>
    if block then
      expect .blockMappingFirstKey
      return { kind := .mappingStart anchor tag, start, stop := t.stop }
  | _ => pure ()
  if !anchor.isEmpty || !tag.isEmpty then
    popState
    return { kind := .scalar anchor tag "" .plain, start, stop }
  failIn start "did not find expected node content" t.start

/-- Reads the content of a document that started with `---`. -/
def documentContent : ParseM Event := do
  let t ← peekToken
  if isDirective t || t.kind == .documentStart || t.kind == .documentEnd || t.kind == .streamEnd then
    popState
    return emptyScalar t.start
  node true false

/-- Ends a document, with `...` or without. -/
def documentEnd : ParseM Event := do
  let t ← peekToken
  let mut stop := t.start
  if t.kind == .documentEnd then
    stop := t.stop
    skipToken
  modify fun p => { p with tagDirectives := [] }
  expect .documentStart
  return { kind := .documentEnd, start := t.start, stop }

/-- Reads the next entry of a block sequence, or its end. -/
def blockSequenceEntry (first : Bool) : ParseM Event := do
  if first then
    pushMark (← peekToken).start
    skipToken
  let t ← peekToken
  if t.kind == .blockEntry then
    let m := t.stop
    skipToken
    let t ← peekToken
    if t.kind != .blockEntry && t.kind != .blockEnd then
      pushState .blockSequenceEntry
      node true false
    else
      expect .blockSequenceEntry
      return emptyScalar m
  else if t.kind == .blockEnd then
    popState
    let _ ← popMark
    skipToken
    return { kind := .sequenceEnd, start := t.start, stop := t.stop }
  else
    let cm ← popMark
    failIn cm ("did not find expected " ++ ticked "-" ++ " indicator") t.start

/-- Reads the next entry of a sequence at a mapping's indentation, or its end. -/
def indentlessSequenceEntry : ParseM Event := do
  let t ← peekToken
  if t.kind == .blockEntry then
    let m := t.stop
    skipToken
    let t ← peekToken
    if t.kind != .blockEntry && t.kind != .key && t.kind != .value && t.kind != .blockEnd then
      pushState .indentlessSequenceEntry
      node true false
    else
      expect .indentlessSequenceEntry
      return emptyScalar m
  else
    popState
    return { kind := .sequenceEnd, start := t.start, stop := t.start }

/-- Reads the next key of a block mapping, or its end. -/
def blockMappingKey (first : Bool) : ParseM Event := do
  if first then
    pushMark (← peekToken).start
    skipToken
  let t ← peekToken
  if t.kind == .key then
    let m := t.stop
    skipToken
    let t ← peekToken
    if t.kind != .key && t.kind != .value && t.kind != .blockEnd then
      pushState .blockMappingValue
      node true true
    else
      expect .blockMappingValue
      return emptyScalar m
  else if t.kind == .blockEnd then
    popState
    let _ ← popMark
    skipToken
    return { kind := .mappingEnd, start := t.start, stop := t.stop }
  else
    let cm ← popMark
    failIn cm "did not find expected key" t.start

/-- Reads the value of a block mapping entry. -/
def blockMappingValue : ParseM Event := do
  let t ← peekToken
  if t.kind == .value then
    let m := t.stop
    skipToken
    let t ← peekToken
    if t.kind != .key && t.kind != .value && t.kind != .blockEnd then
      pushState .blockMappingKey
      node true true
    else
      expect .blockMappingKey
      return emptyScalar m
  else
    expect .blockMappingKey
    return emptyScalar t.start

/-- Reads the next entry of a flow sequence, or its end. -/
def flowSequenceEntry (first : Bool) : ParseM Event := do
  if first then
    pushMark (← peekToken).start
    skipToken
  let mut t ← peekToken
  if t.kind != .flowSequenceEnd then
    if !first then
      if t.kind == .flowEntry then
        skipToken
        t ← peekToken
      else
        let cm ← popMark
        failIn cm ("did not find expected " ++ ticked "," ++ " or " ++ ticked "]") t.start
    if t.kind == .key then
      expect .flowSequenceEntryMappingKey
      skipToken
      return { kind := .mappingStart "" "", start := t.start, stop := t.stop }
    else if t.kind != .flowSequenceEnd then
      pushState .flowSequenceEntry
      return ← node false false
  popState
  let _ ← popMark
  skipToken
  return { kind := .sequenceEnd, start := t.start, stop := t.stop }

/-- Reads the key of a single-pair mapping inside a flow sequence. -/
def flowSequenceEntryMappingKey : ParseM Event := do
  let t ← peekToken
  if t.kind != .value && t.kind != .flowEntry && t.kind != .flowSequenceEnd then
    pushState .flowSequenceEntryMappingValue
    node false false
  else
    let m := t.stop
    skipToken
    expect .flowSequenceEntryMappingValue
    return emptyScalar m

/-- Reads the value of a single-pair mapping inside a flow sequence. -/
def flowSequenceEntryMappingValue : ParseM Event := do
  let mut t ← peekToken
  if t.kind == .value then
    skipToken
    t ← peekToken
    if t.kind != .flowEntry && t.kind != .flowSequenceEnd then
      pushState .flowSequenceEntryMappingEnd
      return ← node false false
  expect .flowSequenceEntryMappingEnd
  return emptyScalar t.start

/-- Ends a single-pair mapping inside a flow sequence. -/
def flowSequenceEntryMappingEnd : ParseM Event := do
  expect .flowSequenceEntry
  let m := (← get).lexer.mark
  return { kind := .mappingEnd, start := m, stop := m }

/-- Reads the next key of a flow mapping, or its end. -/
def flowMappingKey (first : Bool) : ParseM Event := do
  if first then
    pushMark (← peekToken).start
    skipToken
  let mut t ← peekToken
  if t.kind != .flowMappingEnd then
    if !first then
      if t.kind == .flowEntry then
        skipToken
        t ← peekToken
      else
        let cm ← popMark
        failIn cm ("did not find expected " ++ ticked "," ++ " or " ++ ticked "\x7d") t.start
    if t.kind == .key then
      skipToken
      t ← peekToken
      if t.kind != .value && t.kind != .flowEntry && t.kind != .flowMappingEnd then
        pushState .flowMappingValue
        return ← node false false
      else
        expect .flowMappingValue
        return emptyScalar t.start
    else if t.kind != .flowMappingEnd then
      pushState .flowMappingEmptyValue
      return ← node false false
  popState
  let _ ← popMark
  skipToken
  return { kind := .mappingEnd, start := t.start, stop := t.stop }

/-- Reads the value of a flow mapping entry; `empty` when the entry has no `:`. -/
def flowMappingValue (empty : Bool) : ParseM Event := do
  let mut t ← peekToken
  if empty then
    expect .flowMappingKey
    return emptyScalar t.start
  if t.kind == .value then
    skipToken
    t ← peekToken
    if t.kind != .flowEntry && t.kind != .flowMappingEnd then
      pushState .flowMappingKey
      return ← node false false
  expect .flowMappingKey
  return emptyScalar t.start

/-- The next event, none once the stream has ended. -/
def nextEvent : ParseM (Option Event) := do
  let p ← get
  if p.lexer.streamEnded || p.state == .finished then return none
  let e ← match p.state with
    | .streamStart => streamStart
    | .implicitDocumentStart => documentStart true
    | .documentStart => documentStart false
    | .documentContent => documentContent
    | .documentEnd => documentEnd
    | .blockNode => node true false
    | .blockNodeOrIndentlessSequence => node true true
    | .flowNode => node false false
    | .blockSequenceFirstEntry => blockSequenceEntry true
    | .blockSequenceEntry => blockSequenceEntry false
    | .indentlessSequenceEntry => indentlessSequenceEntry
    | .blockMappingFirstKey => blockMappingKey true
    | .blockMappingKey => blockMappingKey false
    | .blockMappingValue => blockMappingValue
    | .flowSequenceFirstEntry => flowSequenceEntry true
    | .flowSequenceEntry => flowSequenceEntry false
    | .flowSequenceEntryMappingKey => flowSequenceEntryMappingKey
    | .flowSequenceEntryMappingValue => flowSequenceEntryMappingValue
    | .flowSequenceEntryMappingEnd => flowSequenceEntryMappingEnd
    | .flowMappingFirstKey => flowMappingKey true
    | .flowMappingKey => flowMappingKey false
    | .flowMappingValue => flowMappingValue false
    | .flowMappingEmptyValue => flowMappingValue true
    | .finished => streamStart
  return some e

end Parser
end Yaml
end Tallykeeper
