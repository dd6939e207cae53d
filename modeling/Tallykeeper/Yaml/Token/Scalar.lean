import Tallykeeper.Yaml.Token.Space

/-!
# Scalar tokens

The three ways of writing a scalar: plain, quoted (with `'` or `"`), and as a block
(`|` literal, `>` folded).

Line breaks inside a plain or quoted scalar fold: a single break becomes a space, and of
several breaks the first is dropped. Blanks around breaks are dropped. A plain scalar
ends before `: ` or ` #`, before a line that is indented no deeper than its block, at a
document marker, and in flow context before `,`, `?`, `[`, `]`, `{` or `}`. Inside `'`
quotes `''` stands for `'`; inside `"` quotes the backslash escapes single characters,
code points written in 2, 4 or 8 hexadecimal digits, and line breaks.

A block scalar takes the lines indented at least as deep as its first non-empty line
(or as its indentation indicator says). A literal one keeps its line breaks, a folded one
joins lines that start with no blank by a space. The chomping indicator decides the final
line breaks: `-` drops them all, none keeps one, `+` keeps all.
-/

namespace Tallykeeper
namespace Yaml
namespace Lexer

/-- Whether a document marker `---` or `...` starts the current line. -/
def atDocumentMarker : LexM Bool := do
  let s ← get
  let c0 ← peek 0
  let c1 ← peek 1
  let c2 ← peek 2
  let c3 ← peek 3
  return s.mark.column == 0 &&
    ((c0 == '-' && c1 == '-' && c2 == '-') || (c0 == '.' && c1 == '.' && c2 == '.')) &&
    isBlankOrEnd c3

/-- The line breaks that end a folded run: one break becomes a space, and of several
breaks the first is dropped; a line or paragraph separator is kept. -/
def foldBreaks (leadingBreak trailingBreaks : String) : String :=
  if leadingBreak.front == '\n' then
    if trailingBreaks.isEmpty then " " else trailingBreaks
  else leadingBreak ++ trailingBreaks

/-- Whether a character ends a plain scalar at the current place. -/
def endsPlain (flowLevel : Nat) (c next : Char) : Bool :=
  (c == ':' && isBlankOrEnd next) ||
    (flowLevel > 0 && (c == ',' || c == '?' || c == '[' || c == ']' || c == '{' || c == '}'))

/-- Reads a plain scalar. -/
def scanPlainScalar : LexM Token := do
  let s0 ← get
  let indent : Int := s0.indent + 1
  let start := s0.mark
  let mut stop := s0.mark
  let mut text := ""
  let mut leadingBreak := ""
  let mut trailingBreaks := ""
  let mut whitespaces := ""
  let mut leadingBlanks := false
  let fuel ← budget
  for _ in [0:fuel] do
    cache 4
    if ← atDocumentMarker then break
    if (← peek 0) == '#' then break
    for _ in [0:fuel] do
      let c ← peek 0
      if isBlankOrEnd c then break
      if endsPlain (← get).flowLevel c (← peek 1) then break
      if leadingBlanks then
        text := text ++ foldBreaks leadingBreak trailingBreaks
        trailingBreaks := ""
        leadingBreak := ""
        leadingBlanks := false
      else if !whitespaces.isEmpty then
        text := text ++ whitespaces
        whitespaces := ""
      text ← read text
      stop := (← get).mark
      cache 2
    let c ← peek 0
    if !(isBlank c || isBreak c) then break
    cache 1
    for _ in [0:fuel] do
      let c ← peek 0
      if !(isBlank c || isBreak c) then break
      if isBlank c then
        if leadingBlanks && ((← get).mark.column : Int) < indent && c == '\t' then
          fail start "found a tab character that violates indentation"
        if leadingBlanks then skip else whitespaces ← read whitespaces
      else
        cache 2
        if leadingBlanks then
          trailingBreaks ← readLine trailingBreaks
        else
          whitespaces := ""
          leadingBreak ← readLine leadingBreak
          leadingBlanks := true
      cache 1
    let s ← get
    if s.flowLevel == 0 && (s.mark.column : Int) < indent then break
  if leadingBlanks then modify fun s => { s with keyAllowed := true }
  return { kind := .scalar text .plain, start, stop }

/-- The character a backslash escape stands for, or the number of hexadecimal digits
that follow it, or nothing for an unknown escape. -/
def escapeOf (c : Char) : Option (Char ⊕ Nat) :=
  match c with
  | '0' => some (.inl '\x00')
  | 'a' => some (.inl '\x07')
  | 'b' => some (.inl '\x08')
  | 't' => some (.inl '\t')
  | '\t' => some (.inl '\t')
  | 'n' => some (.inl '\n')
  | 'v' => some (.inl '\x0b')
  | 'f' => some (.inl '\x0c')
  | 'r' => some (.inl '\r')
  | 'e' => some (.inl '\x1b')
  | ' ' => some (.inl ' ')
  | '"' => some (.inl '"')
  | '\\' => some (.inl '\\')
  | 'N' => some (.inl '\u0085')
  | '_' => some (.inl '\u00A0')
  | 'L' => some (.inl '\u2028')
  | 'P' => some (.inl '\u2029')
  | 'x' => some (.inr 2)
  | 'u' => some (.inr 4)
  | 'U' => some (.inr 8)
  | other => if other == tick then some (.inl tick) else none

/-- Reads the hexadecimal digits of an escaped code point. -/
def scanCodePoint (start : Mark) (width : Nat) : LexM Char := do
  cache width
  let mut value := 0
  for k in [0:width] do
    let h ← peek k
    if !isHex h then fail start "did not find expected hexdecimal number"
    value := value * 16 + hexValue h
  if (0xD800 ≤ value && value ≤ 0xDFFF) || value > 0x10FFFF then
    fail start "found invalid Unicode character escape code"
  skipN width
  return Char.ofNat value

/-- Reads a quoted scalar, between apostrophes when `single`, else between double
quotes. -/
def scanFlowScalar (single : Bool) : LexM Token := do
  let start := (← get).mark
  skip
  let mut text := ""
  let mut leadingBreak := ""
  let mut trailingBreaks := ""
  let mut whitespaces := ""
  let fuel ← budget
  for _ in [0:fuel] do
    cache 4
    if ← atDocumentMarker then fail start "found unexpected document indicator"
    if isEnd (← peek 0) then fail start "found unexpected end of stream"
    let mut leadingBlanks := false
    for _ in [0:fuel] do
      let c ← peek 0
      if isBlankOrEnd c then break
      let next ← peek 1
      if single && c == tick && next == tick then
        text := text.push tick
        skipN 2
      else if single && c == tick then break
      else if !single && c == '"' then break
      else if !single && c == '\\' && isBreak next then
        cache 3
        skip
        skipLine
        leadingBlanks := true
        break
      else if !single && c == '\\' then
        match escapeOf next with
        | none => fail start "found unknown escape character"
        | some (.inl e) =>
          text := text.push e
          skipN 2
        | some (.inr width) =>
          skipN 2
          text := text.push (← scanCodePoint start width)
      else text ← read text
      cache 2
    cache 1
    let c ← peek 0
    if (single && c == tick) || (!single && c == '"') then break
    for _ in [0:fuel] do
      let c ← peek 0
      if !(isBlank c || isBreak c) then break
      if isBlank c then
        if leadingBlanks then skip else whitespaces ← read whitespaces
      else
        cache 2
        if leadingBlanks then
          trailingBreaks ← readLine trailingBreaks
        else
          whitespaces := ""
          leadingBreak ← readLine leadingBreak
          leadingBlanks := true
      cache 1
    if leadingBlanks then
      text := text ++ (if leadingBreak.isEmpty then trailingBreaks
        else foldBreaks leadingBreak trailingBreaks)
      trailingBreaks := ""
      leadingBreak := ""
    else
      text := text ++ whitespaces
      whitespaces := ""
  skip
  return { kind := .scalar text (if single then .singleQuoted else .doubleQuoted),
           start, stop := (← get).mark }

/-- Passes the indentation and empty lines before a line of a block scalar, collecting
the line breaks; fixes the indentation when it is not yet known. Answers the
indentation, the breaks and the mark after the last break. -/
def scanBlockBreaks (indent : Nat) (breaks : String) (start : Mark) :
    LexM (Nat × String × Mark) := do
  let mut stop := (← get).mark
  let mut deepest := 0
  let mut brs := breaks
  let fuel ← budget
  for _ in [0:fuel] do
    cache 1
    for _ in [0:fuel] do
      let s ← get
      if (indent == 0 || s.mark.column < indent) && (← peek 0) == ' ' then
        skip
        cache 1
      else break
    let col := (← get).mark.column
    if col > deepest then deepest := col
    let c ← peek 0
    if (indent == 0 || col < indent) && c == '\t' then
      fail start "found a tab character where an indentation space is expected"
    if !isBreak c then break
    cache 2
    brs ← readLine brs
    stop := (← get).mark
  if indent == 0 then
    let floor := (← get).indent + 1
    let fixed := if (deepest : Int) < floor then floor.toNat else deepest
    return (max fixed 1, brs, stop)
  return (indent, brs, stop)

/-- Reads a block scalar, literal or folded. -/
def scanBlockScalar (literal : Bool) : LexM Token := do
  let start := (← get).mark
  skip
  cache 1
  let mut chomping : Int := 0
  let mut increment := 0
  let c ← peek 0
  if c == '+' || c == '-' then
    chomping := if c == '+' then 1 else -1
    skip
    cache 1
    let d ← peek 0
    if isDigit d then
      if d == '0' then fail start "found an indentation indicator equal to 0"
      increment := d.toNat - '0'.toNat
      skip
  else if isDigit c then
    if c == '0' then fail start "found an indentation indicator equal to 0"
    increment := c.toNat - '0'.toNat
    skip
    cache 1
    let d ← peek 0
    if d == '+' || d == '-' then
      chomping := if d == '+' then 1 else -1
      skip
  let fuel ← budget
  cache 1
  for _ in [0:fuel] do
    if isBlank (← peek 0) then
      skip
      cache 1
    else break
  if (← peek 0) == '#' then
    for _ in [0:fuel] do
      if isBreakOrEnd (← peek 0) then break
      skip
      cache 1
  if !isBreakOrEnd (← peek 0) then fail start "did not find expected comment or line break"
  if isBreak (← peek 0) then
    cache 2
    skipLine
  let blockIndent := (← get).indent
  let mut indent : Nat :=
    if increment > 0 then
      if blockIndent ≥ 0 then (blockIndent + increment).toNat else increment
    else 0
  let mut text := ""
  let mut leadingBreak := ""
  let (i0, b0, e0) ← scanBlockBreaks indent "" start
  indent := i0
  let mut trailingBreaks := b0
  let mut stop := e0
  cache 1
  let mut leadingBlank := false
  for _ in [0:fuel] do
    let c ← peek 0
    if !((← get).mark.column == indent && !isEnd c) then break
    let trailingBlank := isBlank c
    if !literal && !leadingBlank && !trailingBlank && leadingBreak.front == '\n' &&
        !leadingBreak.isEmpty then
      if trailingBreaks.isEmpty then text := text.push ' '
    else text := text ++ leadingBreak
    leadingBreak := ""
    text := text ++ trailingBreaks
    trailingBreaks := ""
    leadingBlank := isBlank c
    for _ in [0:fuel] do
      if isBreakOrEnd (← peek 0) then break
      text ← read text
      cache 1
    cache 2
    leadingBreak ← readLine leadingBreak
    let (i1, b1, e1) ← scanBlockBreaks indent "" start
    indent := i1
    trailingBreaks := b1
    stop := e1
  if chomping != -1 then text := text ++ leadingBreak
  if chomping == 1 then text := text ++ trailingBreaks
  return { kind := .scalar text (if literal then .literal else .folded), start, stop }

end Lexer
end Yaml
end Tallykeeper
