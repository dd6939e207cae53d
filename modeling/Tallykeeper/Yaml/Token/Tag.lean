import Tallykeeper.Yaml.Token.Space

/-!
# Anchors, tags and directives

An anchor `&name` or alias `*name` is a run of ASCII letters, digits, `_` and `-`, ended
by a blank or one of `? : , ] } % @` and the backquote.

A tag is `!<uri>` (verbatim), `!handle!suffix`, or `!suffix`; the lone `!` has an empty
handle and the suffix `!`. Its characters are those of a URI, where `%` starts an escaped
UTF-8 byte. A tag ends at a blank, or at `,` in flow context.

A directive starts a line with `%`: `%YAML major.minor` with numbers of at most two
digits, or `%TAG handle prefix`. The rest of its line may hold only a comment.
-/

namespace Tallykeeper
namespace Yaml
namespace Lexer

/-- Whether a character ends an anchor or alias. -/
def endsAnchor (c : Char) : Bool :=
  isBlankOrEnd c || c == '?' || c == ':' || c == ',' || c == ']' || c == '}' || c == '%' ||
    c == '@' || c == Char.ofNat 96

/-- Reads an anchor, or an alias when `isAlias`. -/
def scanAnchor (isAlias : Bool) : LexM Token := do
  let start := (← get).mark
  skip
  cache 1
  let mut name := ""
  for _ in [0:(← budget)] do
    if !isWordChar (← peek 0) then break
    name ← read name
    cache 1
  let stop := (← get).mark
  if name.isEmpty || !endsAnchor (← peek 0) then
    fail start "did not find expected alphabetic or numeric character"
  return { kind := if isAlias then .alias name else .anchor name, start, stop }

/-- Whether a character may appear in a tag; `,`, `[` and `]` only in a verbatim tag. -/
def isUriChar (verbatim : Bool) (c : Char) : Bool :=
  isWordChar c || ";/?:@&=+$.!~*()%".contains c || c == tick ||
    (verbatim && (c == ',' || c == '[' || c == ']'))

/-- The number of bytes of a UTF-8 sequence that starts with a byte, zero when none
does. -/
def sequenceWidth (b : Nat) : Nat :=
  if b &&& 0x80 == 0 then 1
  else if b &&& 0xE0 == 0xC0 then 2
  else if b &&& 0xF0 == 0xE0 then 3
  else if b &&& 0xF8 == 0xF0 then 4
  else 0

/-- Reads one escaped UTF-8 character of a tag, `%` and two hexadecimal digits per byte. -/
def scanUriEscapes (start : Mark) (bytes : List UInt8) : LexM (List UInt8) := do
  let mut left := 1024
  let mut out := bytes
  for _ in [0:(← budget)] do
    if left == 0 then break
    cache 3
    let c0 ← peek 0
    let c1 ← peek 1
    let c2 ← peek 2
    if !(c0 == '%' && isHex c1 && isHex c2) then fail start "did not find URI escaped octet"
    let octet := hexValue c1 * 16 + hexValue c2
    if left == 1024 then
      left := sequenceWidth octet
      if left == 0 then fail start "found an incorrect leading UTF-8 octet"
    else if octet &&& 0xC0 != 0x80 then
      fail start "found an incorrect trailing UTF-8 octet"
    out := out ++ [octet.toUInt8]
    skipN 3
    left := left - 1
  return out

/-- Reads the URI part of a tag, after the text `head` less its first character. -/
def scanTagUri (verbatim : Bool) (head : String) (start : Mark) : LexM String := do
  let mut bytes := Text.Utf8.encode (head.drop 1).toString
  let mut found := !head.isEmpty
  cache 1
  for _ in [0:(← budget)] do
    let c ← peek 0
    if !isUriChar verbatim c then break
    if c == '%' then bytes ← scanUriEscapes start bytes
    else
      bytes := bytes ++ Text.Utf8.encodeChar c
      skip
    cache 1
    found := true
  if !found then fail start "did not find expected tag URI"
  return Text.Utf8.lossy bytes

/-- Reads a tag handle: `!`, then word characters, then `!` if present. In a directive
the handle must be `!` or end with `!`. -/
def scanTagHandle (directive : Bool) (start : Mark) : LexM String := do
  cache 1
  if (← peek 0) != '!' then fail start ("did not find expected " ++ ticked "!")
  let mut h ← read ""
  cache 1
  for _ in [0:(← budget)] do
    if !isWordChar (← peek 0) then break
    h ← read h
    cache 1
  if (← peek 0) == '!' then h ← read h
  else if directive && h != "!" then fail start ("did not find expected " ++ ticked "!")
  return h

/-- Reads a tag. -/
def scanTag : LexM Token := do
  let start := (← get).mark
  cache 2
  let mut handle := ""
  let mut suffix := ""
  if (← peek 1) == '<' then
    skipN 2
    suffix ← scanTagUri true "" start
    if (← peek 0) != '>' then fail start ("did not find the expected " ++ ticked ">")
    skip
  else
    handle ← scanTagHandle false start
    if handle.length > 1 && handle.front == '!' && handle.back == '!' then
      suffix ← scanTagUri false "" start
    else
      suffix ← scanTagUri false handle start
      handle := "!"
      if suffix.isEmpty then
        suffix := "!"
        handle := ""
  cache 1
  let c ← peek 0
  if !isBlankOrEnd c && ((← get).flowLevel == 0 || c != ',') then
    fail start "did not find expected whitespace or line break"
  return { kind := .tag handle suffix, start, stop := (← get).mark }

/-- Passes blanks. -/
def skipBlanks : LexM Unit := do
  cache 1
  for _ in [0:(← budget)] do
    if !isBlank (← peek 0) then break
    skip
    cache 1

/-- Reads a version number of at most two digits. -/
def scanVersionNumber (start : Mark) : LexM Nat := do
  cache 1
  let mut value := 0
  let mut length := 0
  for _ in [0:(← budget)] do
    let c ← peek 0
    if !isDigit c then break
    length := length + 1
    if length > 2 then fail start "found extremely long version number"
    value := value * 10 + (c.toNat - '0'.toNat)
    skip
    cache 1
  if length == 0 then fail start "did not find expected version number"
  return value

/-- Reads a directive. -/
def scanDirective : LexM Token := do
  let start := (← get).mark
  skip
  cache 1
  let mut name := ""
  for _ in [0:(← budget)] do
    if !isWordChar (← peek 0) then break
    name ← read name
    cache 1
  if name.isEmpty then fail start "could not find expected directive name"
  if !isBlankOrEnd (← peek 0) then fail start "found unexpected non-alphabetical character"
  let kind ←
    if name == "YAML" then do
      skipBlanks
      let major ← scanVersionNumber start
      if (← peek 0) != '.' then
        fail start ("did not find expected digit or " ++ ticked "." ++ " character")
      skip
      let minor ← scanVersionNumber start
      pure (TokenKind.versionDirective major minor)
    else if name == "TAG" then do
      skipBlanks
      let handle ← scanTagHandle true start
      cache 1
      if !isBlank (← peek 0) then fail start "did not find expected whitespace"
      skipBlanks
      let pre ← scanTagUri true "" start
      cache 1
      if !isBlankOrEnd (← peek 0) then fail start "did not find expected whitespace or line break"
      pure (TokenKind.tagDirective handle pre)
    else fail start "found unknown directive name"
  let stop := (← get).mark
  skipBlanks
  if (← peek 0) == '#' then
    for _ in [0:(← budget)] do
      if isBreakOrEnd (← peek 0) then break
      skip
      cache 1
  if !isBreakOrEnd (← peek 0) then fail start "did not find expected comment or line break"
  if isBreak (← peek 0) then
    cache 2
    skipLine
  return { kind, start, stop }

end Lexer
end Yaml
end Tallykeeper
