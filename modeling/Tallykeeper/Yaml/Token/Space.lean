import Tallykeeper.Yaml.Token.Lexer

/-!
# Blanks and comments between tokens

Between tokens the lexer passes spaces, line breaks and comments. Tabs are passed only in
flow context or where no simple key may start, since in block context they would count
as indentation. A line break in block context lets a simple key start again.

A comment runs from `#` to the end of its line. Once a comment is passed, further
comments that follow after nothing but blanks and line breaks (within 512 characters, and
not past a closing bracket of a flow collection) are passed with it, together with what
lies between them. A comment on the rest of a token's line is passed right after the
token.
-/

namespace Tallykeeper
namespace Yaml
namespace Lexer

/-- Passes characters up to a position and then a comment up to its line break. -/
def passCommentAt (seen : Nat) : LexM Unit := do
  for _ in [0:(← budget)] do
    cache 1
    let c ← peek 0
    let s ← get
    if isBreakOrEnd c then
      if s.mark.index ≥ seen then break
      cache 2
      skipLine
    else skip

/-- Passes a comment and the comments that follow it after blanks and line breaks. -/
def passComments : LexM Unit := do
  let mut off := 0
  for _ in [0:(← budget)] do
    if off ≥ 512 then break
    cache (off + 1)
    let c ← peek off
    let s ← get
    if isBlank c then
      off := off + 1
      continue
    let closesFlow := s.flowLevel > 0 && (c == ']' || c == '}')
    if closesFlow || isBreakOrEnd c then
      if !isBreak c then break
      off := off + 1
      continue
    if c != '#' then break
    passCommentAt (s.mark.index + off)
    off := 1

/-- Passes a comment on the rest of the current line, if the last token ended the line's
content. -/
def passLineComment : LexM Unit := do
  if (← get).newlines > 0 then return
  for off in [0:512] do
    cache (off + 1)
    let c ← peek off
    if isBlank c then continue
    if c == '#' then passCommentAt ((← get).mark.index + off)
    break

/-- Passes spaces, tabs where allowed, comments and line breaks up to the next token. -/
def skipToToken : LexM Unit := do
  let fuel ← budget
  for _ in [0:fuel] do
    cache 1
    if (← get).mark.column == 0 && (← peek 0) == '\uFEFF' then skip
    cache 1
    for _ in [0:fuel] do
      let c ← peek 0
      let s ← get
      if c == ' ' || ((s.flowLevel > 0 || !s.keyAllowed) && c == '\t') then
        skip
        cache 1
      else break
    if (← peek 0) == '#' then passComments
    if isBreak (← peek 0) then
      cache 2
      skipLine
      if (← get).flowLevel == 0 then modify fun s => { s with keyAllowed := true }
    else break

end Lexer
end Yaml
end Tallykeeper
