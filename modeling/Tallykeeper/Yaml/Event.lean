import Tallykeeper.Yaml.Token.Fetch

/-!
# YAML events

Tokens group into events: the starts and ends of the stream, of documents and of
collections, scalars and aliases. The grouping is a machine whose state says what may
come next (a document, a block node, the next entry of a flow sequence, …) with a stack
of states to return to after a nested node, and a stack of the marks where open
collections started, which failures name as their context.

Events are made one at a time, and each takes only the tokens it needs.
-/

namespace Tallykeeper
namespace Yaml

/-- What an event is. Anchor and tag are empty when absent. -/
inductive EventKind
  | streamStart
  | streamEnd
  | documentStart
  | documentEnd
  | alias (name : String)
  | scalar (anchor tag value : String) (style : ScalarStyle)
  | sequenceStart (anchor tag : String)
  | sequenceEnd
  | mappingStart (anchor tag : String)
  | mappingEnd
  deriving DecidableEq, Repr, Inhabited

/-- An event with the marks where it starts and stops. -/
structure Event where
  kind : EventKind
  start : Mark
  stop : Mark
  deriving Repr, Inhabited

/-- What the event machine expects next. -/
inductive Expecting
  | streamStart
  | implicitDocumentStart
  | documentStart
  | documentContent
  | documentEnd
  | blockNode
  | blockNodeOrIndentlessSequence
  | flowNode
  | blockSequenceFirstEntry
  | blockSequenceEntry
  | indentlessSequenceEntry
  | blockMappingFirstKey
  | blockMappingKey
  | blockMappingValue
  | flowSequenceFirstEntry
  | flowSequenceEntry
  | flowSequenceEntryMappingKey
  | flowSequenceEntryMappingValue
  | flowSequenceEntryMappingEnd
  | flowMappingFirstKey
  | flowMappingKey
  | flowMappingValue
  | flowMappingEmptyValue
  | finished
  deriving DecidableEq, Repr, Inhabited

/-- The state of grouping tokens into events. -/
structure Parser where
  lexer : Lexer
  state : Expecting := .streamStart
  states : List Expecting := []
  marks : List Mark := []
  /-- The tag handles in force and their prefixes. -/
  tagDirectives : List (String × String) := []
  deriving Inhabited

/-- Grouping tokens into events, step by step. -/
abbrev ParseM := EStateM Failure Parser

namespace Parser

/-- The parser of a text. -/
def ofString (s : String) : Parser :=
  { lexer := Lexer.ofString s }

/-- Runs a lexer step. -/
def lex {α : Type} (m : LexM α) : ParseM α := fun p =>
  match m p.lexer with
  | .ok a l => .ok a { p with lexer := l }
  | .error e l => .error e { p with lexer := l }

/-- A bound on the steps of any loop over tokens. -/
def budget : ParseM Nat := lex Lexer.budget

/-- The next token, found when needed. -/
def peekToken : ParseM Token := do
  if !(← get).lexer.available then lex Lexer.fetchMoreTokens
  match (← get).lexer.queue with
  | t :: _ => return t
  | [] => throw { stage := .events, problem := "did not find expected token" }

/-- Hands on the next token. -/
def skipToken : ParseM Unit := modify fun p =>
  match p.lexer.queue with
  | t :: rest =>
    { p with lexer := { p.lexer with
        available := false, taken := p.lexer.taken + 1,
        streamEnded := t.kind == .streamEnd, queue := rest } }
  | [] => p

/-- Fails at a token. -/
def fail {α : Type} (problem : String) (problemMark : Mark) : ParseM α :=
  throw { stage := .events, problem, problemMark }

/-- Fails at a token, in a context that starts at a mark. -/
def failIn {α : Type} (contextMark : Mark) (problem : String) (problemMark : Mark) :
    ParseM α :=
  throw { stage := .events, contextMark, problem, problemMark }

/-- Sets what is expected next. -/
def expect (s : Expecting) : ParseM Unit := modify fun p => { p with state := s }

/-- Remembers what to expect after a nested node. -/
def pushState (s : Expecting) : ParseM Unit := modify fun p => { p with states := s :: p.states }

/-- Returns to what was expected before a nested node. -/
def popState : ParseM Unit := modify fun p =>
  match p.states with
  | s :: rest => { p with state := s, states := rest }
  | [] => p

/-- Remembers where a collection starts. -/
def pushMark (m : Mark) : ParseM Unit := modify fun p => { p with marks := m :: p.marks }

/-- Forgets where the innermost collection starts, answering it. -/
def popMark : ParseM Mark := do
  let p ← get
  match p.marks with
  | m :: rest =>
    set { p with marks := rest }
    return m
  | [] => return {}

/-- An empty plain scalar at a mark. -/
def emptyScalar (m : Mark) : Event :=
  { kind := .scalar "" "" "" .plain, start := m, stop := m }

/-- Whether a token is a directive. -/
def isDirective (t : Token) : Bool :=
  match t.kind with
  | .versionDirective _ _ | .tagDirective _ _ => true
  | _ => false

/-- Adds a tag handle; a second one of a name fails unless duplicates are allowed. -/
def addTagDirective (d : String × String) (allowDuplicates : Bool) (m : Mark) : ParseM Unit := do
  let p ← get
  if p.tagDirectives.any (·.1 == d.1) then
    if allowDuplicates then return
    fail "found duplicate %TAG directive" m
  set { p with tagDirectives := p.tagDirectives ++ [d] }

/-- Reads the directives before a document and adds the default tag handles. -/
def processDirectives : ParseM Unit := do
  let mut version := false
  let mut t ← peekToken
  for _ in [0:(← budget)] do
    match t.kind with
    | .versionDirective major minor =>
      if version then fail "found duplicate %YAML directive" t.start
      if major != 1 || minor != 1 then fail "found incompatible YAML document" t.start
      version := true
    | .tagDirective handle pre => addTagDirective (handle, pre) false t.start
    | _ => break
    skipToken
    t ← peekToken
  addTagDirective ("!", "!") true t.start
  addTagDirective ("!!", standardPrefix) true t.start

end Parser

end Yaml
end Tallykeeper
