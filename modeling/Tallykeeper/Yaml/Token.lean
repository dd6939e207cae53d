/-!
# YAML tokens

The tokens of a YAML stream, each with the marks where it starts and stops, and the
failures of reading a stream.

A failure carries the mark of its context and of its problem, and reports the first of
the two lines that is not the stream's first line: a failure found while tokenizing
reports that line counted from one, any other failure the line counted from zero, as the
reader has always done. A failure on the first line reports no line.
-/

namespace Tallykeeper
namespace Yaml

/-- The prefix of the standard tags. -/
def standardPrefix : String := "tag:yaml.org,2002:"

/-- A position in a stream: characters before it, and its line and column from zero. -/
structure Mark where
  index : Nat := 0
  line : Nat := 0
  column : Nat := 0
  deriving DecidableEq, Repr, Inhabited

/-- How a scalar is written. -/
inductive ScalarStyle
  | plain
  | singleQuoted
  | doubleQuoted
  | literal
  | folded
  deriving DecidableEq, Repr, Inhabited

/-- What a token is. -/
inductive TokenKind
  | streamStart
  | streamEnd
  | versionDirective (major minor : Nat)
  | tagDirective (handle pre : String)
  | documentStart
  | documentEnd
  | blockSequenceStart
  | blockMappingStart
  | blockEnd
  | flowSequenceStart
  | flowSequenceEnd
  | flowMappingStart
  | flowMappingEnd
  | blockEntry
  | flowEntry
  | key
  | value
  | alias (name : String)
  | anchor (name : String)
  | tag (handle suffix : String)
  | scalar (text : String) (style : ScalarStyle)
  deriving DecidableEq, Repr, Inhabited

/-- A token with the marks where it starts and stops. -/
structure Token where
  kind : TokenKind
  start : Mark
  stop : Mark
  deriving Repr, Inhabited

/-- The stage of reading that failed. -/
inductive Stage
  /-- Decoding characters. -/
  | reader
  /-- Cutting characters into tokens. -/
  | tokens
  /-- Grouping tokens into events. -/
  | events
  /-- Building nodes or values; such failures have no position. -/
  | nodes
  deriving DecidableEq, Repr, Inhabited

/-- A failure of reading a stream. -/
structure Failure where
  stage : Stage
  contextMark : Mark := {}
  problem : String
  problemMark : Mark := {}
  deriving Repr, Inhabited

/-- The line a failure reports, zero for none. -/
def Failure.line (f : Failure) : Nat :=
  let shift := if f.stage = .tokens then 1 else 0
  if f.stage = .reader || f.stage = .nodes then 0
  else if f.contextMark.line ≠ 0 then f.contextMark.line + shift
  else if f.problemMark.line ≠ 0 then f.problemMark.line + shift
  else 0

/-- The message of a failure. -/
def Failure.message (f : Failure) : String :=
  let place := if f.line = 0 then "" else "line " ++ toString f.line ++ ": "
  "yaml: " ++ place ++ f.problem

end Yaml
end Tallykeeper
