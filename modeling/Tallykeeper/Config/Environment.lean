import Tallykeeper.Config.Settings
import Tallykeeper.Numeral.Duration

/-!
# Settings from the environment

Every setting is read from its environment name when that variable is set, even to the
empty text; the SQLite path also from its second name when the first is unset. Settings
are read in the order they are declared, and the first value that does not read as its
setting's type stops the reading.

Integers take the prefix rule of numerals (`0x`, `0o`, `0b`, a leading `0` for octal,
underscores between digits), truth values the words of truth values, durations the
duration syntax; text is taken as it is.
-/

namespace Tallykeeper
namespace Config

/-- A variable whose value does not read as its setting's type. -/
structure EnvFlaw where
  key : Key
  value : String
  /-- Why the value does not read. -/
  detail : String
  deriving DecidableEq, Repr

/-- The message of an environment flaw. -/
def EnvFlaw.message (e : EnvFlaw) : String :=
  let tick := String.singleton (Char.ofNat 39)
  "envconfig.Process: assigning " ++ e.key.envName ++ " to " ++ e.key.fieldName ++
    ": converting " ++ tick ++ e.value ++ tick ++ " to type " ++ e.key.kind.typeName ++
    ". details: " ++ e.detail

/-- Reads the text of a variable as a value of a kind, or says why it does not read. -/
def Kind.read (kind : Kind) (text : String) : Except String Value :=
  match kind with
  | .text => .ok (.text text)
  | .int | .int64 =>
    match Numeral.parseSigned .prefixed (Text.Utf8.encode text) with
    | .ok n => .ok (.int n.toInt)
    | .error r => .error r.message
  | .uint64 =>
    match Numeral.parseUnsigned .prefixed (Text.Utf8.encode text) with
    | .ok n => .ok (.int n.toNat)
    | .error r => .error r.message
  | .flag =>
    match Numeral.parseBool text with
    | .ok b => .ok (.flag b)
    | .error r => .error r.message
  | .duration =>
    match Numeral.parseDuration text with
    | .ok d => .ok (.int d.toInt)
    | .error m => .error m

/-- The value of a setting's variable, when one of its names is set. -/
def Key.lookupEnv (k : Key) (env : List (String × String)) : Option String :=
  match env.lookup k.envName with
  | some v => some v
  | none =>
    match k.envAlias with
    | some other => env.lookup other
    | none => none

/-- Reads the settings the environment sets, in declaration order. -/
def readEnvironment (env : List (String × String)) :
    List Key → Except EnvFlaw (List (Key × Value))
  | [] => .ok []
  | k :: rest =>
    match k.lookupEnv env with
    | none => readEnvironment env rest
    | some text =>
      match k.kind.read text with
      | .error detail => .error { key := k, value := text, detail }
      | .ok v =>
        match readEnvironment env rest with
        | .ok more => .ok ((k, v) :: more)
        | .error e => .error e

/-- The settings an environment sets, in declaration order. -/
def environmentAssignments (env : List (String × String)) : Except EnvFlaw (List (Key × Value)) :=
  readEnvironment env Key.all

end Config
end Tallykeeper
