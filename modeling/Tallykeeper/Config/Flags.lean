import Tallykeeper.Config.Settings

/-!
# Command-line flags

The command line names the configuration file and sets some settings directly. A flag is
written `-name` or `--name`, its value either after `=` in the same argument or as the
next argument; a switch (a flag setting a truth value) takes its value only after `=` and
is otherwise set to true. Reading stops at the first argument that is no flag (a lone `-`
included) and after `--`.

A flag given twice keeps its last value. The settings given are kept in the order
written, so the last of them for a setting wins when they are applied.
-/

namespace Tallykeeper
namespace Config

/-- What a flag sets: the path of the configuration file, or a setting. -/
inductive Flag
  | file
  | setting (k : Key)
  deriving DecidableEq, Repr

namespace Flag

/-- The flag of a name. -/
def ofName : String → Option Flag
  | "config" => some .file
  | "listen.addr" => some (.setting .listenAddr)
  | "telemetry.addr" => some (.setting .telemetryAddr)
  | "catalog.warm" => some (.setting .catalogWarm)
  | "ratelimit.limit" => some (.setting .rateLimit)
  | "redis.addr" => some (.setting .redisAddr)
  | "redis.codec" => some (.setting .redisCodec)
  | "store" => some (.setting .storeKind)
  | "postgres.url" => some (.setting .postgresUrl)
  | "sqlite.path" => some (.setting .sqlitePath)
  | "stream.codec" => some (.setting .streamCodec)
  | "stream.consumer" => some (.setting .streamConsumer)
  | "stream.group" => some (.setting .streamGroup)
  | "source" => some (.setting .streamSource)
  | "writer" => some (.setting .writerEnabled)
  | _ => none

/-- The kind of value a flag takes. -/
def kind : Flag → Kind
  | .file => .text
  | .setting k => k.kind

end Flag

/-- Why a command line is refused. -/
inductive ArgFlaw
  /-- An argument of dashes alone, or one whose name starts with a dash or `=`. -/
  | badSyntax (arg : String)
  /-- A request for help. -/
  | help
  /-- A name that no flag has. -/
  | unknown (name : String)
  /-- A switch given a value that is no truth value. -/
  | badSwitch (name value : String)
  /-- A flag that needs a value and is the last argument. -/
  | missingValue (name : String)
  /-- An integer flag given a value that is no integer of its range. -/
  | badNumber (name value : String) (flaw : Numeral.Flaw)
  deriving DecidableEq, Repr

/-- The message of a refused command line. -/
def ArgFlaw.message : ArgFlaw → String
  | .badSyntax arg => "bad flag syntax: " ++ arg
  | .help => "flag: help requested"
  | .unknown name => "flag provided but not defined: -" ++ name
  | .badSwitch name value =>
    "invalid boolean value " ++ Text.Quoted.ofString value ++ " for -" ++ name ++ ": parse error"
  | .missingValue name => "flag needs an argument: -" ++ name
  | .badNumber name value flaw =>
    "invalid value " ++ Text.Quoted.ofString value ++ " for flag -" ++ name ++ ": " ++
      (match flaw with
       | .invalid => "parse error"
       | .range => "value out of range")

/-- What a command line says: the configuration file (empty for none) and the settings it
gives, in the order written. -/
structure CommandLine where
  file : String := ""
  given : List (Key × Value) := []
  deriving DecidableEq, Repr

/-- How an argument reads. -/
inductive ArgShape
  /-- Not a flag: reading stops before it. -/
  | operand
  /-- The marker `--`: reading stops after it. -/
  | finish
  /-- A malformed flag. -/
  | malformed
  /-- A flag by name, with the value written after `=`, if any. -/
  | named (name : String) (value : Option String)
  deriving DecidableEq, Repr

/-- The shape of an argument. -/
def ArgShape.ofArg (arg : String) : ArgShape :=
  match arg.toList with
  | '-' :: '-' :: [] => .finish
  | '-' :: c :: rest =>
    let body := if c == '-' then rest else c :: rest
    match body with
    | [] => .malformed
    | b :: _ =>
      if b == '-' || b == '=' then .malformed
      else
        let name := body.takeWhile (· != '=')
        let after := body.dropWhile (· != '=')
        match after with
        | [] => .named (String.ofList name) none
        | _ :: value => .named (String.ofList name) (some (String.ofList value))
  | _ => .operand

namespace CommandLine

/-- Records the value of a flag. -/
def record (cl : CommandLine) : Flag → Value → CommandLine
  | .file, v => { cl with file := v.asText }
  | .setting k, v => { cl with given := cl.given ++ [(k, v)] }

/-- The value a flag that takes a value reads from its text. -/
def valueOf (name : String) (f : Flag) (text : String) : Except ArgFlaw Value :=
  match f.kind with
  | .int | .int64 | .uint64 | .duration =>
    match Numeral.parseSigned .prefixed (Text.Utf8.encode text) with
    | .ok n => .ok (.int n.toInt)
    | .error r => .error (.badNumber name text r.flaw)
  | .flag =>
    match Numeral.parseBool text with
    | .ok b => .ok (.flag b)
    | .error _ => .error (.badSwitch name text)
  | .text => .ok (.text text)

/-- Reads the flags of the remaining arguments into what is already read. -/
def readFrom (cl : CommandLine) (args : List String) : Except ArgFlaw CommandLine :=
  match args with
  | [] => .ok cl
  | arg :: rest =>
    match ArgShape.ofArg arg with
    | .operand | .finish => .ok cl
    | .malformed => .error (.badSyntax arg)
    | .named name value =>
      match Flag.ofName name with
      | none => .error (if name == "help" || name == "h" then .help else .unknown name)
      | some f =>
        if f.kind == .flag then
          match value with
          | none => readFrom (cl.record f (.flag true)) rest
          | some text =>
            match valueOf name f text with
            | .ok v => readFrom (cl.record f v) rest
            | .error e => .error e
        else
          match value, _hr : rest with
          | some text, _ =>
            match valueOf name f text with
            | .ok v => readFrom (cl.record f v) rest
            | .error e => .error e
          | none, text :: more =>
            match valueOf name f text with
            | .ok v => readFrom (cl.record f v) more
            | .error e => .error e
          | none, [] => .error (.missingValue name)
termination_by args.length
decreasing_by
  all_goals
    first
    | exact Nat.lt_succ_self _
    | (subst_vars; exact Nat.lt_succ_self _)
    | (subst_vars; exact Nat.lt_succ_of_lt (Nat.lt_succ_self _))

/-- Reads a command line. -/
def parse (args : List String) : Except ArgFlaw CommandLine :=
  readFrom {} args

end CommandLine

end Config
end Tallykeeper
