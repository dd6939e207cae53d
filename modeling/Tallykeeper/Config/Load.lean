import Tallykeeper.Config.File
import Tallykeeper.Config.Flags
import Tallykeeper.Config.Environment
import Tallykeeper.Fault
import Tallykeeper.Value.Codec
import Tallykeeper.Change.Codec

/-!
# Loading the settings

The settings are layered: the defaults, then the settings the configuration file assigns
(when the command line names one), then those the environment sets, then those the
command line gives. Each layer is a list of assignments applied in order, so a later
layer wins over an earlier one for every setting both assign. The command line is read
first and the layers are read in order; the first layer that fails decides the failure.
The result is checked last.

The configuration file is looked up in a working folder that holds only the files given
to it, by path relative to the folder; `.` and `..` steps are followed, and a path that
leaves the folder names nothing there.
-/

namespace Tallykeeper
namespace Config

/-- What a path names in the working folder. -/
inductive Entry
  | file (text : String)
  | folder
  | missing
  /-- A path that goes on after a file, as if the file were a folder. -/
  | throughFile
  deriving DecidableEq, Repr

/-- The working folder: its files by path, steps separated by `/`. -/
structure Folder where
  files : List (String × String)
  deriving DecidableEq, Repr

namespace Folder

/-- The steps of a file's path. -/
def steps (path : String) : List String :=
  (path.splitOn "/").filter (· != "")

/-- Whether a list starts with another. -/
def startsWith : List String → List String → Bool
  | _, [] => true
  | a :: as, b :: bs => a == b && startsWith as bs
  | [], _ :: _ => false

/-- The text of the file at a position, if there is one. -/
def fileAt (f : Folder) (pos : List String) : Option String :=
  (f.files.find? fun (p, _) => steps p == pos).map (·.2)

/-- Whether a position is a folder: the top, or a proper prefix of a file's position. -/
def folderAt (f : Folder) (pos : List String) : Bool :=
  pos.isEmpty || f.files.any fun (p, _) => startsWith (steps p) pos && steps p != pos

/-- Follows the steps of a relative path from a position inside the folder, or from
above its top once a step has left it. Every step needs a folder to start from. -/
def walk (f : Folder) (here : List String) (outside : Bool) : List String → Entry
  | [] =>
    if outside then .folder
    else match f.fileAt here with
      | some text => .file text
      | none => if f.folderAt here then .folder else .missing
  | step :: rest =>
    if outside then
      if step == "" || step == "." || step == ".." then walk f here true rest else .missing
    else if (f.fileAt here).isSome then .throughFile
    else if !f.folderAt here then .missing
    else if step == "" || step == "." then walk f here false rest
    else if step == ".." then
      if here.isEmpty then walk f [] true rest else walk f here.dropLast false rest
    else walk f (here ++ [step]) false rest

/-- What a path names. A path from the root of the file system names nothing in the
folder except the root itself, a folder. -/
def lookup (f : Folder) (path : String) : Entry :=
  match path.toList with
  | '/' :: rest =>
    if rest.all (· == '/') then .folder else .missing
  | _ => walk f [] false (path.splitOn "/")

end Folder

/-- The message of a path that cannot be opened, or none when it can. -/
def openFailure : Entry → Option String
  | .missing => some "no such file or directory"
  | .throughFile => some "not a directory"
  | _ => none

/-- The settings a configuration file assigns. -/
def fileLayer (folder : Folder) (path : String) : Except Fault (List (Key × Value)) :=
  let entry := folder.lookup path
  match openFailure entry with
  | some why => .error (.wrap .invalidInput ("config file: open " ++ path ++ ": " ++ why))
  | none =>
    let within (msg : String) : Except Fault (List (Key × Value)) :=
      .error (.wrap .invalidInput ("config file " ++ path ++ ": " ++ msg))
    match entry with
    | .file text =>
      match Yaml.firstDocument text with
      | .error e => within e.message
      | .ok none => within "EOF"
      | .ok (some doc) =>
        match assignmentsOf doc with
        | .ok as => .ok as
        | .error m => within m
    | _ => within ("yaml: input error: read " ++ path ++ ": is a directory")

namespace Settings

/-- Applies assignments in order. -/
def applyAll (s : Settings) (as : List (Key × Value)) : Settings :=
  as.foldl (fun s (k, v) => s.set k v) s

/-- Checks the settings: a known store (the Postgres store with a URL), a known source, known
codecs, a quota that is not negative over a window of at least a second, and a consumer
group. -/
def validate (s : Settings) : Except Fault Settings := do
  let refuse (msg : String) : Except Fault Unit := .error (.wrap .invalidInput msg)
  let tick := String.singleton (Char.ofNat 39)
  if s.store.kind == "mem" || s.store.kind == "sqlite" then pure ()
  else if s.store.kind == "postgres" then
    if s.store.postgresUrl == "" then refuse "postgres store needs a url"
  else refuse ("store " ++ tick ++ s.store.kind ++ tick ++ " not supported")
  if !(s.stream.source == "nop" || s.stream.source == "redis") then
    refuse ("source " ++ tick ++ s.stream.source ++ tick ++ " not supported")
  match ValueCodec.ofName s.redis.codec with
  | .error f => refuse f.message
  | .ok _ => pure ()
  match EventCodec.ofName s.stream.codec with
  | .error f => refuse f.message
  | .ok _ => pure ()
  if s.rateLimit.limit < 0 || s.rateLimit.window < 1000000000 then
    refuse "rate limit needs a positive limit and a window of at least 1s"
  if s.stream.group == "" then refuse "stream group must be set"
  return s

end Settings

/-- Where the settings come from: the command line, the environment and the working
folder. -/
structure Sources where
  args : List String
  env : List (String × String)
  folder : Folder
  deriving DecidableEq, Repr

/-- The settings the sources give, checked. -/
def Sources.load (src : Sources) : Except Fault Settings := do
  let cl ← match CommandLine.parse src.args with
    | .ok cl => pure cl
    | .error e => throw (.wrap .invalidInput ("flags: " ++ e.message))
  let fromFile ← if cl.file == "" then pure [] else fileLayer src.folder cl.file
  let fromEnv ← match environmentAssignments src.env with
    | .ok as => pure as
    | .error e => throw (.wrap .invalidInput ("environment: " ++ e.message))
  Settings.validate ((({} : Settings).applyAll fromFile).applyAll fromEnv |>.applyAll cl.given)

end Config
end Tallykeeper
