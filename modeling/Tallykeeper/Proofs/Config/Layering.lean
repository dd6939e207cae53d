import Mathlib
import Tallykeeper.Config.Load

/-!
# Layered settings

The settings are read from four layers: the defaults, the configuration file, the
environment and the command line. Each layer is a list of assignments, and applying the
layers in that order lets a later one win. Seen one setting at a time, the value of a
setting is the last value the command line gives it, else the last the environment gives
it, else the last the file gives it, else its default (`layered`). A flag given with its
default value still wins, since the command line records every flag it reads, and a
setting no flag writes never appears among the command line's assignments.

The main statement, `settings_come_from_highest_layer`, adds that the loaded settings are
those the checks accept, and that every refusal, whichever layer or check it comes from, is
an invalid-input fault.
-/

namespace Tallykeeper
namespace Config

/-- The value a setting of a kind keeps from an assignment: a text, an integer or a truth
value, whatever the assignment carried. -/
def Value.fit : Kind → Value → Value
  | .text, v => .text v.asText
  | .flag, v => .flag v.asFlag
  | _, v => .int v.asInt

namespace Settings

/-- The value of one setting. -/
def get (s : Settings) : Key → Value
  | .listenAddr => .text s.listenAddr
  | .telemetryAddr => .text s.telemetryAddr
  | .catalogCapacity => .int s.cache.catalogCapacity
  | .catalogTtl => .int s.cache.catalogTtl
  | .catalogWarm => .flag s.cache.catalogWarm
  | .valueCapacity => .int s.cache.valueCapacity
  | .valueTtl => .int s.cache.valueTtl
  | .rateLimit => .int s.rateLimit.limit
  | .rateWindow => .int s.rateLimit.window
  | .redisAddr => .text s.redis.addr
  | .redisCodec => .text s.redis.codec
  | .redisDb => .int s.redis.db
  | .redisPassword => .text s.redis.password
  | .storeKind => .text s.store.kind
  | .postgresUrl => .text s.store.postgresUrl
  | .sqlitePath => .text s.store.sqlitePath
  | .streamBlock => .int s.stream.block
  | .streamCodec => .text s.stream.codec
  | .streamConsumer => .text s.stream.consumer
  | .streamCount => .int s.stream.count
  | .streamGroup => .text s.stream.group
  | .streamKey => .text s.stream.key
  | .streamSource => .text s.stream.source
  | .writerEnabled => .flag s.writer.enabled
  | .initialInterval => .int s.writer.initialInterval
  | .maxInterval => .int s.writer.maxInterval
  | .readRetries => .int s.writer.readRetries
  | .setupRetries => .int s.writer.setupRetries

@[simp] theorem get_set_self (s : Settings) (k : Key) (v : Value) :
    (s.set k v).get k = v.fit k.kind := by
  cases k <;> rfl

/-- Setting one value leaves every other setting as it was. -/
theorem get_set_of_ne
    (s : Settings)
    {k k' : Key}
    (v : Value)
    (other : k' ≠ k) :
    (s.set k v).get k' = s.get k' := by
  cases k <;> cases k' <;> first | rfl | exact absurd rfl other

theorem applyAll_append_single (s : Settings) (as : List (Key × Value)) (k : Key) (v : Value) :
    s.applyAll (as ++ [(k, v)]) = (s.applyAll as).set k v := by
  simp [applyAll]

end Settings

/-- The value of the last assignment of a setting in a list of assignments. -/
def lastAssigned (as : List (Key × Value)) (k : Key) : Option Value :=
  as.reverse.lookup k

theorem lastAssigned_append_single (as : List (Key × Value)) (k k' : Key) (v : Value) :
    lastAssigned (as ++ [(k', v)]) k = if k' = k then some v else lastAssigned as k := by
  by_cases same : k' = k
  · subst same
    simp [lastAssigned]
  · have differs : (k == k') = false := beq_eq_false_iff_ne.mpr (Ne.symm same)
    simp [lastAssigned, List.lookup_cons, differs, same]

/-- Applying a list of assignments gives a setting the value of its last assignment, and
leaves a setting with none as it was. -/
theorem Settings.applyAll_get (s : Settings) (as : List (Key × Value)) (k : Key) :
    (s.applyAll as).get k = ((lastAssigned as k).map (·.fit k.kind)).getD (s.get k) := by
  induction as using List.reverseRecOn with
  | nil => rfl
  | append_singleton as a ih =>
    obtain ⟨k', v⟩ := a
    rw [Settings.applyAll_append_single, lastAssigned_append_single]
    by_cases same : k' = k
    · subst same
      simp
    · rw [Settings.get_set_of_ne _ _ (Ne.symm same), if_neg same, ih]

/-- The value of a setting after the layers: the last the command line gives, else the last
the environment gives, else the last the configuration file gives, else the default. -/
def layered (given fromEnv fromFile : List (Key × Value)) (k : Key) : Value :=
  ((lastAssigned given k <|> lastAssigned fromEnv k <|> lastAssigned fromFile k).map
    (·.fit k.kind)).getD (({} : Settings).get k)

/-- Applying the file, the environment and the command line over the defaults gives every
setting its layered value. -/
theorem applyAll_layers_get (given fromEnv fromFile : List (Key × Value)) (k : Key) :
    (((({} : Settings).applyAll fromFile).applyAll fromEnv).applyAll given).get k =
      layered given fromEnv fromFile k := by
  simp only [Settings.applyAll_get, layered]
  cases lastAssigned given k <;> cases lastAssigned fromEnv k <;> rfl

/-! ## The command line writes only flagged settings -/

/-- A setting some flag of the command line writes. -/
def Key.Flagged (k : Key) : Prop :=
  ∃ name, Flag.ofName name = some (.setting k)

/-- Recording the value of a known flag adds at most the setting that flag writes. -/
theorem CommandLine.flagged_record
    {cl : CommandLine}
    {name : String}
    {f : Flag}
    (v : Value)
    (known : Flag.ofName name = some f)
    (flagged : ∀ p ∈ cl.given, p.1.Flagged) :
    ∀ p ∈ (cl.record f v).given, p.1.Flagged := by
  cases f with
  | file => exact flagged
  | setting k =>
    intro p member
    rcases List.mem_append.mp member with old | new
    · exact flagged p old
    · rw [List.mem_singleton.mp new]
      exact ⟨name, known⟩

/-- Reading flags keeps every setting the command line gives a flagged one. -/
theorem CommandLine.flagged_readFrom
    {cl cl' : CommandLine}
    {args : List String}
    (read : cl.readFrom args = .ok cl')
    (flagged : ∀ p ∈ cl.given, p.1.Flagged) :
    ∀ p ∈ cl'.given, p.1.Flagged := by
  -- the reader stops (cases 1 to 3), fails (the others), or records a known flag and goes on
  fun_induction CommandLine.readFrom cl args with
  | case1 | case2 | case3 =>
    cases read
    exact flagged
  | case6 _ _ _ _ _ known _ _ ih | case7 _ _ _ _ _ known _ _ _ _ _ ih
  | case9 _ _ _ _ _ known _ _ _ _ _ ih | case11 _ _ _ _ known _ _ _ _ _ _ ih =>
    exact ih read (flagged_record _ known flagged)
  | case4 | case5 | case8 | case10 | case12 | case13 => cases read

/-! ## Refusals -/

/-- The checks answer the settings themselves, or refuse them as invalid input. -/
theorem Settings.validate_cases (s : Settings) :
    s.validate = .ok s ∨ ∃ m, s.validate = .error (.wrap .invalidInput m) := by
  unfold Settings.validate
  simp only [bind, Except.bind, pure, Except.pure]
  -- each check either passes or refuses with an invalid-input fault
  repeat' split
  all_goals simp

/-- A configuration file that cannot be used is refused as invalid input. -/
theorem fileLayer_refuses
    {folder : Folder}
    {path : String}
    {f : Fault}
    (refused : fileLayer folder path = .error f) :
    f.is .invalidInput = true := by
  unfold fileLayer at refused
  simp only at refused
  -- every branch that fails wraps its message as invalid input
  repeat' split at refused
  all_goals cases refused <;> simp

/-- With every layer read, the loading checks the settings the layers make. -/
theorem Sources.load_of_layers
    {src : Sources}
    {cl : CommandLine}
    {fromFile fromEnv : List (Key × Value)}
    (parsed : CommandLine.parse src.args = .ok cl)
    (noFile : cl.file = "" → fromFile = [])
    (filed : cl.file ≠ "" → fileLayer src.folder cl.file = .ok fromFile)
    (read : environmentAssignments src.env = .ok fromEnv) :
    src.load = (((({} : Settings).applyAll fromFile).applyAll fromEnv).applyAll cl.given).validate := by
  by_cases named : cl.file = ""
  · simp [Sources.load, bind, Except.bind, pure, Except.pure, parsed, named, noFile named, read]
  · simp [Sources.load, bind, Except.bind, pure, Except.pure, parsed, named, filed named, read]

/-- The checks refuse settings only as invalid input. -/
theorem Settings.validate_refuses {s : Settings} {f : Fault} (rejected : s.validate = .error f) :
    f.is .invalidInput = true := by
  rcases s.validate_cases with accepted | ⟨m, refusedAs⟩
  · rw [accepted] at rejected
    cases rejected
  · rw [refusedAs] at rejected
    cases rejected
    simp

/-- Every refusal of the loading, from the command line, the file, the environment or the
checks, is an invalid-input fault. -/
theorem Sources.load_refuses
    {src : Sources}
    {f : Fault}
    (refused : src.load = .error f) :
    f.is .invalidInput = true := by
  simp only [Sources.load, bind, Except.bind, pure, Except.pure, throw, throwThe,
    MonadExceptOf.throw] at refused
  -- the sources are read in the order of the loading, and the first that fails decides
  cases parsed : CommandLine.parse src.args with
  | error e =>
    simp only [parsed] at refused
    cases refused
    simp
  | ok cl =>
    simp only [parsed] at refused
    -- the file layer is empty when no file is named; the environment is read after it
    split at refused
    · split at refused
      · exact Settings.validate_refuses refused
      · cases refused
        simp
    · split at refused
      · next filed =>
        cases refused
        exact fileLayer_refuses filed
      · split at refused
        · exact Settings.validate_refuses refused
        · cases refused
          simp
/-- Layered settings. Every refusal of the loading is an invalid-input fault. When the
command line reads, the file it names (if any) reads and the environment reads, every
setting the command line gives is one some flag writes, and the loaded settings are those
the checks make of settings `s` in which each setting has its layered value: the last value
an explicit flag gives it (even its default value), else the environment's, else the
file's, else the default. The checks either accept `s` as it is or refuse it as invalid
input. -/
theorem settings_come_from_highest_layer (src : Sources) :
    (∀ f, src.load = .error f → f.is .invalidInput = true) ∧
      ∀ (cl : CommandLine) (fromFile fromEnv : List (Key × Value)),
        CommandLine.parse src.args = .ok cl →
        (cl.file = "" → fromFile = []) →
        (cl.file ≠ "" → fileLayer src.folder cl.file = .ok fromFile) →
        environmentAssignments src.env = .ok fromEnv →
        (∀ p ∈ cl.given, p.1.Flagged) ∧
          ∃ s : Settings, (∀ k, s.get k = layered cl.given fromEnv fromFile k) ∧
            src.load = s.validate ∧
            (s.validate = .ok s ∨ ∃ m, s.validate = .error (.wrap .invalidInput m)) := by
  refine ⟨fun f refused => Sources.load_refuses refused, ?_⟩
  intro cl fromFile fromEnv parsed noFile filed read
  exact ⟨CommandLine.flagged_readFrom parsed (fun _ none => by cases none), _,
    applyAll_layers_get cl.given fromEnv fromFile,
    Sources.load_of_layers parsed noFile filed read, Settings.validate_cases _⟩

/-- With `NAMED_LISTEN_ADDR` set, a listen address flag given with its default value still
wins over the environment. -/
theorem settings_come_from_highest_layer_explicit_default :
    CommandLine.parse ["-listen.addr", ":8083", "-store", "mem"] =
        .ok { given := [(.listenAddr, .text ":8083"), (.storeKind, .text "mem")] } ∧
      environmentAssignments [("NAMED_LISTEN_ADDR", ":7000")] =
        .ok [(.listenAddr, .text ":7000")] ∧
      ∃ s : Settings, s.get .listenAddr = .text ":8083" ∧
        Sources.load ⟨["-listen.addr", ":8083", "-store", "mem"], [("NAMED_LISTEN_ADDR", ":7000")],
          ⟨[]⟩⟩ = s.validate := by
  have parsed : CommandLine.parse ["-listen.addr", ":8083", "-store", "mem"] =
      .ok { given := [(.listenAddr, .text ":8083"), (.storeKind, .text "mem")] } := by
    cbv
  have read : environmentAssignments [("NAMED_LISTEN_ADDR", ":7000")] =
      .ok [(.listenAddr, .text ":7000")] := by
    decide
  obtain ⟨-, s, values, loaded, -⟩ :=
    (settings_come_from_highest_layer ⟨["-listen.addr", ":8083", "-store", "mem"],
      [("NAMED_LISTEN_ADDR", ":7000")], ⟨[]⟩⟩).2 _ [] _ parsed
      (fun _ => rfl) (fun named => absurd rfl named) read
  exact ⟨parsed, read, s, values .listenAddr, loaded⟩

end Config
end Tallykeeper
