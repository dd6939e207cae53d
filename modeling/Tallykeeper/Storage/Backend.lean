import Tallykeeper.Fault

/-!
# Storage backends

Durable rows live either in memory or in a relational database. A relational table is
created on first use: a store remembers whether its table is ready and creates it
before a statement when it is not. The catalog and the counter rows share one database;
once it is closed every statement fails with `sql: database is closed`, and so does
creating or dropping a table, whose failure also names the statement.

The backend also carries the reading of the wall clock that stamps the rows written, in
nanoseconds since the Unix epoch.
-/

namespace Tallykeeper
namespace Storage

/-- Where durable rows live. -/
inductive Engine
  | memory
  | relational
  deriving DecidableEq, Repr

/-- A storage backend: its engine, whether a relational database is still open, and the
clock reading that stamps writes. -/
structure Backend where
  engine : Engine := .memory
  online : Bool := true
  clock : Int64 := 0
  deriving DecidableEq, Repr

/-- The message of a statement on a closed database. -/
def closedMessage : String := "sql: database is closed"

namespace Backend

/-- Whether the database refuses statements. -/
def closed (b : Backend) : Bool :=
  b.engine == .relational && !b.online

/-- Creates a table, failing on a closed database with the statement named. -/
def setup (b : Backend) (statement : String) : Except Fault Unit :=
  if b.closed then .error (.foreign ("setup '" ++ statement ++ "': " ++ closedMessage))
  else .ok ()

/-- Drops a table, failing on a closed database with the statement named. -/
def teardown (b : Backend) (statement : String) : Except Fault Unit :=
  if b.closed then .error (.foreign ("teardown '" ++ statement ++ "': " ++ closedMessage))
  else .ok ()

/-- Readies a table before a statement: a ready table, or any table in memory, needs
nothing; otherwise the table is created. -/
def ensure (b : Backend) (ready : Bool) (statement : String) : Except Fault Unit :=
  if ready || b.engine == .memory then .ok () else b.setup statement

/-- Runs a statement, which fails on a closed database. -/
def run (b : Backend) : Except Fault Unit :=
  if b.closed then .error (.foreign closedMessage) else .ok ()

/-- Readies a table, then runs a statement on it. -/
def prepare (b : Backend) (ready : Bool) (statement : String) : Except Fault Unit := do
  b.ensure ready statement
  b.run

@[simp] theorem run_memory (o : Bool) (clock : Int64) :
    ({ engine := .memory, online := o, clock } : Backend).run = .ok () := by
  simp [run, closed]

end Backend

end Storage
end Tallykeeper
