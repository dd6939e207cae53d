import Tallykeeper.Storage.Backend
import Tallykeeper.Numeral.Integer

/-!
# The ledger of counter values

The ledger keeps the durable value of every counter of every user, one row per
(counter, user) pair, each row with an id of its own. Creating a row that exists fails
with `counter exists: counter <c> user <u>`; reading or updating one that does not fails
with `counter not found: counter <c> user <u>`. An upsert creates or overwrites.

Row ids come from a sequence. In memory the sequence moves only when a row is created.
In the relational table it moves on every upsert, also one that overwrites an existing
row (the row keeps its id, the number is spent all the same), and it never moves for a
statement that fails. Dropping the table restarts the sequence at one.
-/

namespace Tallykeeper
namespace Ledger

open Storage

/-- The statement that creates the counters table. -/
def createTable : String :=
  "\n\t\tCREATE TABLE IF NOT EXISTS counters(\n\t\t\tid INTEGER PRIMARY KEY AUTOINCREMENT,\n" ++
  "\t\t\tcounter_id INTEGER NOT NULL,\n\t\t\tuser_id INTEGER NOT NULL,\n" ++
  "\t\t\tvalue INTEGER NOT NULL,\n\t\t\tcreated_at_ns INTEGER NOT NULL,\n" ++
  "\t\t\tupdated_at_ns INTEGER NOT NULL,\n\n\t\t\tUNIQUE (counter_id, user_id)\n\t\t)"

/-- The statement that drops the counters table. -/
def dropTable : String := "DROP TABLE IF EXISTS counters"

/-- The durable value of one counter of one user. -/
structure Row where
  id : Int64
  counterId : Int64
  userId : Int64
  value : Int64
  deriving DecidableEq, Repr

/-- The ledger: its rows, the last id handed out, and whether the table exists. -/
structure Store where
  rows : List Row := []
  lastId : Int64 := 0
  ready : Bool := true
  deriving Repr

namespace Store

/-- The words that name a row's key in faults. -/
def keyWords (counterId userId : Int64) : String :=
  "counter " ++ Numeral.decimal counterId ++ " user " ++ Numeral.decimal userId

/-- The row of a key, if any. -/
def find? (s : Store) (counterId userId : Int64) : Option Row :=
  s.rows.find? fun r => r.counterId == counterId && r.userId == userId

/-- Readies the table for a statement and runs it. -/
def prepare (b : Backend) (s : Store) : Except Fault Unit × Store :=
  match b.ensure s.ready createTable with
  | .error f => (.error f, s)
  | .ok () => (b.run, { s with ready := s.ready || b.engine == .relational })

/-- Creates the table. -/
def setup (b : Backend) (s : Store) : Except Fault Unit × Store :=
  match b.setup createTable with
  | .error f => (.error f, s)
  | .ok () => (.ok (), { s with ready := true })

/-- Drops the table with its rows; the id sequence restarts. -/
def teardown (b : Backend) (s : Store) : Except Fault Unit × Store :=
  match b.teardown dropTable with
  | .error f => (.error f, s)
  | .ok () => (.ok (), { rows := [], lastId := 0, ready := b.engine == .memory })

/-- Adds a new row under the next id. -/
def insert (s : Store) (counterId userId value : Int64) : Row × Store :=
  let r : Row := { id := s.lastId + 1, counterId, userId, value }
  (r, { s with rows := s.rows ++ [r], lastId := r.id })

/-- Sets the value of an existing row. -/
def overwrite (s : Store) (r : Row) (value : Int64) : Row × Store :=
  let r' := { r with value }
  (r', { s with rows := s.rows.map fun o => if o.id == r.id then r' else o })

/-- The row of a key. -/
def get (b : Backend) (counterId userId : Int64) (s : Store) : Except Fault Row × Store :=
  match prepare b s with
  | (.error f, s') => (.error f, s')
  | (.ok (), s') =>
    match s'.find? counterId userId with
    | some r => (.ok r, s')
    | none => (.error (.wrap .counterNotFound (keyWords counterId userId)), s')

/-- Creates the row of a key that has none. -/
def create (b : Backend) (counterId userId value : Int64) (s : Store) : Except Fault Row × Store :=
  match prepare b s with
  | (.error f, s') => (.error f, s')
  | (.ok (), s') =>
    match s'.find? counterId userId with
    | some _ => (.error (.wrap .counterExists (keyWords counterId userId)), s')
    | none => let (r, s'') := s'.insert counterId userId value; (.ok r, s'')

/-- Sets the value of the row of a key that has one. -/
def update (b : Backend) (counterId userId value : Int64) (s : Store) : Except Fault Row × Store :=
  match prepare b s with
  | (.error f, s') => (.error f, s')
  | (.ok (), s') =>
    match s'.find? counterId userId with
    | some r => let (r', s'') := s'.overwrite r value; (.ok r', s'')
    | none => (.error (.wrap .counterNotFound (keyWords counterId userId)), s')

/-- Creates or overwrites the row of a key. -/
def upsert (b : Backend) (counterId userId value : Int64) (s : Store) : Except Fault Row × Store :=
  match prepare b s with
  | (.error f, s') => (.error f, s')
  | (.ok (), s') =>
    match s'.find? counterId userId with
    | none => let (r, s'') := s'.insert counterId userId value; (.ok r, s'')
    | some r =>
      let spent := if b.engine == .relational then { s' with lastId := s'.lastId + 1 } else s'
      let (r', s'') := spent.overwrite r value
      (.ok r', s'')

end Store

end Ledger
end Tallykeeper
