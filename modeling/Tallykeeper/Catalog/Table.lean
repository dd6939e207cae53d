import Tallykeeper.Catalog.Entry

/-!
# The catalog table

The relational catalog lives in the table `catalog`: an autoincrementing integer key `id`,
a unique text `name`, a `description`, a `default_value`, and the stamps `created_at_ns` and
`updated_at_ns`. The store sends it statements with positional placeholders, each `?`
taking the next argument. This module gives those statements their meaning on a table of
rows, as SQLite runs them:

* `INSERT` gives the new row the next rowid, one past the greater of the table's sequence
  and its largest rowid, and fails with `database or disk is full` when that greater one is
  the largest 64-bit value. A name another row holds fails the unique constraint. A failed
  insert changes nothing, the sequence included.
* `SELECT … WHERE c IN (?, …) AND … ORDER BY id ASC LIMIT n` answers the rows whose
  columns lie in their bound lists, in id order, the first `n` of them.
* `UPDATE catalog SET c = ?, … WHERE id = ?` assigns the bound values to the row of an id
  and answers it as written; a name another row holds fails the unique constraint, and
  no row under the id answers no row.
* `CREATE TABLE IF NOT EXISTS` creates an empty table with a fresh sequence, and
  `DROP TABLE IF EXISTS` drops the table together with its sequence.

Every statement on a closed database fails with `sql: database is closed`, a statement given
the wrong number of arguments fails before it runs, and a statement on the table while it
does not exist fails with `no such table: catalog`.
-/

namespace Tallykeeper
namespace Catalog

open Text (ByteString)

/-- The statement that creates the catalog table. -/
def createTable : String :=
  "\n\t\tCREATE TABLE IF NOT EXISTS catalog(\n\t\t\tid INTEGER PRIMARY KEY AUTOINCREMENT,\n" ++
  "\t\t\tname TEXT NOT NULL UNIQUE,\n\t\t\tdescription TEXT NOT NULL DEFAULT '',\n" ++
  "\t\t\tdefault_value INTEGER NOT NULL DEFAULT 0,\n\t\t\tcreated_at_ns INTEGER NOT NULL,\n" ++
  "\t\t\tupdated_at_ns INTEGER NOT NULL\n\t\t)"

/-- The statement that drops the catalog table. -/
def dropTable : String := "DROP TABLE IF EXISTS catalog"

/-- A column of the catalog table. -/
inductive Column
  | id
  | name
  | description
  | defaultValue
  | createdAt
  | updatedAt
  deriving DecidableEq, Repr

/-- A value bound to a placeholder or held in a column: an integer or a text. -/
inductive Value
  | int (v : Int64)
  | text (t : ByteString)
  deriving DecidableEq, Repr

/-- A row of the catalog table. -/
structure Row where
  id : Int64
  name : ByteString
  description : ByteString
  defaultValue : Int64
  createdAtNs : Int64
  updatedAtNs : Int64
  deriving DecidableEq, Repr

namespace Row

/-- The value a row holds in a column. -/
def get (r : Row) : Column → Value
  | .id => .int r.id
  | .name => .text r.name
  | .description => .text r.description
  | .defaultValue => .int r.defaultValue
  | .createdAt => .int r.createdAtNs
  | .updatedAt => .int r.updatedAtNs

/-- The entry a row reads back as. -/
def entry (r : Row) : Entry :=
  { id := r.id, name := r.name, description := r.description,
    defaultValue := r.defaultValue, createdAt := r.createdAtNs, updatedAt := r.updatedAtNs }

end Row

/-- A column an update can assign: the four that the store's `SET` lists name. -/
inductive Assignment
  | name
  | description
  | defaultValue
  | updatedAt
  deriving DecidableEq, Repr

/-- Assigns a bound value to a row's column. A value of the other type is refused: the
store never binds one, so the column affinities that would convert it are left out. -/
def Assignment.assign : Assignment → Value → Row → Option Row
  | .name, .text t, r => some { r with name := t }
  | .description, .text t, r => some { r with description := t }
  | .defaultValue, .int v, r => some { r with defaultValue := v }
  | .updatedAt, .int v, r => some { r with updatedAtNs := v }
  | _, _, _ => none

/-- A condition `column IN (?, …)` with the number of its placeholders. -/
structure Within where
  column : Column
  arity : Nat
  deriving DecidableEq, Repr

/-- A statement the store sends to the catalog table. -/
inductive Statement
  /-- `CREATE TABLE IF NOT EXISTS catalog(…)` -/
  | createTable
  /-- `DROP TABLE IF EXISTS catalog` -/
  | dropTable
  /-- `INSERT INTO catalog(name, description, default_value, created_at_ns, updated_at_ns)
  VALUES(?, ?, ?, ?, ?) RETURNING …` -/
  | insert
  /-- `SELECT … FROM catalog WHERE c IN (?, …) AND … ORDER BY id ASC LIMIT n`, with no
  `WHERE` for no condition and no `LIMIT` for no limit. -/
  | select (conditions : List Within) (limit : Option Nat)
  /-- `UPDATE catalog SET c = ?, … WHERE id = ? RETURNING …` -/
  | update (assignments : List Assignment)
  deriving DecidableEq, Repr

/-- The number of placeholders of a statement. -/
def Statement.placeholders : Statement → Nat
  | .createTable | .dropTable => 0
  | .insert => 5
  | .select conditions _ => conditions.foldr (fun c n => c.arity + n) 0
  | .update assignments => assignments.length + 1

/-- Why the database refused a statement. -/
inductive StatementError
  | closed
  | noTable
  | unique
  | full
  | mismatch
  | arguments (expected given : Nat)
  deriving DecidableEq, Repr

/-- The message of a refusal. -/
def StatementError.message : StatementError → String
  | .closed => "sql: database is closed"
  | .noTable => "SQL logic error: no such table: catalog (1)"
  | .unique => "constraint failed: UNIQUE constraint failed: catalog.name (2067)"
  | .full => "database or disk is full (13)"
  | .mismatch => "datatype mismatch (20)"
  | .arguments expected given =>
    "sql: expected " ++ toString expected ++ " arguments, got " ++ toString given

/-- The catalog table: its rows in rowid order, and its sequence, the largest rowid it
handed out. -/
structure Table where
  rows : List Row := []
  sequence : Int64 := 0
  deriving Repr

namespace Table

/-- The greater of the sequence and the largest rowid. -/
def top (t : Table) : Int64 :=
  t.rows.foldl (fun m r => if m < r.id then r.id else m) t.sequence

/-- Inserts a row under the next rowid, answering it. -/
def insert (name description : ByteString) (defaultValue createdAt updatedAt : Int64)
    (t : Table) : Except StatementError (Row × Table) :=
  if t.top = Int64.maxValue then .error .full
  else if t.rows.any (·.name == name) then .error .unique
  else
    let row : Row :=
      { id := t.top + 1, name, description, defaultValue,
        createdAtNs := createdAt, updatedAtNs := updatedAt }
    .ok (row, { rows := t.rows ++ [row], sequence := row.id })

/-- The conditions of a select, each with its own arguments taken in order. -/
def bind : List Within → List Value → List (Column × List Value)
  | [], _ => []
  | c :: rest, args => (c.column, args.take c.arity) :: bind rest (args.drop c.arity)

/-- The rows whose columns lie in their bound lists, in id order, at most `n` of them under
a limit `n`. -/
def select (conditions : List (Column × List Value)) (limit : Option Nat) (t : Table) :
    List Row :=
  let hits := (t.rows.filter fun r => conditions.all fun c => c.2.contains (r.get c.1)).mergeSort
    fun a b => decide (a.id ≤ b.id)
  match limit with
  | some n => hits.take n
  | none => hits

/-- Assigns bound values to a row, in order. -/
def assignAll : List (Assignment × Value) → Row → Option Row
  | [], r => some r
  | (a, v) :: rest, r => (a.assign v r).bind (assignAll rest)

/-- Assigns bound values to the row of an id and answers the row as written; with no row
under the id it answers no row. -/
def update (assignments : List (Assignment × Value)) (id : Int64) (t : Table) :
    Except StatementError (List Row × Table) :=
  match t.rows.find? (·.id == id) with
  | none => .ok ([], t)
  | some r =>
    match assignAll assignments r with
    | none => .error .mismatch
    | some written =>
      if t.rows.any (fun o => o.id != id && o.name == written.name) then .error .unique
      else .ok ([written], { t with rows := t.rows.map fun o => if o.id == id then written else o })

/-- Runs a statement on the catalog table, none while it does not exist, binding the
arguments to the placeholders in order; answers the rows the statement returns. -/
def exec (closed : Bool) (st : Statement) (args : List Value) (t : Option Table) :
    Except StatementError (List Row) × Option Table :=
  if closed then (.error .closed, t)
  else if args.length ≠ st.placeholders then
    (.error (.arguments st.placeholders args.length), t)
  else
    match st, t with
    | .createTable, _ => (.ok [], some (t.getD {}))
    | .dropTable, _ => (.ok [], none)
    | _, none => (.error .noTable, none)
    | .insert, some tb =>
      match args with
      | [.text name, .text description, .int defaultValue, .int createdAt, .int updatedAt] =>
        match tb.insert name description defaultValue createdAt updatedAt with
        | .ok (row, tb') => (.ok [row], some tb')
        | .error e => (.error e, some tb)
      | _ => (.error .mismatch, some tb)
    | .select conditions limit, some tb => (.ok (tb.select (bind conditions args) limit), some tb)
    | .update assignments, some tb =>
      -- the assigned values come first, the id last
      match args.drop assignments.length with
      | [.int id] =>
        match tb.update (assignments.zip args) id with
        | .ok (rows, tb') => (.ok rows, some tb')
        | .error e => (.error e, some tb)
      | _ => (.error .mismatch, some tb)

end Table

end Catalog
end Tallykeeper
