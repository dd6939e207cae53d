import Tallykeeper.Catalog.Table
import Tallykeeper.Storage.Backend

/-!
# The relational catalog store

The relational store keeps its entries in the catalog table of a database and remembers
whether it readied the table. Before its first statement, and before the first after a
teardown, it creates the table; a creation that fails fails the call with
`setup '<statement>': <error>`.

Creating validates the entry, then inserts it with the clock reading as both stamps. The
table's unique constraint refuses a taken name, which the store reports as
`entry not unique: name '<name>'`. A query becomes a select with an `IN` list of the asked
ids and one of the asked names, one placeholder per element and each list only when it is
not empty, under `LIMIT` when the limit is positive; a lookup by name or by id is such a
query with limit one. Updating checks that the patch sets something, looks the entry up by
id, validates the patched entry, and then sends an update whose `SET` list assigns the
fields the patch sets, in the order name, description, default value, and last the clock
reading as the update stamp. Any other refusal of the database is passed on with its
message.
-/

namespace Tallykeeper
namespace Catalog

open Storage Text

/-- The relational catalog store: the catalog table, none while it does not exist, and
whether the store readied it. -/
structure RelationalStore where
  table : Option Table := none
  ready : Bool := false
  deriving Repr

namespace RelationalStore

/-- The stored entries, in rowid order. -/
def entries (s : RelationalStore) : List Entry :=
  match s.table with
  | some t => t.rows.map Row.entry
  | none => []

/-- The last id the table's sequence handed out. -/
def lastId (s : RelationalStore) : Int64 :=
  match s.table with
  | some t => t.sequence
  | none => 0

/-- Sends a statement with its arguments. -/
def exec (b : Backend) (st : Statement) (args : List Value) (s : RelationalStore) :
    Except StatementError (List Row) × RelationalStore :=
  let (r, table) := Table.exec b.closed st args s.table
  (r, { s with table })

/-- Creates the table and marks it ready. -/
def setup (b : Backend) (s : RelationalStore) : Except Fault Unit × RelationalStore :=
  match s.exec b .createTable [] with
  | (.error e, s') => (.error (.foreign ("setup '" ++ createTable ++ "': " ++ e.message)), s')
  | (.ok _, s') => (.ok (), { s' with ready := true })

/-- Drops the table with its sequence, and marks it unready. -/
def teardown (b : Backend) (s : RelationalStore) : Except Fault Unit × RelationalStore :=
  match s.exec b .dropTable [] with
  | (.error e, s') => (.error (.foreign ("teardown '" ++ dropTable ++ "': " ++ e.message)), s')
  | (.ok _, s') => (.ok (), { s' with ready := false })

/-- Creates the table unless it is ready. -/
def ensure (b : Backend) (s : RelationalStore) : Except Fault Unit × RelationalStore :=
  if s.ready then (.ok (), s) else s.setup b

/-- The `IN` conditions of a query and their arguments: the asked ids, then the asked
names, each list only when it is not empty. -/
def conditions (q : Query) : List Within × List Value :=
  let ids : List Within × List Value :=
    if q.ids.isEmpty then ([], []) else ([⟨.id, q.ids.length⟩], q.ids.map .int)
  let names : List Within × List Value :=
    if q.names.isEmpty then ([], []) else ([⟨.name, q.names.length⟩], q.names.map .text)
  (ids.1 ++ names.1, ids.2 ++ names.2)

/-- The limit of a query's select: present only for a positive limit. -/
def limitOf (q : Query) : Option Nat :=
  if q.limit > 0 then some q.limit.toNat else none

/-- The entries a query selects. -/
def query (b : Backend) (q : Query) (s : RelationalStore) :
    Except Fault (List Entry) × RelationalStore :=
  match s.ensure b with
  | (.error f, s') => (.error f, s')
  | (.ok (), s') =>
    match s'.exec b (.select (conditions q).1 (limitOf q)) (conditions q).2 with
    | (.error e, s'') => (.error (.foreign e.message), s'')
    | (.ok rows, s'') => (.ok (rows.map Row.entry), s'')

/-- The entry of a name. -/
def get (b : Backend) (name : ByteString) (s : RelationalStore) :
    Except Fault Entry × RelationalStore :=
  match query b { names := [name], limit := 1 } s with
  | (.error f, s') => (.error f, s')
  | (.ok [], s') => (.error (missingName name), s')
  | (.ok (e :: _), s') => (.ok e, s')

/-- The entry of an id. -/
def getById (b : Backend) (id : Int64) (s : RelationalStore) :
    Except Fault Entry × RelationalStore :=
  match query b { ids := [id], limit := 1 } s with
  | (.error f, s') => (.error f, s')
  | (.ok [], s') => (.error (missingId id), s')
  | (.ok (e :: _), s') => (.ok e, s')

/-- The message of a statement that was to return a row and returned none. -/
def noRows : String := "sql: no rows in result set"

/-- Inserts a valid entry, stamped with the clock reading. -/
def create (b : Backend) (e : Entry) (s : RelationalStore) :
    Except Fault Entry × RelationalStore :=
  match e.validate with
  | .error f => (.error f, s)
  | .ok () =>
    match s.ensure b with
    | (.error f, s') => (.error f, s')
    | (.ok (), s') =>
      let args := [.text e.name, .text e.description, .int e.defaultValue, .int b.clock,
        .int b.clock]
      match s'.exec b .insert args with
      | (.ok (row :: _), s'') => (.ok row.entry, s'')
      | (.ok [], s'') => (.error (.foreign noRows), s'')
      | (.error .unique, s'') => (.error (taken e.name), s'')
      | (.error e, s'') => (.error (.foreign e.message), s'')

/-- The `SET` list of a patch and its arguments: the name, the description and the default
value, each only when the patch sets it. -/
def assignments (p : Patch) : List Assignment × List Value :=
  let name : List Assignment × List Value :=
    match p.name with
    | some n => ([.name], [.text n])
    | none => ([], [])
  let description : List Assignment × List Value :=
    match p.description with
    | some d => ([.description], [.text d])
    | none => ([], [])
  let defaultValue : List Assignment × List Value :=
    match p.defaultValue with
    | some v => ([.defaultValue], [.int v])
    | none => ([], [])
  (name.1 ++ description.1 ++ defaultValue.1, name.2 ++ description.2 ++ defaultValue.2)

/-- Applies a non-empty patch to the entry of an id, stamping the write with the clock
reading. -/
def update (b : Backend) (id : Int64) (p : Patch) (s : RelationalStore) :
    Except Fault Entry × RelationalStore :=
  if p.isEmpty then (.error (noFields id), s)
  else
    match getById b id s with
    | (.error f, s1) => (.error f, s1)
    | (.ok current, s1) =>
      match (p.apply current).validate with
      | .error f => (.error f, s1)
      | .ok () =>
        let set := assignments p
        match s1.exec b (.update (set.1 ++ [.updatedAt])) (set.2 ++ [.int b.clock, .int id]) with
        | (.ok (row :: _), s2) => (.ok row.entry, s2)
        | (.ok [], s2) => (.error (missingId id), s2)
        -- the constraint can only fail on a name the patch sets
        | (.error .unique, s2) => (.error (taken (p.apply current).name), s2)
        | (.error e, s2) => (.error (.foreign e.message), s2)

end RelationalStore

end Catalog
end Tallykeeper
