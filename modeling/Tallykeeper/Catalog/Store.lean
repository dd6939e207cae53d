import Tallykeeper.Catalog.Memory
import Tallykeeper.Catalog.Relational

/-!
# The catalog store

A service is wired with one catalog store, picked by its engine: the memory store, or the
relational store on the catalog table. Both stamp what they write with the backend's clock
reading; only the relational store sends statements, so only it can find its database
closed.
-/

namespace Tallykeeper
namespace Catalog

open Storage Text

/-- The catalog store of a service. -/
inductive Store
  | memory (s : MemoryStore)
  | relational (s : RelationalStore)
  deriving Repr

namespace Store

/-- The empty store of an engine. -/
def ofEngine : Engine → Store
  | .memory => .memory {}
  | .relational => .relational {}

/-- A step of one of the two stores, as a step of the wired store. -/
def lift {α σ : Type} (wrap : σ → Store) : α × σ → α × Store
  | (a, s) => (a, wrap s)

/-- The stored entries, in the order the store keeps them. -/
def entries : Store → List Entry
  | .memory s => s.entries
  | .relational s => s.entries

/-- The last id handed out. -/
def lastId : Store → Int64
  | .memory s => s.lastId
  | .relational s => s.lastId

/-- Readies the store. -/
def setup (b : Backend) : Store → Except Fault Unit × Store
  | .memory s => (.ok (), .memory s)
  | .relational s => lift .relational (s.setup b)

/-- Drops every entry; the id sequence restarts. -/
def teardown (b : Backend) : Store → Except Fault Unit × Store
  | .memory s => (.ok (), .memory s.teardown)
  | .relational s => lift .relational (s.teardown b)

/-- Registers a new entry under the next id. -/
def create (b : Backend) (e : Entry) : Store → Except Fault Entry × Store
  | .memory s => lift .memory (s.create b.clock e)
  | .relational s => lift .relational (s.create b e)

/-- The entry of a name. -/
def get (b : Backend) (name : ByteString) : Store → Except Fault Entry × Store
  | .memory s => (s.get name, .memory s)
  | .relational s => lift .relational (s.get b name)

/-- The entry of an id. -/
def getById (b : Backend) (id : Int64) : Store → Except Fault Entry × Store
  | .memory s => (s.getById id, .memory s)
  | .relational s => lift .relational (s.getById b id)

/-- The entries a query selects. -/
def query (b : Backend) (q : Query) : Store → Except Fault (List Entry) × Store
  | .memory s => (.ok (s.query q), .memory s)
  | .relational s => lift .relational (s.query b q)

/-- Applies a patch to the entry of an id. -/
def update (b : Backend) (id : Int64) (p : Patch) : Store → Except Fault Entry × Store
  | .memory s => lift .memory (s.update b.clock id p)
  | .relational s => lift .relational (s.update b id p)

end Store

end Catalog
end Tallykeeper
