import Tallykeeper.Service.World

/-!
# Catalog operations

Registering a name looks it up first and answers the stored entry when there is one;
otherwise it creates the entry, and when the creation finds the name taken (another
registration won the race) it looks the name up again. Either way the name's id is
then written to the `ids` cache.

Resolving a name reads the `ids` cache, so a cached id is served even when the store
changed since. Reading one entry and listing all entries go to the store. Updating an
entry needs a non-empty patch and an existing id; after a rename the old name is dropped
from the cache and the new one cached.

Store faults are turned into the service's faults: absence into `resource not found`,
invalid or duplicate entries into `invalid entity`, anything else into
`store unavailable` with the failed step named.
-/

namespace Tallykeeper
namespace Service

open Catalog Text

/-- The fault of a name that is not registered. -/
def unregistered (name : ByteString) : Fault :=
  .wrap .notFound ("counter '" ++ name.text ++ "' is not registered")

/-- Caches the id of an entry and answers the entry. -/
def cacheEntry (e : Entry) (w : World) : Except Fault Entry × World :=
  let (r, w') := w.cacheId e.name e.id
  (r.map fun _ => e, w')

/-- Registers a counter name, answering the stored entry when the name exists. -/
def register (name description : ByteString) (defaultValue : Int64) (w : World) :
    Except Fault Entry × World :=
  let lookup (w : World) := w.onStores (·.catalogCall .get fun b c => c.get b name)
  match lookup w with
  | (.ok e, w1) => cacheEntry e w1
  | (.error f, w1) =>
    if !f.is .entryNotFound then (.error (f.under .unavailable "catalog lookup: "), w1)
    else
      let fresh : Entry := { name, description, defaultValue }
      match w1.onStores (·.catalogCall .create fun b c => c.create b fresh) with
      | (.ok e, w2) => cacheEntry e w2
      | (.error g, w2) =>
        if g.is .invalidEntry then (.error (g.under .invalidEntity ""), w2)
        else if g.is .entryNotUnique then
          match lookup w2 with
          | (.ok e, w3) => cacheEntry e w3
          | (.error h, w3) => (.error (h.under .unavailable "catalog lookup: "), w3)
        else (.error (g.under .unavailable "catalog create: "), w2)

/-- The id of a registered name, through the `ids` cache. -/
def resolve (name : ByteString) (w : World) : Except Fault Int64 × World :=
  match w.resolveId name with
  | (.ok id, w') => (.ok id, w')
  | (.error f, w') =>
    if f.is .keyNotFound then (.error (unregistered name), w')
    else (.error (f.under .unavailable "catalog lookup: "), w')

/-- The stored entry of a name. -/
def catalogGet (name : ByteString) (w : World) : Except Fault Entry × World :=
  match w.onStores (·.catalogCall .get fun b c => c.get b name) with
  | (.ok e, w') => (.ok e, w')
  | (.error f, w') =>
    if f.is .entryNotFound then (.error (unregistered name), w')
    else (.error (f.under .unavailable "catalog lookup: "), w')

/-- All stored entries, in id order. -/
def catalogList (w : World) : Except Fault (List Entry) × World :=
  match w.onStores (·.catalogCall .query fun b c => c.query b {}) with
  | (.ok es, w') => (.ok es, w')
  | (.error f, w') => (.error (f.under .unavailable "catalog query: "), w')

/-- The fault of an id that names no entry. -/
def noEntry (id : Int64) : Fault :=
  .wrap .notFound ("catalog entry " ++ Numeral.decimal id)

/-- Applies a patch to the entry of an id and keeps the `ids` cache in step. -/
def catalogUpdate (id : Int64) (p : Patch) (w : World) : Except Fault Entry × World :=
  if p.isEmpty then
    (.error (.wrap .notFound ("no fields to update for " ++ Numeral.decimal id)), w)
  else
    match w.onStores (·.catalogCall .getById fun b c => c.getById b id) with
    | (.error f, w1) =>
      if f.is .entryNotFound then (.error (noEntry id), w1)
      else (.error (f.under .unavailable "catalog lookup: "), w1)
    | (.ok old, w1) =>
      match w1.onStores (·.catalogCall .update fun b c => c.update b id p) with
      | (.error g, w2) =>
        if g.is .entryNotFound then (.error (noEntry id), w2)
        else if g.is .invalidEntry || g.is .entryNotUnique then
          (.error (g.under .invalidEntity ""), w2)
        else (.error (g.under .unavailable "catalog update: "), w2)
      | (.ok e, w2) =>
        if old.name != e.name then
          match w2.forgetId old.name with
          | (.error h, w3) => (.error h, w3)
          | (.ok (), w3) => cacheEntry e w3
        else cacheEntry e w2

end Service
end Tallykeeper
