import Tallykeeper.Fault
import Tallykeeper.Text.Printable
import Tallykeeper.Text.Utf8
import Tallykeeper.Numeral.Integer

/-!
# Catalog entries

A catalog entry registers a counter name under an id, with a description, a default
value, and the clock readings of its creation and of its last write. Names and
descriptions are byte strings: they are compared byte by byte and read as runes only to be
checked, a stray byte reading as U+FFFD. An entry is valid when these checks pass, the
first failing one deciding the fault:

1. the name is set: not empty and not made only of ASCII white space (tab, line feed,
   vertical tab, form feed, carriage return, space);
2. the name has at most 128 runes;
3. every rune of the name is printable;
4. the name holds no `:`, the separator of counter keys;
5. the description has at most 1024 runes.

A patch sets some of an entry's data fields and leaves the others alone. A query keeps the
entries whose id is among the asked ids and whose name is among the asked names, an
empty list asking for all. The faults of a missing, taken or unpatched entry are shared by
both catalog stores.
-/

namespace Tallykeeper
namespace Catalog

open Text (ByteString)

/-- A registered counter name. The stamps are clock readings in nanoseconds since the Unix
epoch. -/
structure Entry where
  id : Int64 := 0
  name : ByteString
  description : ByteString := .empty
  defaultValue : Int64 := 0
  createdAt : Int64 := 0
  updatedAt : Int64 := 0
  deriving DecidableEq, Repr

/-- Why an entry is invalid. -/
inductive Flaw
  | nameUnset
  | nameTooLong
  | unprintable (name : ByteString)
  | separator (name : ByteString)
  | descriptionTooLong
  deriving DecidableEq, Repr

namespace Flaw

/-- The detail of a flaw under the invalid-entry sentinel. -/
def detail : Flaw → String
  | .nameUnset => "name must be set"
  | .nameTooLong => "name too long"
  | .unprintable n => "name '" ++ n.text ++ "' contains unprintable characters"
  | .separator n => "name '" ++ n.text ++ "' contains ':'"
  | .descriptionTooLong => "description too long"

/-- The fault of a flaw. -/
def fault (f : Flaw) : Fault :=
  .wrap .invalidEntry f.detail

end Flaw

/-- ASCII white space: tab, line feed, vertical tab, form feed, carriage return, space. -/
def isBlank (c : Char) : Bool :=
  c.toNat = 32 || (9 ≤ c.toNat && c.toNat ≤ 13)

/-- The longest name, in runes. -/
def maxNameLength : Nat := 128

/-- The longest description, in runes. -/
def maxDescriptionLength : Nat := 1024

namespace Entry

/-- The first check an entry fails, if any. -/
def flaw? (e : Entry) : Option Flaw :=
  if e.name.bytes.isEmpty || e.name.runes.all isBlank then some .nameUnset
  else if e.name.runes.length > maxNameLength then some .nameTooLong
  else if !e.name.runes.all Text.isPrintable then some (.unprintable e.name)
  else if e.name.runes.contains ':' then some (.separator e.name)
  else if e.description.runes.length > maxDescriptionLength then some .descriptionTooLong
  else none

/-- Validates an entry, failing with the first check it fails. -/
def validate (e : Entry) : Except Fault Unit :=
  match e.flaw? with
  | some f => .error f.fault
  | none => .ok ()

end Entry

/-- A partial update: the fields that are set replace those of an entry. -/
structure Patch where
  defaultValue : Option Int64 := none
  description : Option ByteString := none
  name : Option ByteString := none
  deriving DecidableEq, Repr

namespace Patch

/-- Whether no field is set. -/
def isEmpty (p : Patch) : Bool :=
  p.defaultValue.isNone && p.description.isNone && p.name.isNone

/-- The entry with the set fields of a patch; the id and the stamps stay. -/
def apply (p : Patch) (e : Entry) : Entry :=
  { e with
    defaultValue := p.defaultValue.getD e.defaultValue
    description := p.description.getD e.description
    name := p.name.getD e.name }

@[simp] theorem apply_id (p : Patch) (e : Entry) : (p.apply e).id = e.id := rfl

@[simp] theorem apply_createdAt (p : Patch) (e : Entry) : (p.apply e).createdAt = e.createdAt :=
  rfl

end Patch

/-- A filter on entries: the asked ids and names, each list empty to ask for all, and the
most entries to answer, when positive. -/
structure Query where
  ids : List Int64 := []
  names : List ByteString := []
  limit : Int := 0
  deriving Repr

/-- Whether an entry passes a filter's id and name lists. -/
def Query.admits (q : Query) (e : Entry) : Bool :=
  (q.ids.isEmpty || q.ids.contains e.id) && (q.names.isEmpty || q.names.contains e.name)

/-- The fault of an absent name. -/
def missingName (name : ByteString) : Fault :=
  .wrap .entryNotFound ("name '" ++ name.text ++ "'")

/-- The fault of an absent id. -/
def missingId (id : Int64) : Fault :=
  .wrap .entryNotFound ("id " ++ Numeral.decimal id)

/-- The fault of a taken name. -/
def taken (name : ByteString) : Fault :=
  .wrap .entryNotUnique ("name '" ++ name.text ++ "'")

/-- The fault of an update that sets nothing. -/
def noFields (id : Int64) : Fault :=
  .wrap .entryNotFound ("no fields to update for id " ++ Numeral.decimal id)

end Catalog
end Tallykeeper
