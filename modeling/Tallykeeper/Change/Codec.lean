import Tallykeeper.Change.Event
import Tallykeeper.Fault
import Tallykeeper.Text.Fold

/-!
# Event codecs

An event travels through a change stream as named fields. Codecs are numbered 0 to 255:
0 writes the three numbers as 64-bit integers (`counter-id`, `user-id`, `value`),
1 writes the same fields as decimal text, 2 packs the text form of the event into one
`payload` field, and every other number behaves as 0.

Reading the integer codec accepts 64-bit, machine-width and 32-bit integers as well as
decimal text; reading the text codec accepts decimal text only; reading the packed codec
needs a text payload of exactly three `:`-separated decimal parts, read as user,
counter and value. Fields besides those a codec reads do not matter.
-/

namespace Tallykeeper

/-- A field value as a change entry carries it, with the type it has in the entry. -/
inductive FieldValue
  | text (s : String)
  | int64 (n : Int64)
  | int (n : Int64)
  | int32 (n : Int32)
  | uint64 (n : UInt64)
  | float
  | bool (b : Bool)
  | null
  | bytes (bs : List UInt8)
  deriving DecidableEq, Repr

namespace FieldValue

/-- The type name of a field value, as messages show it. -/
def typeName : FieldValue → String
  | .text _ => "string"
  | .int64 _ => "int64"
  | .int _ => "int"
  | .int32 _ => "int32"
  | .uint64 _ => "uint64"
  | .float => "float64"
  | .bool _ => "bool"
  | .null => "<nil>"
  | .bytes _ => "[]uint8"

end FieldValue

/-- The fields of a change entry, each name at most once. -/
abbrev Fields := List (String × FieldValue)

/-- An event codec, by number. -/
structure EventCodec where
  code : UInt8
  deriving DecidableEq, Repr

namespace EventCodec

/-- Numbers as 64-bit integer fields. -/
def integers : EventCodec := ⟨0⟩

/-- Numbers as decimal text fields. -/
def texts : EventCodec := ⟨1⟩

/-- The text form in one payload field. -/
def packed : EventCodec := ⟨2⟩

/-- The name of a codec; numbers without a codec of their own are `unknown`. -/
def name (c : EventCodec) : String :=
  if c.code = 0 then "fields" else if c.code = 1 then "strings"
  else if c.code = 2 then "packed" else "unknown"

/-- The codec with a name, matched caselessly. -/
def ofName (name : String) : Except Fault EventCodec :=
  if Text.Fold.matchesWord name "fields" then .ok integers
  else if Text.Fold.matchesWord name "strings" then .ok texts
  else if Text.Fold.matchesWord name "packed" then .ok packed
  else .error (.wrap .invalidEventCodec ("unknown codec '" ++ name ++ "'"))

/-- The field names of the counter, user and value numbers. -/
def counterField : String := "counter-id"

/-- See `counterField`. -/
def userField : String := "user-id"

/-- See `counterField`. -/
def valueField : String := "value"

/-- The field of the packed form. -/
def payloadField : String := "payload"

/-- Writes an event as fields. -/
def encode (c : EventCodec) (e : Event) : Fields :=
  if c.code = 2 then [(payloadField, .text e.render)]
  else if c.code = 1 then
    [(counterField, .text (Numeral.decimal e.counterId)),
      (userField, .text (Numeral.decimal e.userId)),
      (valueField, .text (Numeral.decimal e.value))]
  else
    [(counterField, .int64 e.counterId), (userField, .int64 e.userId),
      (valueField, .int64 e.value)]

/-- The fault of a field whose value has the wrong type. -/
def wrongType (field : String) (v : FieldValue) : Fault :=
  .wrap .malformedEvent ("field '" ++ field ++ "' is " ++ v.typeName)

/-- Reads decimal text as a number of a field. -/
def readText (field : String) (s : String) : Except Fault Int64 :=
  match Numeral.parseDecimal s with
  | .ok n => .ok n
  | .error r => .error (.wrap .malformedEvent ("field '" ++ field ++ "': " ++ r.message))

/-- Reads a field value that must be decimal text. -/
def textNumber (field : String) : FieldValue → Except Fault Int64
  | .text s => readText field s
  | v => .error (wrongType field v)

/-- Reads a field value that may be an integer or decimal text. -/
def anyNumber (field : String) : FieldValue → Except Fault Int64
  | .int64 n => .ok n
  | .int n => .ok n
  | .int32 n => .ok n.toInt64
  | .text s => readText field s
  | v => .error (wrongType field v)

/-- Reads the named field with a reader, failing when it is missing. -/
def field (fs : Fields) (name : String) (read : String → FieldValue → Except Fault Int64) :
    Except Fault Int64 :=
  match fs.lookup name with
  | some v => read name v
  | none => .error (.wrap .malformedEvent ("missing field '" ++ name ++ "'"))

/-- Reads the three number fields with a reader. -/
def readNumbers (fs : Fields) (read : String → FieldValue → Except Fault Int64) :
    Except Fault Event := do
  let c ← field fs counterField read
  let u ← field fs userField read
  let v ← field fs valueField read
  return { counterId := c, userId := u, value := v }

/-- Splits a text at every `:`. -/
def splitColons (s : String) : List String :=
  (s.toList.splitOn ':').map String.ofList

/-- Reads the packed form. -/
def readPacked (fs : Fields) : Except Fault Event :=
  match fs.lookup payloadField with
  | none => .error (.wrap .malformedEvent ("missing field '" ++ payloadField ++ "'"))
  | some (.text s) =>
    match splitColons s with
    | [u, c, v] => do
      let user ← readText payloadField u
      let counter ← readText payloadField c
      let value ← readText payloadField v
      return { counterId := counter, userId := user, value := value }
    | parts =>
      .error (.wrap .malformedEvent
        ("payload '" ++ s ++ "' has " ++ toString parts.length ++ " parts"))
  | some v => .error (wrongType payloadField v)

/-- Reads an event from fields. -/
def decode (c : EventCodec) (fs : Fields) : Except Fault Event :=
  if c.code = 2 then readPacked fs
  else if c.code = 1 then readNumbers fs textNumber
  else readNumbers fs anyNumber

end EventCodec

end Tallykeeper
