import Tallykeeper.Json.Value
import Tallykeeper.Numeral.Integer

/-!
# Binding a JSON value to a record

A request body is bound to a record with named fields. A member sets the field whose
name it matches; names match when they fold to the same text, letters compared without
case. Members that match no field are ignored, and a later member overwrites an earlier
one. A `null` member leaves a plain field alone and clears an optional one.

A member whose value has the wrong kind, or a number that is not an integer literal in
the signed 64-bit range, is a type error; it names the field by the member's own name. Binding goes on after a type error, but the
first one is what the binding reports. A top-level value that is not an object (or
`null`) is a type error against the record itself.
-/

namespace Tallykeeper
namespace Json

/-- The type a record field is declared with. -/
inductive FieldType
  | int64
  | string
  deriving DecidableEq, Repr

/-- The name of a field type in a type error. -/
def FieldType.name : FieldType → String
  | .int64 => "int64"
  | .string => "string"

/-- A record a body is bound to: its qualified and its plain type name, and its fields. -/
structure RecordShape where
  qualified : String
  name : String
  fields : List (String × FieldType)

/-- What a member sets a field to. -/
inductive Setting
  | int (v : Int64)
  | text (s : String)
  /-- `null`: an optional field is cleared, a plain one left alone. -/
  | clear
  deriving Repr

/-- The fold of one character of a member name: ASCII letters go to upper case, and the
two other letters whose simple case fold lands on an ASCII letter, U+017F LATIN SMALL
LETTER LONG S and U+212A KELVIN SIGN, go to that letter. Every other character keeps a
fold outside ASCII, so it is kept as it is: field names are ASCII, and it can match none.
The dotted and dotless I fold only onto themselves. -/
def foldChar (c : Char) : Char :=
  if 'a' ≤ c && c ≤ 'z' then Char.ofNat (c.toNat - 32)
  else if c.toNat = 0x17F then 'S'
  else if c.toNat = 0x212A then 'K'
  else c

/-- The fold of a member name. -/
def foldName (s : String) : List Char :=
  s.toList.map foldChar

/-- A type error against a field, named by the member name as the body spells it. -/
def fieldError (shape : RecordShape) (field : String) (ty : FieldType) (what : String) :
    String :=
  "json: cannot unmarshal " ++ what ++ " into Go struct field " ++ shape.name ++ "." ++
    field ++ " of type " ++ ty.name

/-- The setting of one member, or none when it matches no field. -/
def member (shape : RecordShape) (key : String) (v : Value) :
    Option (Except String (String × Setting)) :=
  (shape.fields.find? fun f => foldName f.1 == foldName key).map fun (field, ty) =>
    match v, ty with
    | .null, _ => .ok (field, .clear)
    | .number lit, .int64 =>
      match Numeral.parseDecimal lit with
      | .ok n => .ok (field, .int n)
      | .error _ => .error (fieldError shape key ty ("number " ++ lit))
    | .text s, .string => .ok (field, .text s)
    | other, _ => .error (fieldError shape key ty other.kindName)

/-- The settings of a body in member order, or the first type error. -/
def bind (shape : RecordShape) (v : Value) : Except String (List (String × Setting)) :=
  match v with
  | .null => .ok []
  | .object members =>
    let step (acc : Except String (List (String × Setting))) (m : String × Value) :=
      match acc, member shape m.1 m.2 with
      | .error e, _ => .error e
      | .ok done, none => .ok done
      | .ok _, some (.error e) => .error e
      | .ok done, some (.ok s) => .ok (done ++ [s])
    members.foldl step (.ok [])
  | other =>
    .error ("json: cannot unmarshal " ++ other.kindName ++ " into Go value of type " ++
      shape.qualified)

end Json
end Tallykeeper
