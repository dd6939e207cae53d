import Tallykeeper.Config.Settings
import Tallykeeper.Yaml.Node
import Tallykeeper.Numeral.Duration
import Tallykeeper.Text.Quoted
import Tallykeeper.Text.Base64

/-!
# The configuration file

The file is a YAML document whose top mapping holds the two addresses and the six
sections, each a mapping of its settings by file key. Decoding it yields the settings it
assigns, in the order written; a null value assigns nothing.

A key that names no field, a key given twice in one mapping, and a value that does not
fit its field are each reported with the line of the offending node, and all reports are
given together. A value fits:

* a text field: any scalar, as written;
* an integer field: an integer in range, or a float, cut towards zero;
* an unsigned field: an integer or float that is not negative;
* a duration field: a string that reads as a duration;
* a flag field: a boolean, or one of the words `y`, `yes`, `on`, `n`, `no`, `off` in
  lower case, capitalised or upper case;
* a section: a mapping.

A mapping entry with the key `<<` merges a mapping (or a sequence of mappings) into the
one that holds it: entries written in the mapping itself take precedence.
-/

namespace Tallykeeper
namespace Config

open Yaml

/-- Where a decoded value goes. -/
inductive Slot
  | root
  | section (s : Section)
  | setting (k : Key)
  deriving DecidableEq, Repr

/-- The type name of a slot in messages. -/
def Slot.typeName : Slot → String
  | .root => "main.Config"
  | .section s => s.typeName
  | .setting k => k.kind.typeName

/-- The fields of a slot by file key, with the slots they lead to. -/
def Slot.fields : Slot → List (String × Slot)
  | .root =>
    [(Key.listenAddr.fileKey, .setting .listenAddr),
     (Key.telemetryAddr.fileKey, .setting .telemetryAddr)] ++
      Section.all.map fun s => (s.fileKey, .section s)
  | .section s => (Key.all.filter (·.section? == some s)).map fun k => (k.fileKey, .setting k)
  | .setting _ => []

/-- The words a flag field also takes as true. -/
def yesWords : List String := ["y", "Y", "yes", "Yes", "YES", "on", "On", "ON"]

/-- The words a flag field also takes as false. -/
def noWords : List String := ["n", "N", "no", "No", "NO", "off", "Off", "OFF"]

/-- 2^63 as a float. -/
def twoPow63 : Float := 9223372036854775808.0

/-- An integer cut from a float of magnitude below 2^63, towards zero. -/
def truncate (f : Float) : Int :=
  if f < 0 then -((-f).toUInt64.toNat : Int) else (f.toUInt64.toNat : Int)

/-- The signed 64-bit integer a float converts to: cut towards zero, and the least
integer when the float lies outside the range. -/
def floatToSigned (f : Float) : Int :=
  if f < twoPow63 && f ≥ -twoPow63 then truncate f else -9223372036854775808

/-- The unsigned 64-bit integer a float converts to: below 2^63 as the signed conversion
taken modulo 2^64, from 2^63 on by the signed conversion of the excess with the top bit
set. -/
def floatToUnsigned (f : Float) : Int :=
  if f < twoPow63 then (floatToSigned f) % 18446744073709551616
  else
    let low := (floatToSigned (f - twoPow63)) % 18446744073709551616
    if low < 9223372036854775808 then low + 9223372036854775808 else low

/-- The state of decoding a document. -/
structure Decoding where
  document : Document
  assigned : Array (Key × Value) := #[]
  errors : Array String := #[]
  /-- The keys already set by the mappings a merge goes into, while a merge is decoded. -/
  merged : Option (List String) := none
  /-- The aliases being decoded. -/
  expanding : List Nat := []

/-- Decoding a document, step by step; a failure ends it with its message. -/
abbrev DecodeM := EStateM String Decoding

namespace Decoding

/-- Records a report. -/
def report (msg : String) : DecodeM Unit :=
  modify fun d => { d with errors := d.errors.push msg }

/-- Assigns a setting. -/
def assign (k : Key) (v : Value) : DecodeM Unit :=
  modify fun d => { d with assigned := d.assigned.push (k, v) }

/-- The text of a node in a type report: up to ten bytes, else seven and an ellipsis. -/
def shownValue (s : String) : String :=
  let bytes := Text.Utf8.encode s
  if bytes.length > 10 then Text.Utf8.lossy (bytes.take 7) ++ "..." else s

/-- Reports that a node does not fit a type. -/
def typeError (n : Node) (tag typeName : String) : DecodeM Unit :=
  let t := shortTag (if n.tag != "" then n.tag else tag)
  let tick := String.singleton (Char.ofNat 96)
  let shown := if t != "!!seq" && t != "!!map" then " " ++ tick ++ shownValue n.text ++ tick else ""
  report ("line " ++ toString n.line ++ ": cannot unmarshal " ++ t ++ shown ++ " into " ++ typeName)

/-- The node an anchor named. -/
def named (k : Nat) : DecodeM Node := do
  match (← get).document.named.lookup k with
  | some n => return n
  | none => throw "yaml: unknown anchor referenced"

/-- Decodes the node of an alias with a step, failing when the alias is inside the node
it names. -/
def expand {α : Type} (name : String) (target self : Nat) (step : Node → DecodeM α) :
    DecodeM α := do
  if (← get).expanding.contains self then
    throw ("yaml: anchor " ++ ticked name ++ " value contains itself")
  modify fun d => { d with expanding := self :: d.expanding }
  let r ← step (← named target)
  modify fun d => { d with expanding := d.expanding.erase self }
  return r

/-- The tag and value of a scalar: a string when it is tagged as one, else resolved from
its text; a binary value is decoded from base64. -/
def scalarValue (tag value : String) : DecodeM (String × Resolved) := do
  if tag == "!!str" then return ("!!str", .text value)
  match resolve tag value with
  | .error m => throw ("yaml: " ++ m)
  | .ok (t, r) =>
    if t == "!!binary" then
      match Text.Base64.decode value with
      | some bytes => return (t, .text (Text.Utf8.lossy bytes))
      | none => throw "yaml: !!binary value contains invalid base64 data"
    else return (t, r)

/-- Reports every key of a mapping that repeats an earlier one; true when none does. -/
def uniqueKeys (pairs : List (Node × Node)) : DecodeM Bool := do
  let keys := pairs.map (·.1)
  let before := (← get).errors.size
  for (ki, i) in keys.zipIdx do
    for kj in keys.drop (i + 1) do
      if ki.kindIndex == kj.kindIndex && ki.text == kj.text then
        report ("line " ++ toString kj.line ++ ": mapping key " ++ Text.Quoted.ofString kj.text ++
          " already defined at line " ++ toString ki.line)
  return (← get).errors.size == before

/-- Decodes a scalar into a setting. -/
def scalarIntoSetting (n : Node) (tag value : String) (k : Key) : DecodeM Bool := do
  let (t, r) ← scalarValue tag value
  let refuse : DecodeM Bool := do
    typeError n t k.kind.typeName
    return false
  let accept (v : Value) : DecodeM Bool := do
    assign k v
    return true
  match r with
  | .null => return false
  | _ =>
    match k.kind, r with
    | .text, .text s => accept (.text s)
    | .text, _ => accept (.text value)
    | .int, .int v | .int64, .int v => accept (.int v)
    | .int, .float f | .int64, .float f =>
      if f ≤ twoPow63 then accept (.int (floatToSigned f)) else refuse
    | .duration, .text s =>
      match Numeral.parseDuration s with
      | .ok d => accept (.int d.toInt)
      | .error _ => refuse
    | .uint64, .int v => if v ≥ 0 then accept (.int v) else refuse
    | .uint64, .uint v => accept (.int v)
    | .uint64, .float f =>
      if f ≤ 18446744073709551616.0 then accept (.int (floatToUnsigned f)) else refuse
    | .flag, .bool b => accept (.flag b)
    | .flag, .text s =>
      if yesWords.contains s then accept (.flag true)
      else if noWords.contains s then accept (.flag false)
      else refuse
    | _, _ => refuse

/-- Whether a key node asks for a merge. -/
def isMerge : Node → Bool
  | .scalar tag value _ _ => value == "<<" && (tag == "" || tag == "!" || tag == "!!merge")
  | _ => false

/-- The text of a key node when it decodes to a string, none for a null key. Keys that
are collections are reported. -/
def keyName : Nat → Node → DecodeM (Option String)
  | 0, _ => throw "yaml: exceeded max depth"
  | fuel + 1, n =>
    match n with
    | .alias name target self _ => expand name target self (keyName fuel)
    | .scalar tag value _ _ => do
      let (t, r) ← scalarValue tag value
      match r with
      | .null => return none
      | .text s => return some (if t == "!!binary" then s else value)
      | _ => return some value
    | .sequence _ _ _ => do
      typeError n "!!seq" "string"
      return none
    | .mapping _ pairs _ => do
      if ← uniqueKeys pairs then typeError n "!!map" "string"
      return none

/-- The key a node stands for in a merge, when it decodes to a string. -/
def mergeKey : Nat → Node → DecodeM (Option String)
  | 0, _ => return none
  | fuel + 1, n =>
    match n with
    | .alias _ target _ _ => do mergeKey fuel (← named target)
    | .scalar tag value _ _ => do
      match ← scalarValue tag value with
      | (_, .text s) => return some s
      | _ => return none
    | _ => return none

/-- The failure of a merge whose value is not a mapping. -/
def mergeFailure : String := "yaml: map merge requires map or sequence of maps as the value"

mutual

/-- Decodes a node into a slot; true when it assigned a value there. -/
def decode : Nat → Node → Slot → DecodeM Bool
  | 0, _, _ => throw "yaml: exceeded max depth"
  | fuel + 1, n, slot =>
    match n with
    | .alias name target self _ => expand name target self fun t => decode fuel t slot
    | .scalar tag value _ _ =>
      match slot with
      | .setting k => scalarIntoSetting n tag value k
      | _ => do
        let (t, r) ← scalarValue tag value
        match r with
        | .null => return false
        | _ =>
          typeError n t slot.typeName
          return false
    | .sequence _ _ _ => do
      typeError n "!!seq" slot.typeName
      return false
    | .mapping _ pairs _ => do
      if !(← uniqueKeys pairs) then return false
      match slot with
      | .setting k =>
        typeError n "!!map" k.kind.typeName
        return false
      | _ => decodeFields fuel pairs slot

/-- Decodes the entries of a mapping into the fields of a section or the top. -/
def decodeFields : Nat → List (Node × Node) → Slot → DecodeM Bool
  | 0, _, _ => throw "yaml: exceeded max depth"
  | fuel + 1, pairs, slot => do
    let mut merged := (← get).merged
    modify fun d => { d with merged := none }
    let mut done : List String := []
    let mut mergeNode : Option Node := none
    for (k, v) in pairs do
      if isMerge k then
        mergeNode := some v
        continue
      let some name ← keyName fuel k | continue
      if let some m := merged then
        if m.contains name then continue
        merged := some (name :: m)
      match slot.fields.lookup name with
      | some field =>
        if done.contains name then
          report ("line " ++ toString k.line ++ ": field " ++ name ++ " already set in type " ++
            slot.typeName)
          continue
        done := name :: done
        let _ ← decode fuel v field
      | none =>
        report ("line " ++ toString k.line ++ ": field " ++ name ++ " not found in type " ++
          slot.typeName)
    modify fun d => { d with merged := merged }
    if let some m := mergeNode then mergeInto fuel pairs m slot
    return true

/-- Decodes the value of a `<<` entry into the slot of the mapping that holds it. -/
def mergeInto : Nat → List (Node × Node) → Node → Slot → DecodeM Unit
  | 0, _, _, _ => throw "yaml: exceeded max depth"
  | fuel + 1, pairs, m, slot => do
    let saved := (← get).merged
    if saved.isNone then
      let mut keys : List String := []
      for (k, _) in pairs do
        if let some s ← mergeKey fuel k then keys := keys ++ [s]
      modify fun d => { d with merged := some keys }
    match m with
    | .mapping _ _ _ =>
      let _ ← decode fuel m slot
    | .alias _ target _ _ =>
      match ← named target with
      | .mapping _ _ _ =>
        let _ ← decode fuel m slot
      | _ => throw mergeFailure
    | .sequence _ items _ =>
      for item in items do
        match item with
        | .mapping _ _ _ =>
          let _ ← decode fuel item slot
        | .alias _ target _ _ =>
          match ← named target with
          | .mapping _ _ _ =>
            let _ ← decode fuel item slot
          | _ => throw mergeFailure
        | _ => throw mergeFailure
    | _ => throw mergeFailure
    modify fun d => { d with merged := saved }

end

end Decoding

/-- The settings a document assigns, in order, or the message of its reports or its
failure. -/
def assignmentsOf (doc : Document) : Except String (List (Key × Value)) :=
  let fuel := 100000
  match (Decoding.decode fuel doc.root .root).run { document := doc } with
  | .ok _ d =>
    if d.errors.isEmpty then .ok d.assigned.toList
    else .error ("yaml: unmarshal errors:\n  " ++ "\n  ".intercalate d.errors.toList)
  | .error m _ => .error m

end Config
end Tallykeeper
