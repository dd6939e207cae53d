import Tallykeeper.Yaml.Event.Next
import Tallykeeper.Yaml.Resolve

/-!
# YAML nodes

Events build a tree of nodes: scalars, sequences, mappings (pairs in the order written)
and aliases. Every node knows its line, counted from one, and its tag: an explicit tag
in short form, else `!!str` for a quoted or block scalar, `!!seq` and `!!map` for
collections, `!!merge` for the plain key `<<`, and the tag its text resolves to for any
other plain scalar.

An anchor names the node it stands before, from that point on (so a collection's own
entries may refer to it); an alias refers to the node its name last named. A document is
its root node and the nodes its anchors named. Only the first document of a stream is
read.
-/

namespace Tallykeeper
namespace Yaml

/-- A node of a document. -/
inductive Node
  | scalar (tag value : String) (style : ScalarStyle) (line : Nat)
  | sequence (tag : String) (items : List Node) (line : Nat)
  | mapping (tag : String) (pairs : List (Node × Node)) (line : Nat)
  /-- An alias of the node numbered `target`; `self` numbers the alias itself. -/
  | alias (name : String) (target self : Nat) (line : Nat)
  deriving Repr, Inhabited

namespace Node

/-- The line of a node. -/
def line : Node → Nat
  | .scalar _ _ _ l | .sequence _ _ l | .mapping _ _ l | .alias _ _ _ l => l

/-- The tag of a node; aliases have none. -/
def tag : Node → String
  | .scalar t _ _ _ | .sequence t _ _ | .mapping t _ _ => t
  | .alias _ _ _ _ => ""

/-- The text of a node: a scalar's value, an alias's name, nothing for collections. -/
def text : Node → String
  | .scalar _ v _ _ => v
  | .alias n _ _ _ => n
  | _ => ""

/-- The kind of a node, as a number: scalar, sequence, mapping, alias. -/
def kindIndex : Node → Nat
  | .scalar _ _ _ _ => 0
  | .sequence _ _ _ => 1
  | .mapping _ _ _ => 2
  | .alias _ _ _ _ => 3

end Node

/-- The tag a node gets from its explicit tag, its default tag, or its text. -/
def nodeTag (explicit default value : String) (isScalar : Bool) : String :=
  if explicit != "" && explicit != "!" then shortTag explicit
  else if default != "" then default
  else if isScalar then (resolvePlain "" value).1
  else ""

/-- The default tag of a scalar. -/
def scalarDefaultTag (value : String) : ScalarStyle → String
  | .plain => if value == "<<" then "!!merge" else ""
  | _ => "!!str"

/-- The first document of a stream. -/
structure Document where
  root : Node
  /-- The nodes anchors named, by number. -/
  named : List (Nat × Node)
  deriving Repr, Inhabited

/-- The state of building nodes. -/
structure Composer where
  parser : Parser
  /-- An event looked at and not yet taken. -/
  pending : Option Event := none
  /-- The node number every anchor name last stood for. -/
  anchors : List (String × Nat) := []
  named : List (Nat × Node) := []
  nextNumber : Nat := 0
  deriving Inhabited

/-- Building nodes, step by step. -/
abbrev ComposeM := EStateM Failure Composer

namespace Composer

/-- A failure of building nodes. -/
def failure (problem : String) : Failure := { stage := .nodes, problem }

/-- Runs a step of the event machine. -/
def parse {α : Type} (m : ParseM α) : ComposeM α := fun c =>
  match m c.parser with
  | .ok a p => .ok a { c with parser := p }
  | .error e p => .error e { c with parser := p }

/-- The next event, without taking it. -/
def peek : ComposeM Event := do
  match (← get).pending with
  | some e => return e
  | none =>
    match ← parse Parser.nextEvent with
    | some e =>
      modify fun c => { c with pending := some e }
      return e
    | none => throw (failure "attempted to go past the end of stream; corrupted value?")

/-- Takes the next event. -/
def take : ComposeM Event := do
  let e ← peek
  modify fun c => { c with pending := none }
  return e

/-- A fresh number. -/
def fresh : ComposeM Nat := do
  let c ← get
  set { c with nextNumber := c.nextNumber + 1 }
  return c.nextNumber

/-- Lets an anchor name stand for a node number from now on. -/
def nameAnchor (anchor : String) : ComposeM (Option Nat) := do
  if anchor.isEmpty then return none
  let n ← fresh
  modify fun c => { c with anchors := (anchor, n) :: c.anchors }
  return some n

/-- Records the node an anchor named. -/
def record (number : Option Nat) (n : Node) : ComposeM Unit :=
  match number with
  | some k => modify fun c => { c with named := (k, n) :: c.named }
  | none => pure ()

/-- Builds the node that the next events make. -/
def node : Nat → ComposeM Node
  | 0 => throw (failure "exceeded max depth")
  | fuel + 1 => do
    let e ← peek
    let line := e.start.line + 1
    match e.kind with
    | .scalar anchor tag value style =>
      let n := Node.scalar (nodeTag tag (scalarDefaultTag value style) value true) value style line
      let k ← nameAnchor anchor
      record k n
      let _ ← take
      return n
    | .alias name =>
      match (← get).anchors.lookup name with
      | none => throw (failure ("unknown anchor " ++ ticked name ++ " referenced"))
      | some target =>
        let self ← fresh
        let _ ← take
        return .alias name target self line
    | .sequenceStart anchor tag =>
      let k ← nameAnchor anchor
      let _ ← take
      let mut items : Array Node := #[]
      for _ in [0:fuel] do
        if (← peek).kind == .sequenceEnd then break
        items := items.push (← node fuel)
      let _ ← take
      let n := Node.sequence (nodeTag tag "!!seq" "" false) items.toList line
      record k n
      return n
    | .mappingStart anchor tag =>
      let k ← nameAnchor anchor
      let _ ← take
      let mut pairs : Array (Node × Node) := #[]
      for _ in [0:fuel] do
        if (← peek).kind == .mappingEnd then break
        let key ← node fuel
        let value ← node fuel
        pairs := pairs.push (key, value)
      let _ ← take
      let n := Node.mapping (nodeTag tag "!!map" "" false) pairs.toList line
      record k n
      return n
    | _ => throw (failure "attempted to parse unknown event")

/-- Builds the first document, none when the stream holds no document. -/
def firstDocument : ComposeM (Option Document) := do
  let _ ← take
  let e ← peek
  match e.kind with
  | .streamEnd => return none
  | _ =>
    let _ ← take
    let fuel := 2 * (← get).parser.lexer.source.chars.size + 16
    let root ← node fuel
    let _ ← take
    return some { root, named := (← get).named }

end Composer

/-- The first document of a text, none when it holds no document. -/
def firstDocument (text : String) : Except Failure (Option Document) :=
  match Composer.firstDocument.run { parser := Parser.ofString text } with
  | .ok d _ => .ok d
  | .error e _ => .error e

end Yaml
end Tallykeeper
