import Tallykeeper.Http.Target

/-!
# Routes

The service answers eight routes, tried in this order:

| method | path |
|---|---|
| GET | `/health` |
| GET | `/catalog` |
| GET | `/catalog/{name}` |
| PUT | `/catalog/{name}` |
| PATCH | `/catalog/{catalogID}`, the id made of digits |
| GET, POST, DELETE | `/counters/{name}/users/{userID}` |

A variable matches one non-empty segment, and every path may end in one extra slash.

A request whose path is not clean is sent to the clean path. Otherwise the first route
whose method and path both match serves it; when its path ended in the extra slash, the
request is sent to the path without it instead. When no route matches, the answer is
`405 Method Not Allowed` if the last route that decided matched the path under another
method, and `404` otherwise: a route with the right method but another path clears an
earlier path match, a route with another method and the right path sets one.
-/

namespace Tallykeeper
namespace Http

/-- The routes of the service. -/
inductive Route
  | health
  | catalogList
  | catalogGet
  | catalogPut
  | catalogUpdate
  | counterGet
  | counterIncrement
  | counterReset
  deriving DecidableEq, Repr

/-- The raw values of the path variables a route bound. -/
structure Vars where
  name : List UInt8 := []
  catalogId : List UInt8 := []
  userId : List UInt8 := []
  deriving DecidableEq, Repr

/-- The path shapes of the routes. -/
inductive Shape
  | health
  | catalog
  | catalogName
  | catalogDigits
  | counterUser
  deriving DecidableEq, Repr

/-- The bytes of an ASCII word. -/
def word (s : String) : List UInt8 :=
  s.toList.map Char.toUInt8

/-- Whether a segment is made of ASCII digits. -/
def allDigits (s : List UInt8) : Bool :=
  !s.isEmpty && s.all fun b => 0x30 ≤ b && b ≤ 0x39

/-- The variables a shape binds from the segments of a path, if it matches. -/
def Shape.bind : Shape → List (List UInt8) → Option Vars
  | .health, [s] => if s == word "health" then some {} else none
  | .catalog, [s] => if s == word "catalog" then some {} else none
  | .catalogName, [s, n] =>
    if s == word "catalog" && !n.isEmpty then some { name := n } else none
  | .catalogDigits, [s, n] =>
    if s == word "catalog" && allDigits n then some { catalogId := n } else none
  | .counterUser, [c, n, u, i] =>
    if c == word "counters" && !n.isEmpty && u == word "users" && !i.isEmpty then
      some { name := n, userId := i }
    else none
  | _, _ => none

/-- The route table, in the order routes are tried. -/
def table : List (String × Shape × Route) :=
  [("GET", .health, .health),
   ("GET", .catalog, .catalogList),
   ("GET", .catalogName, .catalogGet),
   ("PUT", .catalogName, .catalogPut),
   ("PATCH", .catalogDigits, .catalogUpdate),
   ("GET", .counterUser, .counterGet),
   ("POST", .counterUser, .counterIncrement),
   ("DELETE", .counterUser, .counterReset)]

/-- The segments of a clean path after its root, without a final empty segment, and
whether the path ended in a slash after a segment. -/
def splitTrailing (p : List UInt8) : List (List UInt8) × Bool :=
  let segs := (segments p).drop 1
  match segs.getLast? with
  | some [] => if segs.length ≥ 2 then (segs.dropLast, true) else (segs, false)
  | _ => (segs, false)

/-- What the router does with a request. -/
inductive Dispatch
  /-- Sends an unclean path to its clean form. -/
  | cleaned (location : String)
  /-- Sends a path with an extra final slash to the path without it. -/
  | unslashed (location : String)
  | serve (route : Route) (vars : Vars)
  | notAllowed
  | notFound
  deriving DecidableEq, Repr

/-- Tries the routes in order, carrying whether a path matched under another method. -/
def tryRoutes (method : String) (segs : List (List UInt8)) :
    List (String × Shape × Route) → Bool → Option (Route × Vars) × Bool
  | [], other => (none, other)
  | (m, shape, r) :: rest, other =>
    if m == method then
      match shape.bind segs with
      | some vs => (some (r, vs), false)
      | none => tryRoutes method segs rest false
    else
      tryRoutes method segs rest (other || (shape.bind segs).isSome)

/-- Routes a request by method and target. -/
def dispatch (method : String) (t : Target) : Dispatch :=
  let clean := cleanPath t.path
  if clean != t.path then .cleaned (t.render clean)
  else
    let (segs, slashed) := splitTrailing t.path
    match tryRoutes method segs table false with
    | (some (r, vs), _) =>
      if slashed then .unslashed (t.render t.path.dropLast) else .serve r vs
    | (none, true) => .notAllowed
    | (none, false) => .notFound

end Http
end Tallykeeper
