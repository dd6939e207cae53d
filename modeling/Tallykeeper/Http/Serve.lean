import Tallykeeper.Http.Route
import Tallykeeper.Json.Scan
import Tallykeeper.Json.Bind
import Tallykeeper.Service.Counter
import Tallykeeper.Http.Limit
import Tallykeeper.Text.Timestamp

/-!
# Serving requests

A request is routed, then passed through the middleware chain of its route and handled.
A chain lists its middlewares outermost first, and a chain may itself be listed in another.

Every route but `/health`, and the answer to an unknown route, runs through the base chain:
the request context, the log and the metrics, which show in no answer, then the debug
headers naming the host and the revision, a gzip encoding when the client accepts one, and
the content checks: a PATCH, POST or PUT whose declared length exceeds 32768 bytes is
refused, only the first 32768 bytes of its body can be read, and a body with a declared
length and a content type that does not start with `application/json` is refused. The
mutating routes run through the base chain followed by the request quota of the client.

A handler reads its call from the path variables and, when the declared length is not zero,
the body; it then makes the call and answers JSON: `{"status": "success", …}` or
`{"status": <status>, "error": {"message": <message>}}`, where absence answers `404`
with status `not_found`, invalid input `400`, an exceeded quota `429`, and anything else
`500`, all three with status `failure`.
-/

namespace Tallykeeper
namespace Http

open Json Service

/-- A request as the router sees it. -/
structure Request where
  method : String
  target : String
  headers : List (String × String) := []
  body : List UInt8 := []
  /-- The declared length; `-1` when unknown. -/
  contentLength : Int
  remoteAddr : String := "192.0.2.1:1234"
  deriving Repr

/-- Lower-cases ASCII letters. -/
def lowerAscii (s : String) : String :=
  s.map fun c => if 'A' ≤ c && c ≤ 'Z' then Char.ofNat (c.toNat + 32) else c

/-- The value of a request header, matched without case, or the empty text. -/
def Request.header (r : Request) (key : String) : String :=
  match r.headers.find? (fun h => lowerAscii h.1 == lowerAscii key) with
  | some (_, v) => v
  | none => ""

/-- A response body: JSON, or plain text. -/
inductive Body
  | json (v : Value)
  | text (s : String)
  deriving Repr, Inhabited

/-- A response. -/
structure Response where
  status : Nat
  headers : List (String × String) := []
  /-- Whether the quota reset time was announced. -/
  resetAnnounced : Bool := false
  body : Body
  deriving Repr, Inhabited

/-- The revision the service reports. -/
def revision : String := "0000000-dev"

/-- The most body bytes a request may carry. -/
def payloadLimit : Nat := 32768

/-- The status code and status word of a fault. -/
def statusOf (f : Fault) : Nat × String :=
  if f.is .notFound || f.is .routeNotFound then (404, "not_found")
  else if f.is .invalidEntity || f.is .invalidInput then (400, "failure")
  else if f.is .limitExceeded then (429, "failure")
  else (500, "failure")

/-- A JSON response. -/
def respondJson (status : Nat) (v : Value) : Response :=
  { status, headers := [("Content-Type", "application/json")], body := .json v }

/-- The response to a fault. -/
def respondFault (f : Fault) : Response :=
  let (code, word) := statusOf f
  respondJson code (.object [("status", .text word), ("error", .object [("message", .text f.message)])])

/-- An entry as JSON. -/
def entryJson (e : Catalog.Entry) : Value :=
  .object [("default_value", .ofInt e.defaultValue.toInt),
    ("description", .text e.description.text), ("id", .ofInt e.id.toInt),
    ("name", .text e.name.text), ("created_at", .text (Text.Timestamp.rfc3339 e.createdAt)),
    ("updated_at", .text (Text.Timestamp.rfc3339 e.updatedAt))]

/-- A success response with more members. -/
def success (members : List (String × Value)) : Response :=
  respondJson 200 (.object (("status", .text "success") :: members))

/-- The members of a counter answer. -/
def counterMembers (name : Text.ByteString) (userId value : Int64) :
    List (String × Value) :=
  [("name", .text name.text), ("user_id", .ofInt userId.toInt), ("value", .ofInt value.toInt)]

/-- The payload of an increment. -/
def incrementShape : RecordShape :=
  { qualified := "http.payloadIncrement", name := "payloadIncrement",
    fields := [("delta", .int64)] }

/-- The payload of a registration. -/
def registrationShape : RecordShape :=
  { qualified := "http.payloadCatalogPut", name := "payloadCatalogPut",
    fields := [("default_value", .int64), ("description", .string)] }

/-- The payload of a catalog update. -/
def patchShape : RecordShape :=
  { qualified := "catalog.Patch", name := "Patch",
    fields := [("default_value", .int64), ("description", .string), ("name", .string)] }

/-- The settings a request body makes, none when its declared length is zero. -/
def decodeBody (shape : RecordShape) (r : Request) : Except Fault (List (String × Setting)) :=
  if r.contentLength = 0 then .ok []
  else
    match Scan.readBody payloadLimit r.body with
    | .error m => .error (.wrap .invalidInput ("payload: " ++ m))
    | .ok v =>
      match bind shape v with
      | .error m => .error (.wrap .invalidInput ("payload: " ++ m))
      | .ok s => .ok s

/-- The delta an increment body asks for, one by default. -/
def deltaOf (settings : List (String × Setting)) : Int64 :=
  settings.foldl (fun d s => match s with | ("delta", .int v) => v | _ => d) 1

/-- The description and default value a registration body asks for. -/
def registrationOf (settings : List (String × Setting)) : Text.ByteString × Int64 :=
  settings.foldl (fun (desc, dv) s =>
    match s with
    | ("description", .text t) => (.ofString t, dv)
    | ("default_value", .int v) => (desc, v)
    | _ => (desc, dv)) (.empty, 0)

/-- The patch a catalog update body asks for. -/
def patchOf (settings : List (String × Setting)) : Catalog.Patch :=
  settings.foldl (fun p s =>
    match s with
    | ("default_value", .int v) => { p with defaultValue := some v }
    | ("default_value", .clear) => { p with defaultValue := none }
    | ("description", .text t) => { p with description := some (.ofString t) }
    | ("description", .clear) => { p with description := none }
    | ("name", .text t) => { p with name := some (.ofString t) }
    | ("name", .clear) => { p with name := none }
    | _ => p) {}

/-- A numeric path variable, or the fault naming it. -/
def numberVar (key : String) (raw : List UInt8) : Except Fault Int64 :=
  let text := Text.Utf8.lossy raw
  match Numeral.parseDecimal text with
  | .ok n => .ok n
  | .error _ => .error (.wrap .invalidInput (key ++ " '" ++ text ++ "' is not a number"))

/-- A call of the service, with the arguments a handler reads from its request. -/
inductive Call
  | catalogList
  | catalogGet (name : Text.ByteString)
  | register (name description : Text.ByteString) (defaultValue : Int64)
  | catalogUpdate (id : Int64) (patch : Catalog.Patch)
  | counterGet (name : Text.ByteString) (userId : Int64)
  | counterIncrement (name : Text.ByteString) (userId delta : Int64)
  | counterReset (name : Text.ByteString) (userId : Int64)

/-- Reads the call of a route from its path variables and, where the route takes one, the
body. -/
def Call.read (route : Route) (vars : Vars) (r : Request) : Except Fault Call :=
  let name : Text.ByteString := ⟨vars.name⟩
  match route with
  | .health => .error (.bare .routeNotFound)
  | .catalogList => .ok .catalogList
  | .catalogGet => .ok (.catalogGet name)
  | .catalogPut => do
    let s ← decodeBody registrationShape r
    return .register name (registrationOf s).1 (registrationOf s).2
  | .catalogUpdate => do
    let id ← numberVar "catalogID" vars.catalogId
    let s ← decodeBody patchShape r
    return .catalogUpdate id (patchOf s)
  | .counterGet => do
    let u ← numberVar "userID" vars.userId
    return .counterGet name u
  | .counterIncrement => do
    let u ← numberVar "userID" vars.userId
    let s ← decodeBody incrementShape r
    return .counterIncrement name u (deltaOf s)
  | .counterReset => do
    let u ← numberVar "userID" vars.userId
    return .counterReset name u

/-- The members of a success answer made from a service result. -/
def shown {α : Type} (members : α → List (String × Value)) :
    Except Fault α × World → Except Fault (List (String × Value)) × World
  | (result, w) => (result.map members, w)

/-- The members of an entry answer. -/
def entryMembers (e : Catalog.Entry) : List (String × Value) :=
  [("entry", entryJson e)]

/-- Makes a call, answering the members of its success answer. -/
def Call.run : Call → World → Except Fault (List (String × Value)) × World
  | .catalogList, w =>
    shown (fun es => [("entries", .array (es.map entryJson))]) (Service.catalogList w)
  | .catalogGet name, w => shown entryMembers (Service.catalogGet name w)
  | .register name description defaultValue, w =>
    shown entryMembers (Service.register name description defaultValue w)
  | .catalogUpdate id patch, w => shown entryMembers (Service.catalogUpdate id patch w)
  | .counterGet name userId, w =>
    shown (counterMembers name userId) (Service.counterGet name userId w)
  | .counterIncrement name userId delta, w =>
    shown (counterMembers name userId) (Service.counterIncrement name userId delta w)
  | .counterReset name userId, w =>
    shown (counterMembers name userId) (Service.counterReset name userId w)

/-- The answer to what a request met: the success answer with its members, or the answer
to the fault that stopped it. -/
def respond : Except Fault (List (String × Value)) → Response
  | .ok members => success members
  | .error f => respondFault f

/-- A handler answers a request, acting on the service. -/
abbrev Handler := Request → World → Response × World

/-- A middleware wraps a handler in a responsibility of its own. -/
abbrev Middleware := Handler → Handler

/-- Runs a route's handler: reads its call and makes it. -/
def handle (route : Route) (vars : Vars) : Handler := fun r w =>
  match Call.read route vars r with
  | .error f => (respondFault f, w)
  | .ok c =>
    let made := c.run w
    (respond made.1, made.2)

/-- Whether a method carries a body the content checks look at. -/
def carriesBody (method : String) : Bool :=
  method == "PATCH" || method == "POST" || method == "PUT"

/-- The content check a request fails, if any. -/
def contentFault (r : Request) : Option Fault :=
  if !carriesBody r.method then none
  else if r.contentLength > payloadLimit then some (.wrap .invalidInput "payload too big")
  else
    let ct := r.header "Content-Type"
    if r.contentLength != 0 && ct != "" && !ct.startsWith "application/json" then
      some (.wrap .invalidInput "Content-Type header missmatch")
    else none

/-- The health answer: every backing service checked, healthy when all answer. The
services are the SQLite database when the stores use it, the Redis server when the counts
live there, and the stream when changes go through one. -/
def health (w : World) : Response :=
  let answers := w.stores.server.ping matches .ok _
  let checks : List (String × Bool) :=
    (if w.stores.backend.engine == .relational then [("sqlite", w.stores.backend.online)] else []) ++
    (if w.stores.countHome != .memory then [("redis", answers)] else []) ++
    (match w.source with
     | .stream _ => [("stream", answers)]
     | _ => [])
  let healthy := checks.all (·.2)
  respondJson (if healthy then 200 else 500)
    (.object [("healthy", .bool healthy),
      ("services", .object (checks.map fun (n, ok) => (n, .bool ok)))])

/-- Whether a route counts against the request quota. -/
def limited : Route → Bool
  | .catalogPut | .catalogUpdate | .counterIncrement | .counterReset => true
  | _ => false

/-- The request quota in front of a mutating route: the request counts against its
client's window, the answer announces the limit, the quota left and the reset time, and
a request over the limit is refused. A failing server refuses the request too. -/
def withQuota (r : Request) (next : World → Response × World) (w : World) : Response × World :=
  match w.quota with
  | none => next w
  | some q =>
    let client := clientOf (r.header "X-Forwarded-For") r.remoteAddr
    match w.onServer (requestQuota q.limit q.windowSeconds client) with
    | (.error e, w1) => (respondFault (.wrap .backendDown ("rate limit: " ++ e)), w1)
    | (.ok left, w1) =>
      let announced := [("X-Ratelimit-Quota", Numeral.decimal q.limit),
        ("X-Ratelimit-Remaining", Numeral.decimal left)]
      let (resp, w2) :=
        if left < 0 then (respondFault (.wrap .limitExceeded "request quota exceeded"), w1)
        else next w1
      ({ resp with headers := announced ++ resp.headers, resetAnnounced := true }, w2)

/-- Combines middlewares into one whose first is the outermost: the handler is wrapped by
the last middleware, then by each one before it. -/
def chain (ms : List Middleware) : Middleware := fun h =>
  ms.reverse.foldl (fun inner m => m inner) h

/-- The middlewares the service wires. -/
inductive Layer
  /-- Notes the route and the version for the layers inside. -/
  | ctxPrepare
  /-- Logs the request and its answer. -/
  | log
  /-- Counts the request and its answer in the metrics. -/
  | instrument
  /-- Names the host and the revision in headers. -/
  | debugHeaders (revision host : String)
  /-- Announces a gzip encoding when the client accepts one. -/
  | gzip
  /-- Refuses a body that is too large or not JSON. -/
  | validateContent
  /-- Counts the request against the quota of its client. -/
  | rateLimit
  deriving DecidableEq, Repr

/-- What a layer does around a handler. The request context, the log and the metrics show
in no answer and no part of the service, so the first three layers pass the request on. -/
def Layer.wrap : Layer → Middleware
  | .ctxPrepare | .log | .instrument => fun next => next
  | .debugHeaders revision host => fun next r w =>
    let inner := next r w
    ({ inner.1 with headers := [("X-Named-Host", host), ("X-Named-Revision", revision)] ++
        inner.1.headers }, inner.2)
  | .gzip => fun next r w =>
    let inner := next r w
    if (r.header "Accept-Encoding").contains "gzip" then
      ({ inner.1 with headers := ("Content-Encoding", "gzip") :: inner.1.headers }, inner.2)
    else inner
  | .validateContent => fun next r w =>
    match contentFault r with
    | some f => (respondFault f, w)
    | none => next r w
  | .rateLimit => fun next r w => withQuota r (next r) w

/-- The layers of every route but the health check, outermost first. -/
def baseLayers (host : String) : List Layer :=
  [.ctxPrepare, .log, .instrument, .debugHeaders revision host, .gzip, .validateContent]

/-- The chain of every route but the health check, and of the answer to an unknown route. -/
def baseChain (host : String) : Middleware :=
  chain ((baseLayers host).map Layer.wrap)

/-- The chain of the mutating routes: the base chain, then the request quota. -/
def limitChain (host : String) : Middleware :=
  chain [baseChain host, Layer.rateLimit.wrap]

/-- Serves one request. -/
def serve (host : String) (r : Request) (w : World) : Response × World :=
  match Target.parse r.target with
  | none => ({ status := 400, body := .text "" }, w)
  | some t =>
    match dispatch r.method t with
    | .cleaned loc => ({ status := 301, headers := [("Location", loc)], body := .text "" }, w)
    | .unslashed loc =>
      if r.method == "GET" then
        ({ status := 301,
           headers := [("Location", loc), ("Content-Type", "text/html; charset=utf-8")],
           body := .text ("<a href=\"" ++ htmlEscape loc ++ "\">Moved Permanently</a>.\n\n") }, w)
      else ({ status := 301, headers := [("Location", loc)], body := .text "" }, w)
    | .notAllowed => ({ status := 405, body := .text "" }, w)
    | .notFound =>
      baseChain host (fun _ w => (respondFault (.wrap .routeNotFound ("route " ++ r.method ++
        " " ++ Text.Utf8.lossy t.path)), w)) r w
    | .serve .health _ => Layer.ctxPrepare.wrap (fun _ w => (health w, w)) r w
    | .serve route vars =>
      (if limited route then limitChain host else baseChain host) (handle route vars) r w

end Http
end Tallykeeper
