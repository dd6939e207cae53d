import Mathlib
import Tallykeeper.Proofs.Http.Chain
import Tallykeeper.Proofs.Service.Registration

/-!
# The error envelope

Every answer of a catalog or counter route is an envelope: `200` with status `success` and
the members of the answer, or the status code and status word of a fault with the fault's
message. `Envelope` states the documented table on its own: absence answers `404` with
status `not_found`, invalid input or an invalid entity `400`, an exceeded quota `429`, and
anything else `500`, the last three with status `failure`.

Which fault a request meets is the first of its stages that fails. `outcome` runs the stages
in the order the middlewares and the handler run them: the content checks, the quota for a
mutating route, reading the call from the path and the body, and making the call. Each
middleware is simulated by its stage (`Layer.wrap_follows`), so a whole chain by the fold of
its stages (`chain_follows`), and the service answers every routed request with the envelope
of its outcome (`serve_follows`). The faults of the service core itself are details under
its three sentinels (`Call.run_coreFault`); no fault of a store or a cache reaches a client
unwrapped.
-/

namespace Tallykeeper

/-! ## Faults of the service core -/

/-- A fault the service core answers with: a detail under one of its three sentinels. -/
inductive CoreFault : Fault → Prop
  | invalidEntity (detail : String) : CoreFault (.wrap .invalidEntity detail)
  | notFound (detail : String) : CoreFault (.wrap .notFound detail)
  | unavailable (detail : String) : CoreFault (.wrap .unavailable detail)

@[simp] theorem coreFault_wrap_iff (s : Sentinel) (detail : String) :
    CoreFault (.wrap s detail) ↔ s = .invalidEntity ∨ s = .notFound ∨ s = .unavailable := by
  constructor
  · rintro (_ | _ | _) <;> simp
  · rintro (rfl | rfl | rfl)
    · exact .invalidEntity detail
    · exact .notFound detail
    · exact .unavailable detail

namespace Service

variable {w : World} {f : Fault}

theorem resolve_coreFault {name : Text.ByteString} (failed : (resolve name w).1 = .error f) :
    CoreFault f := by
  simp only [resolve] at failed
  split at failed
  · cases failed
  · split at failed <;> cases failed <;> simp [unregistered, Fault.under]

theorem catalogGet_coreFault {name : Text.ByteString} (failed : (catalogGet name w).1 = .error f) :
    CoreFault f := by
  simp only [catalogGet] at failed
  split at failed
  · cases failed
  · split at failed <;> cases failed <;> simp [unregistered, Fault.under]

theorem catalogList_coreFault (failed : (catalogList w).1 = .error f) : CoreFault f := by
  simp only [catalogList] at failed
  split at failed
  · cases failed
  · cases failed
    simp [Fault.under]

/-- Caching the id of a registered name never fails, so a registration fails only in the
store. -/
theorem register_coreFault {name description : Text.ByteString} {defaultValue : Int64}
    (failed : (register name description defaultValue w).1 = .error f) : CoreFault f := by
  simp only [register, cacheEntry_eq] at failed
  repeat' split at failed
  all_goals cases failed
  all_goals simp [Fault.under]

/-- Forgetting the old name of a renamed entry and caching the new one never fail, so an
update fails only in the store. -/
theorem catalogUpdate_coreFault {id : Int64} {p : Catalog.Patch}
    (failed : (catalogUpdate id p w).1 = .error f) : CoreFault f := by
  simp only [catalogUpdate, cacheEntry_eq, World.forgetId_eq] at failed
  repeat' split at failed
  all_goals cases failed
  all_goals simp [noEntry, Fault.under]

theorem counterGet_coreFault {name : Text.ByteString} {userId : Int64}
    (failed : (counterGet name userId w).1 = .error f) : CoreFault f := by
  simp only [counterGet] at failed
  split at failed
  · next resolved =>
    cases failed
    exact resolve_coreFault (by rw [resolved])
  · split at failed
    · cases failed
    · split at failed <;> cases failed <;> simp [Fault.under]

/-- An overflow of the counts is an invalid entity; every other failure of the counts makes
the store unavailable. -/
theorem counterIncrement_coreFault {name : Text.ByteString} {userId delta : Int64}
    (failed : (counterIncrement name userId delta w).1 = .error f) : CoreFault f := by
  simp only [counterIncrement] at failed
  split at failed
  · next resolved =>
    cases failed
    exact resolve_coreFault (by rw [resolved])
  · split at failed
    · split at failed <;> cases failed <;> simp [Fault.under]
    · cases failed

theorem counterReset_coreFault {name : Text.ByteString} {userId : Int64}
    (failed : (counterReset name userId w).1 = .error f) : CoreFault f := by
  simp only [counterReset] at failed
  split at failed
  · next resolved =>
    cases failed
    exact resolve_coreFault (by rw [resolved])
  · split at failed
    · cases failed
      simp [Fault.under]
    · cases failed

end Service

namespace Http

open Service

/-- The members shown for a result fail exactly as the result does. -/
theorem shown_error {α : Type} {members : α → List (String × Json.Value)}
    {made : Except Fault α × World} {f : Fault}
    (failed : (shown members made).1 = .error f) : made.1 = .error f := by
  obtain ⟨_ | a, w⟩ := made
  · simpa [shown, Except.map] using failed
  · simp [shown, Except.map] at failed

/-- Every fault a call of the service makes is a detail under one of the core's sentinels. -/
theorem Call.run_coreFault (c : Call) (w : World) {f : Fault}
    (failed : (c.run w).1 = .error f) : CoreFault f := by
  cases c with
  | catalogList => exact catalogList_coreFault (shown_error failed)
  | catalogGet name => exact catalogGet_coreFault (shown_error failed)
  | register name description defaultValue => exact register_coreFault (shown_error failed)
  | catalogUpdate id patch => exact catalogUpdate_coreFault (shown_error failed)
  | counterGet name userId => exact counterGet_coreFault (shown_error failed)
  | counterIncrement name userId delta => exact counterIncrement_coreFault (shown_error failed)
  | counterReset name userId => exact counterReset_coreFault (shown_error failed)

/-! ## The stages of a request -/

/-- What a request meets: the members of its success answer or the first fault, and the
service after it. -/
abbrev Outcome := Except Fault (List (String × Json.Value)) × World

/-- The request quota's verdict: without a quota every request passes; with one, the request
counts against its client's window and is refused past the limit, or when the server
fails. -/
def quotaVerdict (r : Request) (w : World) : Except Fault Unit × World :=
  match w.quota with
  | none => (.ok (), w)
  | some q =>
    match w.onServer (requestQuota q.limit q.windowSeconds
        (clientOf (r.header "X-Forwarded-For") r.remoteAddr)) with
    | (.error e, w1) => (.error (.wrap .backendDown ("rate limit: " ++ e)), w1)
    | (.ok left, w1) =>
      if left < 0 then (.error (.wrap .limitExceeded "request quota exceeded"), w1)
      else (.ok (), w1)

/-- What a layer makes of the outcome of the handler it wraps: the content checks and the
quota may stop a request with their fault; the other layers change no outcome. -/
def Layer.stage (r : Request) : Layer → (World → Outcome) → World → Outcome
  | .validateContent => fun next w =>
    match contentFault r with
    | some f => (.error f, w)
    | none => next w
  | .rateLimit => fun next w =>
    match quotaVerdict r w with
    | (.error f, w1) => (.error f, w1)
    | (.ok (), w1) => next w1
  | .ctxPrepare | .log | .instrument | .debugHeaders _ _ | .gzip => fun next => next

/-- What a route's handler meets: reading its call, then making it. -/
def called (route : Route) (vars : Vars) (r : Request) (w : World) : Outcome :=
  match Call.read route vars r with
  | .error f => (.error f, w)
  | .ok c => c.run w

/-- The quota's verdict where a route counts against it; every other route passes. -/
def admitted (route : Route) (r : Request) (w : World) : Except Fault Unit × World :=
  if limited route then quotaVerdict r w else (.ok (), w)

/-- What a request to a route meets, stage by stage: the content checks, the quota of a
mutating route, reading the call and making it. The first fault met ends the request. -/
def outcome (route : Route) (vars : Vars) (r : Request) (w : World) : Outcome :=
  match contentFault r with
  | some f => (.error f, w)
  | none =>
    match admitted route r w with
    | (.error f, w1) => (.error f, w1)
    | (.ok (), w1) => called route vars r w1

/-- The stages of a route in the order of its layers. -/
theorem outcome_eq_stages (host : String) (route : Route) (vars : Vars) (r : Request) :
    outcome route vars r =
      (baseLayers host).foldr (Layer.stage r)
        ((if limited route then Layer.rateLimit.stage r else id) (called route vars r)) := by
  funext w
  cases mutating : limited route <;>
    simp only [outcome, admitted, mutating, baseLayers, List.foldr_cons, List.foldr_nil,
      Layer.stage, if_true, id, Bool.false_eq_true, if_false]

/-! ## Handlers that follow their stages -/

/-- A handler follows a pipeline of stages at a request when, from every service, it answers
with the status and body of the envelope of the pipeline's outcome, whatever headers it adds,
and leaves the service as the pipeline does. -/
def Handler.Follows (h : Handler) (r : Request) (p : World → Outcome) : Prop :=
  ∀ w, (h r w).1.status = (respond (p w).1).status ∧ (h r w).1.body = (respond (p w).1).body ∧
    (h r w).2 = (p w).2

variable {h : Handler} {r : Request} {p : World → Outcome}

theorem handle_follows (route : Route) (vars : Vars) (r : Request) :
    (handle route vars).Follows r (called route vars r) := by
  intro w
  simp only [handle, called]
  cases Call.read route vars r with
  | error f => exact ⟨rfl, rfl, rfl⟩
  | ok c => exact ⟨rfl, rfl, rfl⟩

/-- The quota answers a refused request with its fault and passes any other on; the headers
announcing the quota change neither status nor body. -/
theorem rateLimit_follows (follows : h.Follows r p) :
    (Layer.rateLimit.wrap h).Follows r (Layer.rateLimit.stage r p) := by
  intro w
  simp only [Layer.wrap, Layer.stage, withQuota, quotaVerdict]
  cases w.quota with
  | none => exact follows w
  | some q =>
    dsimp only
    generalize w.onServer _ = counted
    obtain ⟨_ | left, w1⟩ := counted
    · exact ⟨rfl, rfl, rfl⟩
    · by_cases exceeded : left < 0
      · simp only [exceeded, if_true]
        exact ⟨rfl, rfl, trivial⟩
      · simp only [exceeded, if_false]
        exact follows w1

/-- One layer: a handler that follows a pipeline, wrapped in a layer, follows the layer's
stage in front of that pipeline. -/
theorem Layer.wrap_follows (layer : Layer) (follows : h.Follows r p) :
    (layer.wrap h).Follows r (layer.stage r p) := by
  cases layer with
  | ctxPrepare | log | instrument => exact follows
  | debugHeaders revision host => exact follows
  | gzip =>
    intro w
    simp only [Layer.wrap, Layer.stage]
    split
    · exact follows w
    · exact follows w
  | validateContent =>
    intro w
    simp only [Layer.wrap, Layer.stage]
    cases contentFault r with
    | some f => exact ⟨rfl, rfl, rfl⟩
    | none => exact follows w
  | rateLimit => exact rateLimit_follows follows

/-- A whole chain, by induction on its layers: the chained handler follows the fold of the
layers' stages. -/
theorem chain_follows (layers : List Layer) (follows : h.Follows r p) :
    (chain (layers.map Layer.wrap) h).Follows r (layers.foldr (Layer.stage r) p) := by
  induction layers with
  | nil => exact follows
  | cons layer layers ih =>
    rw [List.map_cons, chain_cons, List.foldr_cons]
    exact layer.wrap_follows ih

/-- The service answers a request routed to a catalog or counter route as its stages
decide. -/
theorem serve_follows
    (host : String)
    {t : Target}
    {route : Route}
    {vars : Vars}
    (parsed : Target.parse r.target = some t)
    (routed : dispatch r.method t = .serve route vars)
    (notHealth : route ≠ .health) :
    Handler.Follows (serve host) r (outcome route vars r) := by
  intro w
  rw [serve_of_route host parsed routed notHealth, outcome_eq_stages host]
  cases limited route with
  | false => exact chain_follows (baseLayers host) (handle_follows route vars r) w
  | true =>
    rw [if_pos rfl, if_pos rfl, limitChain_apply]
    exact chain_follows (baseLayers host) (rateLimit_follows (handle_follows route vars r)) w

/-- A request meets success exactly when it passes every stage: the content checks, the quota
where its route counts against one, reading its call, and the call. -/
theorem outcome_eq_ok_iff (route : Route) (vars : Vars) (r : Request) (w : World) :
    (∃ members, (outcome route vars r w).1 = .ok members) ↔
      contentFault r = none ∧ ∃ w1, admitted route r w = (.ok (), w1) ∧
        ∃ c, Call.read route vars r = .ok c ∧ ∃ members, (c.run w1).1 = .ok members := by
  unfold outcome
  cases contentFault r with
  | some f => simp
  | none =>
    generalize admitted route r w = verdict
    obtain ⟨_ | ⟨⟩, w1⟩ := verdict
    · simp
    · simp only [called]
      cases Call.read route vars r with
      | error f => simp
      | ok c => simp

/-! ## Faults of reading a call -/

/-- A bind fails only as one of its steps fails. -/
theorem bind_fault {α β : Type} {P : Fault → Prop} {x : Except Fault α}
    {k : α → Except Fault β} (first : ∀ f, x = .error f → P f)
    (rest : ∀ a f, k a = .error f → P f) {f : Fault} (failed : x >>= k = .error f) : P f := by
  cases x with
  | error g =>
    cases failed
    exact first _ rfl
  | ok a => exact rest a f failed

theorem numberVar_fault {key : String} {raw : List UInt8} {f : Fault}
    (failed : numberVar key raw = .error f) : f.is .invalidInput = true := by
  simp only [numberVar] at failed
  split at failed <;> cases failed
  simp

theorem decodeBody_fault {shape : Json.RecordShape} {r : Request} {f : Fault}
    (failed : decodeBody shape r = .error f) : f.is .invalidInput = true := by
  simp only [decodeBody] at failed
  repeat' split at failed
  all_goals cases failed
  all_goals simp

/-- Reading the call of a catalog or counter route fails only on invalid input: a path
variable that is no number, or a body that is no payload of the route. -/
theorem Call.read_fault {route : Route} {vars : Vars} {r : Request} {f : Fault}
    (notHealth : route ≠ .health) (failed : Call.read route vars r = .error f) :
    f.is .invalidInput = true := by
  have returned : ∀ (c : Call) (g : Fault), (pure c : Except Fault Call) = .error g →
      g.is .invalidInput = true := fun _ _ done => by cases done
  cases route with
  | health => exact absurd rfl notHealth
  | catalogList | catalogGet => cases failed
  | catalogPut =>
    simp only [Call.read] at failed
    exact bind_fault (fun _ => decodeBody_fault) (fun _ => returned _) failed
  | catalogUpdate =>
    simp only [Call.read] at failed
    exact bind_fault (fun _ => numberVar_fault)
      (fun _ _ => bind_fault (fun _ => decodeBody_fault) (fun _ => returned _)) failed
  | counterGet | counterReset =>
    simp only [Call.read] at failed
    exact bind_fault (fun _ => numberVar_fault) (fun _ => returned _) failed
  | counterIncrement =>
    simp only [Call.read] at failed
    exact bind_fault (fun _ => numberVar_fault)
      (fun _ _ => bind_fault (fun _ => decodeBody_fault) (fun _ => returned _)) failed

/-! ## The envelope -/

/-- The body of an error answer: its status word and the fault's message. -/
def faultBody (word : String) (f : Fault) : Body :=
  .json (.object [("status", .text word), ("error", .object [("message", .text f.message)])])

/-- The documented answer to what a request met. A success is `200` with status `success` and
its members. A fault answers with its message: absence `404` with status `not_found`; an
invalid entity or invalid input `400`, an exceeded quota `429` and anything else `500`, each
with status `failure`. -/
inductive Envelope : Except Fault (List (String × Json.Value)) → Nat → Body → Prop
  | success (members : List (String × Json.Value)) :
      Envelope (.ok members) 200 (.json (.object (("status", .text "success") :: members)))
  | absent (f : Fault) :
      f.sentinel? = some .notFound ∨ f.sentinel? = some .routeNotFound →
      Envelope (.error f) 404 (faultBody "not_found" f)
  | invalid (f : Fault) :
      f.sentinel? = some .invalidEntity ∨ f.sentinel? = some .invalidInput →
      Envelope (.error f) 400 (faultBody "failure" f)
  | exceeded (f : Fault) :
      f.sentinel? = some .limitExceeded → Envelope (.error f) 429 (faultBody "failure" f)
  | failed (f : Fault) :
      f.sentinel? ∉ [some .notFound, some .routeNotFound, some .invalidEntity,
        some .invalidInput, some .limitExceeded] →
      Envelope (.error f) 500 (faultBody "failure" f)

/-- The service's answers follow the table. -/
theorem respond_envelope (o : Except Fault (List (String × Json.Value))) :
    Envelope o (respond o).status (respond o).body := by
  cases o with
  | ok members => exact .success members
  | error f =>
    show Envelope (.error f) (respondFault f).status (respondFault f).body
    unfold respondFault statusOf
    by_cases absent : (f.is .notFound || f.is .routeNotFound) = true
    · rw [if_pos absent]
      exact .absent f (by simpa [Fault.is] using absent)
    by_cases invalid : (f.is .invalidEntity || f.is .invalidInput) = true
    · rw [if_neg absent, if_pos invalid]
      exact .invalid f (by simpa [Fault.is] using invalid)
    by_cases exceeded : f.is .limitExceeded = true
    · rw [if_neg absent, if_neg invalid, if_pos exceeded]
      exact .exceeded f (by simpa [Fault.is] using exceeded)
    rw [if_neg absent, if_neg invalid, if_neg exceeded]
    exact .failed f (by simp_all [Fault.is])

/-- The table gives one answer to each outcome: a fault belongs to at most one sentinel, so
its rows do not overlap. -/
theorem Envelope.unique {o : Except Fault (List (String × Json.Value))} {status status' : Nat}
    {body body' : Body} (env : Envelope o status body) (env' : Envelope o status' body') :
    status = status' ∧ body = body' := by
  cases env <;> cases env' <;> grind

/-- Only a success answers `200`. -/
theorem Envelope.status_eq_200_iff {o : Except Fault (List (String × Json.Value))} {status : Nat}
    {body : Body} (env : Envelope o status body) :
    status = 200 ↔ ∃ members, o = .ok members := by
  cases env with
  | success members => exact ⟨fun _ => ⟨members, rfl⟩, fun _ => rfl⟩
  | absent | invalid | exceeded | failed => simp

/-- The error envelope. A request routed to a catalog or counter route answers `200` with
status `success` exactly when it passes the content checks and, on a mutating route, the
quota, its call is read from its path and body, and the call succeeds. Otherwise the first
fault met decides the answer by the documented table, with the fault's message, and the
service is left as that stage left it. Reading a call fails only on invalid input, and every
fault the service core answers is a detail under its invalid-entity, not-found or
unavailable sentinel. -/
theorem error_envelope
    (host : String)
    (r : Request)
    (w : World)
    {t : Target}
    {route : Route}
    {vars : Vars}
    (parsed : Target.parse r.target = some t)
    (routed : dispatch r.method t = .serve route vars)
    (notHealth : route ≠ .health) :
    ((serve host r w).1.status = 200 ↔
        contentFault r = none ∧ ∃ w1, admitted route r w = (.ok (), w1) ∧
          ∃ c, Call.read route vars r = .ok c ∧ ∃ members, (c.run w1).1 = .ok members) ∧
      Envelope (outcome route vars r w).1 (serve host r w).1.status (serve host r w).1.body ∧
      (serve host r w).2 = (outcome route vars r w).2 ∧
      (∀ f, Call.read route vars r = .error f → f.is .invalidInput = true) ∧
      ∀ (c : Call) (w' : World) (f : Fault), (c.run w').1 = .error f → CoreFault f := by
  obtain ⟨status, body, after⟩ := serve_follows host parsed routed notHealth w
  have envelope : Envelope (outcome route vars r w).1 (serve host r w).1.status
      (serve host r w).1.body := by
    rw [status, body]
    exact respond_envelope _
  refine ⟨?_, envelope, after, fun _ => Call.read_fault notHealth,
    fun c w' _ => Call.run_coreFault c w'⟩
  rw [envelope.status_eq_200_iff]
  exact outcome_eq_ok_iff route vars r w

/-- A user id that is no number stops a counter read when its call is read: invalid input,
answered `400`. -/
theorem error_envelope_user_not_a_number :
    let w : World :=
      { stores := {}, ids := Cache.Tiered.create 1, values := Cache.Tiered.create 1,
        source := .silent }
    let r : Request :=
      { method := "GET", target := "/counters/visits/users/abc", contentLength := 0 }
    Target.parse r.target = some ⟨word "/counters/visits/users/abc", ""⟩ ∧
      dispatch r.method ⟨word "/counters/visits/users/abc", ""⟩ =
        .serve .counterGet { name := word "visits", userId := word "abc" } ∧
      (serve "localhost" r w).1.status = 400 := by
  intro w r
  have parsed : Target.parse r.target = some ⟨word "/counters/visits/users/abc", ""⟩ := by cbv
  have routed : dispatch r.method ⟨word "/counters/visits/users/abc", ""⟩ =
      .serve .counterGet { name := word "visits", userId := word "abc" } := by cbv
  have envelope :=
    (error_envelope "localhost" r w parsed routed (by decide)).2.1
  have met : (outcome .counterGet { name := word "visits", userId := word "abc" } r w).1 =
      .error (.wrap .invalidInput "userID 'abc' is not a number") := by cbv
  rw [met] at envelope
  exact ⟨parsed, routed, (envelope.unique (.invalid _ (by simp [Fault.sentinel?]))).1⟩

end Http
end Tallykeeper
