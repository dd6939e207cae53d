import Mathlib
import Tallykeeper.Http.Serve

/-!
# Middleware chains

`chain` wraps a handler in a list of middlewares, the first outermost, and a chain listed in
another chain stands for its own middlewares in its place:
`chain (chain xs :: ys) = chain (xs ++ ys)`. So the chain of the mutating routes, the base
chain followed by the request quota, runs the request context, the log, the metrics, the debug
headers, gzip and the content checks in that order, and the quota innermost.

The quota setting is what the limiter acts on. A handler that answers alike whatever quota
the service has, and leaves it as it was, never consults the limiter (`Handler.QuotaBlind`).
Every layer but the quota keeps a handler blind, and the content checks make any handler
blind at a request they refuse. The main statement, `chain_wiring`, gathers the laws of
chains and their consequence for the service: only a mutating request that passes the
content checks reaches the limiter, and a mutating request they refuse leaves the service as
it was.
-/

namespace Tallykeeper
namespace Http

open Service

/-! ## Chains -/

theorem chain_nil : chain [] = id := rfl

theorem chain_cons (m : Middleware) (ms : List Middleware) (h : Handler) :
    chain (m :: ms) h = m (chain ms h) := by
  simp [chain]

/-- A chain applies its middlewares to the handler from the last to the first, so the first is
outermost. -/
theorem chain_apply (ms : List Middleware) (h : Handler) :
    chain ms h = ms.foldr (fun m inner => m inner) h := by
  induction ms with
  | nil => rfl
  | cons m ms ih => rw [chain_cons, ih, List.foldr_cons]

theorem chain_append (xs ys : List Middleware) (h : Handler) :
    chain (xs ++ ys) h = chain xs (chain ys h) := by
  simp only [chain_apply, List.foldr_append]

/-- A chain listed first in a chain stands for its middlewares. -/
theorem chain_nested (xs ys : List Middleware) : chain (chain xs :: ys) = chain (xs ++ ys) := by
  funext h
  rw [chain_cons, chain_append]

/-- The chain of the mutating routes is the base layers followed by the quota. -/
theorem limitChain_eq_layers (host : String) :
    limitChain host = chain ((baseLayers host ++ [Layer.rateLimit]).map Layer.wrap) := by
  rw [limitChain, baseChain, chain_nested, List.map_append]
  rfl

theorem limitChain_apply (host : String) (h : Handler) :
    limitChain host h = baseChain host (Layer.rateLimit.wrap h) := by
  rw [limitChain, chain_cons, chain_cons, chain_nil]
  rfl

/-- The base chain is the outer layers around the content checks. -/
theorem baseChain_eq_outer (host : String) (h : Handler) :
    baseChain host h =
      chain ([Layer.ctxPrepare, .log, .instrument, .debugHeaders revision host, .gzip].map
        Layer.wrap) (Layer.validateContent.wrap h) := by
  have split : baseLayers host =
      [.ctxPrepare, .log, .instrument, .debugHeaders revision host, .gzip] ++ [.validateContent] :=
    rfl
  rw [baseChain, split, List.map_append, chain_append]
  rfl

/-! ## Blindness to the quota -/

/-- A handler that answers a request alike whatever quota the service has, and leaves the
quota as it was: it never consults the limiter. -/
def Handler.QuotaBlind (h : Handler) (r : Request) : Prop :=
  ∀ (w : World) (q : Option Quota),
    h r { w with quota := q } = ((h r w).1, { (h r w).2 with quota := q })

/-- A handler that answers without the service is blind to the quota. -/
theorem Handler.quotaBlind_const (resp : Response) (r : Request) :
    Handler.QuotaBlind (fun _ w => (resp, w)) r :=
  fun _ _ => rfl

/-- Every layer but the request quota keeps a handler blind to the quota. -/
theorem Layer.wrap_quotaBlind
    {l : Layer}
    (notQuota : l ≠ .rateLimit)
    {next : Handler}
    {r : Request}
    (blind : next.QuotaBlind r) :
    (l.wrap next).QuotaBlind r := by
  intro w q
  cases l with
  | ctxPrepare | log | instrument => exact blind w q
  | debugHeaders revision host => simp only [Layer.wrap, blind w q]
  | gzip =>
    simp only [Layer.wrap, blind w q]
    split <;> rfl
  | validateContent =>
    simp only [Layer.wrap]
    split
    · rfl
    · exact blind w q
  | rateLimit => exact absurd rfl notQuota

/-- The content checks answer a request they refuse without the handler. -/
theorem validateContent_quotaBlind
    {r : Request}
    {f : Fault}
    (refused : contentFault r = some f)
    (next : Handler) :
    (Layer.validateContent.wrap next).QuotaBlind r := by
  intro w q
  simp [Layer.wrap, refused]

/-- A chain of layers none of which is the quota keeps a handler blind to the quota. -/
theorem chain_quotaBlind
    {ls : List Layer}
    (noQuota : Layer.rateLimit ∉ ls)
    {h : Handler}
    {r : Request}
    (blind : h.QuotaBlind r) :
    (chain (ls.map Layer.wrap) h).QuotaBlind r := by
  induction ls with
  | nil => exact blind
  | cons l ls ih =>
    rw [List.map_cons, chain_cons]
    exact Layer.wrap_quotaBlind (fun same => noQuota (same ▸ List.mem_cons_self ..))
      (ih (fun later => noQuota (List.mem_cons_of_mem _ later)))

theorem baseChain_quotaBlind
    (host : String)
    {h : Handler}
    {r : Request}
    (blind : h.QuotaBlind r) :
    (baseChain host h).QuotaBlind r :=
  chain_quotaBlind (by simp [baseLayers]) blind

/-- At a request the content checks refuse, the base chain is blind to the quota whatever the
handler. -/
theorem baseChain_quotaBlind_of_refused
    (host : String)
    {r : Request}
    {f : Fault}
    (refused : contentFault r = some f)
    (h : Handler) :
    (baseChain host h).QuotaBlind r := by
  rw [baseChain_eq_outer]
  exact chain_quotaBlind (by simp) (validateContent_quotaBlind refused h)

/-- A request the content checks refuse leaves the service as it was. -/
theorem baseChain_snd_of_refused
    (host : String)
    {r : Request}
    {f : Fault}
    (refused : contentFault r = some f)
    (h : Handler)
    (w : World) :
    (baseChain host h r w).2 = w := by
  simp [baseChain, baseLayers, chain_apply, Layer.wrap, refused]
  split <;> rfl

/-! ## The handlers of the base routes -/

theorem onStores_quota {α : Type} (op : Stores → α × Stores) (w : World) (q : Option Quota) :
    World.onStores op { w with quota := q } =
      ((w.onStores op).1, { (w.onStores op).2 with quota := q }) :=
  rfl

theorem resolveId_quota (name : Text.ByteString) (w : World) (q : Option Quota) :
    World.resolveId name { w with quota := q } =
      ((w.resolveId name).1, { (w.resolveId name).2 with quota := q }) :=
  rfl

theorem readValue_quota (key : String) (w : World) (q : Option Quota) :
    World.readValue key { w with quota := q } =
      ((w.readValue key).1, { (w.readValue key).2 with quota := q }) :=
  rfl

theorem catalogList_quota (w : World) (q : Option Quota) :
    catalogList { w with quota := q } = ((catalogList w).1, { (catalogList w).2 with quota := q }) := by
  unfold catalogList
  rw [onStores_quota]
  generalize w.onStores (·.catalogCall .query fun b c => c.query b {}) = listed
  obtain ⟨_ | _, _⟩ := listed <;> rfl

theorem catalogGet_quota (name : Text.ByteString) (w : World) (q : Option Quota) :
    catalogGet name { w with quota := q } =
      ((catalogGet name w).1, { (catalogGet name w).2 with quota := q }) := by
  unfold catalogGet
  rw [onStores_quota]
  generalize w.onStores (·.catalogCall .get fun b c => c.get b name) = looked
  obtain ⟨_ | _, _⟩ := looked
  · dsimp only
    split <;> rfl
  · rfl

theorem resolve_quota (name : Text.ByteString) (w : World) (q : Option Quota) :
    resolve name { w with quota := q } =
      ((resolve name w).1, { (resolve name w).2 with quota := q }) := by
  unfold resolve
  rw [resolveId_quota]
  generalize w.resolveId name = resolved
  obtain ⟨_ | _, _⟩ := resolved
  · dsimp only
    split <;> rfl
  · rfl

theorem counterGet_quota (name : Text.ByteString) (userId : Int64) (w : World) (q : Option Quota) :
    counterGet name userId { w with quota := q } =
      ((counterGet name userId w).1, { (counterGet name userId w).2 with quota := q }) := by
  unfold counterGet
  rw [resolve_quota]
  generalize resolve name w = resolved
  obtain ⟨_ | id, w1⟩ := resolved
  · rfl
  · dsimp only
    rw [readValue_quota]
    generalize w1.readValue (counterKey id userId) = read
    obtain ⟨_ | _, _⟩ := read
    · dsimp only
      split <;> rfl
    · rfl

/-- The handler of a route that does not count against the quota is blind to it. -/
theorem handle_quotaBlind
    {route : Route}
    (unlimited : limited route = false)
    (vars : Vars)
    (r : Request) :
    (handle route vars).QuotaBlind r := by
  intro w q
  cases route with
  | health => rfl
  | catalogList =>
    simp only [handle, Call.read, Call.run, shown]
    rw [catalogList_quota]
  | catalogGet =>
    simp only [handle, Call.read, Call.run, shown]
    rw [catalogGet_quota]
  | counterGet =>
    simp only [handle, Call.read]
    cases numberVar "userID" vars.userId with
    | error f => rfl
    | ok u =>
      simp only [bind, Except.bind, pure, Except.pure, Call.run, shown]
      rw [counterGet_quota]
  | catalogPut | catalogUpdate | counterIncrement | counterReset => cases unlimited

/-! ## Which requests reach the quota -/

/-- A request the router sends to a mutating route and that passes the content checks. -/
def ReachesQuota (r : Request) : Prop :=
  ∃ t route vars, Target.parse r.target = some t ∧ dispatch r.method t = .serve route vars ∧
    limited route = true ∧ contentFault r = none

/-- The service answers a request routed to one of its routes through that route's chain. -/
theorem serve_of_route
    (host : String)
    {r : Request}
    {t : Target}
    {route : Route}
    {vars : Vars}
    (parsed : Target.parse r.target = some t)
    (routed : dispatch r.method t = .serve route vars)
    (notHealth : route ≠ .health)
    (w : World) :
    serve host r w =
      (if limited route then limitChain host else baseChain host) (handle route vars) r w := by
  cases route
  · exact absurd rfl notHealth
  all_goals simp only [serve, parsed, routed]

/-- Only a mutating request that passes the content checks reaches the limiter: the service
answers every other request alike whatever its quota, and leaves the quota as it was. -/
theorem serve_quotaBlind
    (host : String)
    {r : Request}
    (unreached : ¬ ReachesQuota r) :
    Handler.QuotaBlind (serve host) r := by
  intro w q
  cases parsed : Target.parse r.target with
  | none => simp only [serve, parsed]
  | some t =>
    cases routed : dispatch r.method t with
    | cleaned loc => simp only [serve, parsed, routed]
    | unslashed loc =>
      simp only [serve, parsed, routed]
      split <;> rfl
    | notAllowed => simp only [serve, parsed, routed]
    | notFound =>
      simp only [serve, parsed, routed]
      exact baseChain_quotaBlind host (Handler.quotaBlind_const _ r) w q
    | serve route vars =>
      by_cases health : route = .health
      · subst health
        simp only [serve, parsed, routed]
        rfl
      rw [serve_of_route host parsed routed health, serve_of_route host parsed routed health]
      cases unlimited : limited route
      · exact baseChain_quotaBlind host (handle_quotaBlind unlimited vars r) w q
      · -- a mutating request that does not reach the quota is refused by the content checks
        obtain ⟨f, refused⟩ : ∃ f, contentFault r = some f := by
          cases checked : contentFault r with
          | none => exact absurd ⟨t, route, vars, parsed, routed, unlimited, checked⟩ unreached
          | some f => exact ⟨f, rfl⟩
        simp only [if_true, limitChain_apply]
        exact baseChain_quotaBlind_of_refused host refused _ w q

/-- Chains and their wiring. A chain applies its middlewares first outermost, the empty chain
is the identity, and a chain listed first in a chain stands for its middlewares. So the chain of
the mutating routes runs the request context, the log, the metrics, the debug headers, gzip and
the content checks in that order, with the request quota innermost. Consequently only a mutating
request that passes the content checks reaches the limiter: every other request, those of the
routes on the base chain included, is answered alike whatever quota the service has and leaves
the quota as it was; and a mutating request the content checks refuse leaves the whole service
as it was, its quota included. -/
theorem chain_wiring (host : String) :
    (∀ (ms : List Middleware) (h : Handler), chain ms h = ms.foldr (fun m inner => m inner) h) ∧
      chain [] = id ∧
      (∀ xs ys : List Middleware, chain (chain xs :: ys) = chain (xs ++ ys)) ∧
      limitChain host = chain ([.ctxPrepare, .log, .instrument, .debugHeaders revision host,
        .gzip, .validateContent, .rateLimit].map Layer.wrap) ∧
      (∀ r : Request, ¬ ReachesQuota r → ∀ (w : World) (q : Option Quota),
        serve host r { w with quota := q } =
          ((serve host r w).1, { (serve host r w).2 with quota := q })) ∧
      (∀ (r : Request) (w : World) (t : Target) (route : Route) (vars : Vars) (f : Fault),
        Target.parse r.target = some t → dispatch r.method t = .serve route vars →
        limited route = true → contentFault r = some f → (serve host r w).2 = w) := by
  refine ⟨chain_apply, chain_nil, chain_nested, limitChain_eq_layers host,
    fun r unreached => serve_quotaBlind host unreached, ?_⟩
  intro r w t route vars f parsed routed mutating refused
  have notHealth : route ≠ .health := by
    rintro rfl
    cases mutating
  rw [serve_of_route host parsed routed notHealth, if_pos mutating, limitChain_apply]
  exact baseChain_snd_of_refused host refused _ w

/-- A registration sent as plain text is refused by the content checks before the limiter
counts it, so the service keeps its quota window as it was. -/
theorem chain_wiring_plain_text_registration :
    let w : World :=
      { stores := {}, ids := Cache.Tiered.create 1, values := Cache.Tiered.create 1,
        source := .silent, quota := some ⟨2, 1⟩ }
    let r : Request :=
      { method := "PUT", target := "/catalog/visits",
        headers := [("Content-Type", "text/plain")], contentLength := 5 }
    contentFault r = some (.wrap .invalidInput "Content-Type header missmatch") ∧
      (serve "localhost" r w).2 = w := by
  intro w r
  have parsed : Target.parse "/catalog/visits" = some ⟨word "/catalog/visits", ""⟩ := by cbv
  have routed : dispatch "PUT" ⟨word "/catalog/visits", ""⟩ =
      .serve .catalogPut { name := word "visits" } := by cbv
  have refused : contentFault r = some (.wrap .invalidInput "Content-Type header missmatch") := by
    cbv
  exact ⟨refused, (chain_wiring "localhost").2.2.2.2.2 r w _ _ _ _ parsed routed rfl refused⟩

end Http
end Tallykeeper
