import RcsMessaging.Api.Middleware

/-!
# `Api.App` — the stack `create_app` builds, over every run of requests

`create_app` (`api/main.py`) adds its middlewares in the order of its comments: CORS, request id
("first - for tracing all requests"), rate limiting ("before auth to prevent auth abuse"),
authentication, tenancy ("should run AFTER AuthMiddleware"). `add_middleware` puts each new one in
front, so the stack runs them the other way round: `TenancyMiddleware` outermost, then
`AuthMiddleware`, `RateLimitMiddleware`, `RequestIDMiddleware`, and CORS with the routes inside.

A run is any list of requests served one after the other (`serveAll`), each arriving with a
fresh `request.state`, its clock reading, and whether Redis answers meanwhile.

## Contents
- `Handed` and `moves_createApp`: what a route is handed while one request is served — the
  request as it came, with a request id, never a tenant context, and authenticated exactly when
  its path is neither public nor a webhook path — and that the state moves along any `Drift` the
  primitives and the routes keep.
- **`routes_never_get_tenant_context`**, **`routes_get_tenant_iff_not_exempt`**: over every run,
  `get_tenant_context` raises for every request a route is handed, and `get_current_tenant`
  answers exactly for those on a path that is not exempt.
- **`request_id_only_after_route`**: an answer that carries `X-Request-ID` comes from a request
  some route was handed; a request refused by authentication or by the limiter gets none.
- **`route_called_at_most_twice`**: one request reaches the routes at most twice, twice only
  through the limiter's fail-open `except` (`Api.ApiKeys` shows it happens whenever the route
  raises behind it).
- **`answer_codes_of_route`**: an answer's status code is one the route gives for the request's
  method and path, or 401, 429 or 500, the codes the middlewares add.
-/

namespace RcsMessaging

namespace Api

open Http

/-- The settings `create_app` reads. -/
structure Settings where
  debug : Bool := false
  rateLimitEnabled : Bool := true
  defaultLimit : Nat := 100
  apiKeyHeader : String := "X-API-Key"
  deriving DecidableEq, Repr

/-- `app.user_middleware` after `create_app`'s `add_middleware` calls; `CORSMiddleware`, added
first and so innermost, belongs to the `Route`. -/
def userMiddleware (s : Settings) (decodeJwt : String → Except String AuthMiddleware.JwtPayload) :
    List Dispatch :=
  let ms := Starlette.addMiddleware [] RequestIDMiddleware.dispatch
  let ms := if s.rateLimitEnabled then
      Starlette.addMiddleware ms (RateLimitMiddleware.dispatch { defaultLimit := s.defaultLimit })
    else ms
  let ms := Starlette.addMiddleware ms (AuthMiddleware.dispatch s.apiKeyHeader decodeJwt)
  Starlette.addMiddleware ms TenancyMiddleware.dispatch

/-- `create_app()`: the user middleware around the routes, under `ServerErrorMiddleware` with
`global_exception_handler`. -/
def createApp (s : Settings) (decodeJwt : String → Except String AuthMiddleware.JwtPayload)
    (route : Route) : App :=
  Starlette.serverErrorMiddleware s.debug
    (Starlette.buildMiddlewareStack (userMiddleware s decodeJwt) (callRoute route))

/-- The layers inside `AuthMiddleware`: the limiter when it is enabled, then
`RequestIDMiddleware` and the routes. -/
def behindAuth (s : Settings) (route : Route) : App :=
  if s.rateLimitEnabled then
    fun r => RateLimitMiddleware.dispatch { defaultLimit := s.defaultLimit } r fun r' =>
      RequestIDMiddleware.dispatch r' (callRoute route)
  else fun r => RequestIDMiddleware.dispatch r (callRoute route)

/-- **The order Starlette runs them in**: tenancy outermost, then authentication, then the rest. -/
theorem createApp_eq (s : Settings) (decodeJwt : String → Except String AuthMiddleware.JwtPayload)
    (route : Route) :
    createApp s decodeJwt route = Starlette.serverErrorMiddleware s.debug fun r =>
      TenancyMiddleware.dispatch r fun r' =>
        AuthMiddleware.dispatch s.apiKeyHeader decodeJwt r' (behindAuth s route) := by
  unfold createApp userMiddleware behindAuth
  split <;> rfl

/-- A request as the server hands it in, with the clock reading and `id(key)` it is served with,
and whether Redis answers meanwhile. -/
structure Arrival where
  method : String
  path : String
  headers : List (String × String)
  now : Int
  keyId : Nat
  redisUp : Bool
  deriving DecidableEq, Repr

/-- The request, with a `request.state` nothing has set yet. -/
def Arrival.request (a : Arrival) : Request := ⟨a.method, a.path, a.headers, {}⟩

/-- The state as the arrival finds it. -/
def Arrival.enter (a : Arrival) (env : Env) : Env :=
  { env with now := a.now, keyId := a.keyId, redisUp := a.redisUp }

/-- One request served. -/
def serve (app : App) (a : Arrival) : M Response := fun env => app a.request (a.enter env)

/-- Requests served one after the other. -/
def serveAll (app : App) : List Arrival → M (List Response)
  | [] => pure []
  | a :: as => do
    let r ← serve app a
    let rs ← serveAll app as
    pure (r :: rs)

/-! ## What a route is handed -/

/-- What a route is handed while `req` is served. -/
structure Handed (req r : Request) : Prop where
  method : r.method = req.method
  path : r.path = req.path
  headers : r.headers = req.headers
  noContext : r.state.tenantContext = none
  traced : ∃ rid, r.state.requestId = some rid ∧ r.state.correlationId = some rid
  unauthenticated : AuthMiddleware.exempt req.path = true →
    r.state.authenticated = none ∧ r.state.userId = none ∧ r.state.tenantId = none
  authenticated : AuthMiddleware.exempt req.path = false →
    r.state.authenticated = some true ∧ (∃ u, r.state.userId = some u) ∧ ∃ t, r.state.tenantId = some t

section Stack

variable {req : Request} (hreq : req.state = {})
include hreq

theorem handed_exempt (he : AuthMiddleware.exempt req.path = true) (rid : String) :
    Handed req (RequestIDMiddleware.withRequestId req rid) where
  method := rfl
  path := rfl
  headers := rfl
  noContext := by simp [RequestIDMiddleware.withRequestId, hreq]
  traced := ⟨rid, rfl, rfl⟩
  unauthenticated _ := by simp [RequestIDMiddleware.withRequestId, hreq]
  authenticated h := nomatch he.symm.trans h

theorem handed_authenticated (he : AuthMiddleware.exempt req.path = false) (u t : Nat)
    (rid : String) :
    Handed req (RequestIDMiddleware.withRequestId (AuthMiddleware.authenticated req u t) rid) where
  method := rfl
  path := rfl
  headers := rfl
  noContext := by simp [RequestIDMiddleware.withRequestId, AuthMiddleware.authenticated, hreq]
  traced := ⟨rid, rfl, rfl⟩
  unauthenticated h := nomatch he.symm.trans h
  authenticated _ := ⟨rfl, ⟨u, rfl⟩, ⟨t, rfl⟩⟩

/-- **The stack keeps any drift its primitives and routes keep**: serving `req`, the state moves
along `D` if `uuid4()`, the limiter's check and the route, for each request the route may be
handed, do. -/
theorem moves_createApp {D : Drift} (hu : Moves D uuid4)
    (hk : ∀ cfg key, Moves D (RateLimitMiddleware.checkRateLimitAt cfg key))
    {s : Settings} {decodeJwt : String → Except String AuthMiddleware.JwtPayload} {route : Route}
    (hroute : ∀ r, Handed req r → Moves D (callRoute route r)) :
    Moves D (createApp s decodeJwt route req) := by
  have hinner : ∀ r, (∀ rid, Handed req (RequestIDMiddleware.withRequestId r rid)) →
      Moves D (behindAuth s route r) := fun r h => by
    have hid := RequestIDMiddleware.moves_dispatch hu fun rid => hroute _ (h rid)
    unfold behindAuth
    split
    · exact RateLimitMiddleware.moves_dispatch (fun _ _ => hk _ _) hid
    · exact hid
  rw [createApp_eq]
  refine Starlette.moves_serverErrorMiddleware (TenancyMiddleware.moves_dispatch (fun _ =>
    AuthMiddleware.moves_dispatch hu (fun he => hinner _ (handed_exempt hreq he))
      fun he u t => hinner _ (handed_authenticated hreq he u t)) ?_)
  intro t ha _
  simp [hreq] at ha

end Stack

/-! ## Over a run -/

section Run

variable {D : Drift}

theorem moves_serve {app : App} {a : Arrival} (harr : ∀ env, D.rel env (a.enter env))
    (h : Moves D (app a.request)) : Moves D (serve app a) :=
  fun env => D.trans (harr env) (h _)

theorem moves_serveAll {app : App} (harr : ∀ env (a : Arrival), D.rel env (a.enter env))
    (h : ∀ a : Arrival, Moves D (app a.request)) : ∀ as, Moves D (serveAll app as)
  | [] => moves_pure _
  | a :: as => moves_bind (moves_serve (harr · a) (h a)) fun _ =>
      moves_bind (moves_serveAll harr h as) fun _ => moves_pure _

/-- A run whose every request keeps the drift. -/
theorem moves_serveAll_of_mem {app : App} (harr : ∀ env (a : Arrival), D.rel env (a.enter env)) :
    ∀ {as : List Arrival}, (∀ a ∈ as, Moves D (app a.request)) → Moves D (serveAll app as)
  | [], _ => moves_pure _
  | a :: _, h => moves_bind (moves_serve (harr · a) (h a (List.mem_cons_self _ _))) fun _ =>
      moves_bind (moves_serveAll_of_mem harr fun b hb => h b (List.mem_cons_of_mem _ hb)) fun _ =>
        moves_pure _

end Run

/-- The routes are handed, besides what they had, only requests satisfying `Q`. -/
def routeDrift (Q : Request → Prop) : Drift where
  rel a b := ∃ handed, b.routeCalls = a.routeCalls ++ handed ∧ ∀ r ∈ handed, Q r
  refl _ := ⟨[], (List.append_nil _).symm, fun _ h => absurd h (List.not_mem_nil _)⟩
  trans := fun ⟨n₁, h₁, q₁⟩ ⟨n₂, h₂, q₂⟩ =>
    ⟨n₁ ++ n₂, by rw [h₂, h₁, List.append_assoc],
      fun r hr => (List.mem_append.1 hr).elim (q₁ r) (q₂ r)⟩

/-- A route call adds the request to those handed, and leaves the database the route leaves. -/
theorem callRoute_state (route : Route) (r : Request) (env : Env) :
    resultState (callRoute route r env) = { env with
      routeCalls := env.routeCalls ++ [r], db := (route r ⟨env.routeCalls.length, env.now, env.db⟩).2 } := by
  unfold callRoute
  dsimp only
  split <;> rfl

/-- Whatever hands the routes only requests satisfying `P` hands them only requests satisfying
anything `P` implies. -/
theorem Moves.routeDrift_mono {P Q : Request → Prop} (hPQ : ∀ r, P r → Q r) {α : Type} {x : M α}
    (h : Moves (routeDrift P) x) : Moves (routeDrift Q) x := fun env =>
  let ⟨n, hn, hp⟩ := h env
  ⟨n, hn, fun r hr => hPQ r (hp r hr)⟩

section RouteDrift

variable {Q : Request → Prop}

theorem routeDrift_uuid4 : Moves (routeDrift Q) uuid4 := (routeDrift Q).refl

theorem routeDrift_checkRateLimitAt (cfg : RateLimitMiddleware.Config) (key : String) :
    Moves (routeDrift Q) (RateLimitMiddleware.checkRateLimitAt cfg key) := fun env => by
  obtain ⟨ans, store, h⟩ := RateLimitMiddleware.checkRateLimitAt_apply cfg key env
  rw [h]
  exact (routeDrift Q).refl env

theorem routeDrift_callRoute {route : Route} {r : Request} (h : Q r) :
    Moves (routeDrift Q) (callRoute route r) := fun env => by
  rw [callRoute_state]
  exact ⟨[r], rfl, fun r' hr => List.mem_singleton.1 hr ▸ h⟩

theorem routeDrift_enter (env : Env) (a : Arrival) : (routeDrift Q).rel env (a.enter env) :=
  (routeDrift Q).refl env

theorem routeCalls_of_routeDrift_false {a b : Env} (h : (routeDrift fun _ => False).rel a b) :
    b.routeCalls = a.routeCalls := by
  obtain ⟨n, hn, hf⟩ := h
  rw [hn, List.eq_nil_iff_forall_not_mem.2 hf, List.append_nil]

/-- Authentication hands the routes nothing. -/
theorem authenticateRequest_routeCalls (apiKeyHeader : String)
    (decodeJwt : String → Except String AuthMiddleware.JwtPayload) (req : Request) (env : Env) :
    (resultState (AuthMiddleware.authenticateRequest apiKeyHeader decodeJwt req env)).routeCalls =
      env.routeCalls :=
  routeCalls_of_routeDrift_false
    (AuthMiddleware.moves_authenticateRequest routeDrift_uuid4 apiKeyHeader decodeJwt req env)

/-- Over a run, every request a route is handed satisfies whatever `Handed` implies. -/
theorem serveAll_handed (hQ : ∀ req r, req.state = {} → Handed req r → Q r) (s : Settings)
    (decodeJwt : String → Except String AuthMiddleware.JwtPayload) (route : Route)
    (arrivals : List Arrival) (env : Env) :
    (routeDrift Q).rel env (resultState (serveAll (createApp s decodeJwt route) arrivals env)) :=
  moves_serveAll routeDrift_enter
    (fun _ => moves_createApp rfl routeDrift_uuid4 (fun _ _ => routeDrift_checkRateLimitAt _ _)
      fun r h => routeDrift_callRoute (hQ _ r rfl h)) arrivals env

end RouteDrift

/-- **No route ever gets a tenant context.** `TenancyMiddleware` is the outermost layer, so it
looks at `request.state` before `AuthMiddleware` has set `authenticated` and always passes the
request on untouched: over every run, `get_tenant_context` raises for every request any route is
handed. -/
theorem routes_never_get_tenant_context (s : Settings)
    (decodeJwt : String → Except String AuthMiddleware.JwtPayload) (route : Route)
    (arrivals : List Arrival) (env : Env) :
    ∃ handed, (resultState (serveAll (createApp s decodeJwt route) arrivals env)).routeCalls =
        env.routeCalls ++ handed ∧
      ∀ r ∈ handed, TenancyMiddleware.getTenantContext r = .error (.error "Tenant context not available") :=
  serveAll_handed (fun _ r _ h => by rw [TenancyMiddleware.getTenantContext, h.noContext])
    s decodeJwt route arrivals env

/-- **Authenticated exactly off the exempt paths.** Over every run, `get_current_tenant` answers
for a request a route is handed exactly when its path neither starts with one of the
`PUBLIC_PATHS` nor contains `/webhooks`; on those paths it raises the 401. -/
theorem routes_get_tenant_iff_not_exempt (s : Settings)
    (decodeJwt : String → Except String AuthMiddleware.JwtPayload) (route : Route)
    (arrivals : List Arrival) (env : Env) :
    ∃ handed, (resultState (serveAll (createApp s decodeJwt route) arrivals env)).routeCalls =
        env.routeCalls ++ handed ∧
      ∀ r ∈ handed, (∃ t, AuthMiddleware.getCurrentTenant r = .ok t) ↔
        AuthMiddleware.exempt r.path = false := by
  refine serveAll_handed (fun req r _ h => ?_) s decodeJwt route arrivals env
  rw [h.path]
  cases he : AuthMiddleware.exempt req.path
  · obtain ⟨ha, -, t, ht⟩ := h.authenticated he
    exact iff_of_true ⟨t, by rw [AuthMiddleware.getCurrentTenant, ha, ht]⟩ rfl
  · obtain ⟨ha, -, -⟩ := h.unauthenticated he
    refine iff_of_false (fun ⟨t, ht⟩ => ?_) (by decide)
    rw [AuthMiddleware.getCurrentTenant, ha] at ht
    cases ht

/-! ## Which answers carry a request id -/

/-- Serving `req`, `app` only adds route calls. -/
def Grows (app : App) (req : Request) : Prop := Moves (routeDrift fun _ => True) (app req)

/-- Serving `req`, an answer `app` gives without any route call carries no `X-Request-ID`. -/
def UntracedWithoutRoute (app : App) (req : Request) : Prop :=
  ∀ env r env', app req env = .ok r env' → env'.routeCalls = env.routeCalls →
    r.headers.lookup "x-request-id" = none

theorem lookup_eq_none_of_not_mem {β : Type} {hs : List (String × β)} {k : String}
    (h : k ∉ hs.map Prod.fst) : hs.lookup k = none := by
  induction hs with
  | nil => rfl
  | cons p hs ih =>
    rw [List.map_cons, List.mem_cons, not_or] at h
    rw [List.lookup_cons, beq_false_of_ne h.1, ih h.2]

/-- The routes' calls between two states whose ends agree agree too. -/
theorem routeCalls_eq_of_between {Q Q' : Request → Prop} {a b c : Env}
    (h₁ : (routeDrift Q).rel a b) (h₂ : (routeDrift Q').rel b c) (h : c.routeCalls = a.routeCalls) :
    b.routeCalls = a.routeCalls := by
  obtain ⟨n₁, e₁, -⟩ := h₁
  obtain ⟨n₂, e₂, -⟩ := h₂
  have hl : (a.routeCalls ++ n₁ ++ n₂).length = a.routeCalls.length := by rw [← e₁, ← e₂, h]
  simp only [List.length_append] at hl
  rw [e₁, List.eq_nil_of_length_eq_zero (by omega : n₁.length = 0), List.append_nil]

section Untraced

variable {route : Route}

theorem exceptResponse_untraced (e : Raised) :
    (AuthMiddleware.exceptResponse e).headers.lookup "x-request-id" = none := by
  cases e <;> rfl

/-- Past `RequestIDMiddleware`, every answer comes from a route call. -/
theorem untraced_requestId (req : Request) :
    UntracedWithoutRoute (fun r => RequestIDMiddleware.dispatch r (callRoute route)) req := by
  intro env r env' h hc
  obtain ⟨rid, n, hd⟩ := RequestIDMiddleware.dispatch_callRoute route req env
  dsimp only at h
  rw [hd] at h
  dsimp only at h
  split at h
  · cases h
    exact absurd (congrArg List.length hc) (by simp)
  · cases h

theorem untraced_rateLimit {cfg : RateLimitMiddleware.Config} {inner : App} {req : Request}
    (hg : Grows inner req) (hu : UntracedWithoutRoute inner req) :
    UntracedWithoutRoute (fun r => RateLimitMiddleware.dispatch cfg r inner) req := by
  intro env r env' h hc
  dsimp only at h
  rw [RateLimitMiddleware.dispatch_apply] at h
  cases ha : req.state.authenticated with
  | none => rw [ha] at h; exact hu env r env' h hc
  | some b =>
  cases ht : req.state.tenantId with
  | none => rw [ha, ht] at h; cases h
  | some t =>
    rw [ha, ht] at h
    dsimp only at h
    obtain ⟨⟨allowed, remaining, resetTime⟩, store, hk⟩ :=
      RateLimitMiddleware.checkRateLimitAt_apply cfg
        (RateLimitMiddleware.rateLimitKey t (RateLimitMiddleware.getEndpointKey req)) env
    rw [hk] at h
    dsimp only at h
    cases allowed
    · cases h
      refine lookup_eq_none_of_not_mem ?_
      simp only [RateLimitMiddleware.rateLimitResponse, jsonResponse, List.map]
      decide
    · rw [if_pos rfl] at h
      split at h
      · rename_i r₀ env₂ h₀
        cases h
        rw [RateLimitMiddleware.withRateHeaders, lookup_setHeader_of_ne (by decide),
          lookup_setHeader_of_ne (by decide), lookup_setHeader_of_ne (by decide)]
        exact hu _ r₀ env' h₀ hc
      · rename_i e env₂ h₀
        have h₁ := hg { env with store := store }
        rw [h₀] at h₁
        have h₂ := hg env₂
        rw [h] at h₂
        exact hu env₂ r env' h (hc.trans (routeCalls_eq_of_between h₁ h₂ hc).symm)

theorem untraced_auth {apiKeyHeader : String}
    {decodeJwt : String → Except String AuthMiddleware.JwtPayload} {inner : App}
    (hu : ∀ r, UntracedWithoutRoute inner r) (req : Request) :
    UntracedWithoutRoute (fun r => AuthMiddleware.dispatch apiKeyHeader decodeJwt r inner) req := by
  intro env r env' h hc
  dsimp only at h
  rw [AuthMiddleware.dispatch_apply] at h
  split at h
  · exact hu req env r env' h hc
  · have ha := authenticateRequest_routeCalls apiKeyHeader decodeJwt req env
    split at h
    · rename_i u t env₁ h₁
      rw [h₁] at ha
      have hn' : env₁.routeCalls = env.routeCalls := ha
      split at h
      · cases h; exact hu _ _ r env' ‹_› (hc.trans hn'.symm)
      · cases h; exact exceptResponse_untraced _
    · cases h; exact exceptResponse_untraced _

theorem untraced_tenancy {inner : App} (hu : ∀ r, UntracedWithoutRoute inner r) (req : Request) :
    UntracedWithoutRoute (fun r => TenancyMiddleware.dispatch r inner) req := by
  intro env r env' h hc
  dsimp only at h
  rw [TenancyMiddleware.dispatch_apply] at h
  split at h
  · exact hu req env r env' h hc
  · cases h; rfl
  · split at h
    · cases h
      rw [lookup_setHeader_of_ne (by decide)]
      exact hu _ env _ env' ‹_› hc
    · cases h

theorem untraced_serverError {debug : Bool} {app : App} {req : Request}
    (hu : UntracedWithoutRoute app req) :
    UntracedWithoutRoute (Starlette.serverErrorMiddleware debug app) req := by
  intro env r env' h hc
  unfold Starlette.serverErrorMiddleware at h
  rw [tryCatch_apply] at h
  split at h
  · cases h; exact hu env r env' ‹_› hc
  · cases h; rfl

theorem grows_requestId (req : Request) :
    Grows (fun r => RequestIDMiddleware.dispatch r (callRoute route)) req :=
  RequestIDMiddleware.moves_dispatch routeDrift_uuid4 fun _ => routeDrift_callRoute trivial

theorem untraced_createApp (s : Settings)
    (decodeJwt : String → Except String AuthMiddleware.JwtPayload) (req : Request) :
    UntracedWithoutRoute (createApp s decodeJwt route) req := by
  rw [createApp_eq]
  refine untraced_serverError (untraced_tenancy (untraced_auth fun r => ?_) req)
  unfold behindAuth
  split
  · exact untraced_rateLimit (grows_requestId r) (untraced_requestId r)
  · exact untraced_requestId r

end Untraced

/-- **A request id only after a route call.** `create_app` adds `RequestIDMiddleware` first "for
tracing all requests", which makes it the innermost: an answer given without handing any route
the request — authentication's 401, the limiter's 429, the 500 of a failing stack — carries no
`X-Request-ID`. -/
theorem request_id_only_after_route (s : Settings)
    (decodeJwt : String → Except String AuthMiddleware.JwtPayload) (route : Route) (a : Arrival)
    (env : Env) (r : Response) (env' : Env)
    (h : serve (createApp s decodeJwt route) a env = .ok r env')
    (hc : env'.routeCalls = env.routeCalls) :
    r.headers.lookup "x-request-id" = none :=
  untraced_createApp s decodeJwt a.request (a.enter env) r env' h hc

theorem request_id_only_after_route_no_credentials :
    let app := createApp {} (fun _ => .error "Signature verification failed")
      (fun _ c => (.ok ⟨200, [], []⟩, c.db))
    let a : Arrival := ⟨"GET", "/api/v1/campaigns", [], 0, 0, true⟩
    let env : Env := ⟨[], true, 0, 0, 0, [], ⟨[], .nil, [], .nil⟩⟩
    serve app a env = .ok (jsonResponse 401 [("error", .str "No authentication credentials provided")] []) env ∧
      env.routeCalls = env.routeCalls ∧
      (jsonResponse 401 [("error", .str "No authentication credentials provided")] []).headers.lookup
        "x-request-id" = none := by
  intro app a env
  have h : serve app a env =
      .ok (jsonResponse 401 [("error", .str "No authentication credentials provided")] []) env := rfl
  exact ⟨h, rfl, request_id_only_after_route _ _ _ _ _ _ _ h rfl⟩

/-! ## How often a route runs -/

/-- Serving `req`, `app` hands the routes at most `k` requests. -/
def AtMost (k : Nat) (app : App) (req : Request) : Prop :=
  ∀ env, ∃ handed, (resultState (app req env)).routeCalls = env.routeCalls ++ handed ∧
    handed.length ≤ k

section AtMost

variable {route : Route}

/-- `RequestIDMiddleware` hands the route exactly the request it was given, with its id. -/
theorem requestId_routeCalls (route : Route) (req : Request) (env : Env) :
    ∃ rid, (resultState (RequestIDMiddleware.dispatch req (callRoute route) env)).routeCalls =
      env.routeCalls ++ [RequestIDMiddleware.withRequestId req rid] := by
  obtain ⟨rid, n, hd⟩ := RequestIDMiddleware.dispatch_callRoute route req env
  refine ⟨rid, ?_⟩
  rw [hd]
  dsimp only
  split <;> rfl

theorem atMost_requestId (req : Request) :
    AtMost 1 (fun r => RequestIDMiddleware.dispatch r (callRoute route)) req := fun env =>
  let ⟨rid, h⟩ := requestId_routeCalls route req env
  ⟨[RequestIDMiddleware.withRequestId req rid], h, le_refl _⟩

/-- The limiter hands on at most twice what the layer inside it does: once more after that layer
raised. -/
theorem atMost_rateLimit {cfg : RateLimitMiddleware.Config} {inner : App} {req : Request} {k : Nat}
    (h : AtMost k inner req) :
    AtMost (k + k) (fun r => RateLimitMiddleware.dispatch cfg r inner) req := by
  intro env
  dsimp only
  rw [RateLimitMiddleware.dispatch_apply]
  cases req.state.authenticated with
  | none => obtain ⟨n, hn, hl⟩ := h env; exact ⟨n, hn, by omega⟩
  | some b =>
  cases req.state.tenantId with
  | none => exact ⟨[], (List.append_nil _).symm, Nat.zero_le _⟩
  | some t =>
    dsimp only
    obtain ⟨⟨allowed, remaining, resetTime⟩, store, hk⟩ :=
      RateLimitMiddleware.checkRateLimitAt_apply cfg
        (RateLimitMiddleware.rateLimitKey t (RateLimitMiddleware.getEndpointKey req)) env
    rw [hk]
    dsimp only
    cases allowed
    · exact ⟨[], (List.append_nil _).symm, Nat.zero_le _⟩
    · rw [if_pos rfl]
      obtain ⟨n₁, h₁, l₁⟩ := h { env with store := store }
      split
      · rename_i r env₂ hx
        rw [hx] at h₁
        exact ⟨n₁, h₁, by omega⟩
      · rename_i e env₂ hx
        rw [hx] at h₁
        obtain ⟨n₂, h₂, l₂⟩ := h env₂
        refine ⟨n₁ ++ n₂, ?_, by rw [List.length_append]; omega⟩
        rw [h₂, show env₂.routeCalls = env.routeCalls ++ n₁ from h₁, List.append_assoc]

theorem atMost_auth {apiKeyHeader : String}
    {decodeJwt : String → Except String AuthMiddleware.JwtPayload} {inner : App} {k : Nat}
    (h : ∀ r, AtMost k inner r) (req : Request) :
    AtMost k (fun r => AuthMiddleware.dispatch apiKeyHeader decodeJwt r inner) req := by
  intro env
  dsimp only
  rw [AuthMiddleware.dispatch_apply]
  split
  · exact h req env
  · have ha := authenticateRequest_routeCalls apiKeyHeader decodeJwt req env
    split
    · rename_i u t env₁ h₁
      rw [h₁] at ha
      obtain ⟨n, hn, hl⟩ := h (AuthMiddleware.authenticated req u t) env₁
      refine ⟨n, ?_, hl⟩
      rw [← show env₁.routeCalls = env.routeCalls from ha]
      split <;> (rename_i h₂; rw [h₂] at hn; exact hn)
    · rename_i e env₁ h₁
      rw [h₁] at ha
      exact ⟨[], by rw [List.append_nil]; exact ha, Nat.zero_le _⟩

theorem atMost_tenancy {inner : App} {k : Nat} (h : ∀ r, AtMost k inner r) (req : Request) :
    AtMost k (fun r => TenancyMiddleware.dispatch r inner) req := by
  intro env
  dsimp only
  rw [TenancyMiddleware.dispatch_apply]
  split
  · exact h req env
  · exact ⟨[], (List.append_nil _).symm, Nat.zero_le _⟩
  · rename_i t _ _
    obtain ⟨n, hn, hl⟩ := h (TenancyMiddleware.withContext req t) env
    refine ⟨n, ?_, hl⟩
    split <;> (rename_i h₂; rw [h₂] at hn; exact hn)

theorem atMost_serverError {debug : Bool} {app : App} {req : Request} {k : Nat}
    (h : AtMost k app req) : AtMost k (Starlette.serverErrorMiddleware debug app) req := by
  intro env
  obtain ⟨n, hn, hl⟩ := h env
  refine ⟨n, ?_, hl⟩
  unfold Starlette.serverErrorMiddleware
  rw [tryCatch_apply]
  split <;> (rename_i h₂; rw [h₂] at hn; exact hn)

end AtMost

/-- **A route runs at most twice per request, twice only through the limiter.** Serving one
request hands the routes at most two requests, and at most one when rate limiting is disabled:
the second is the limiter's fail-open `except`, which also catches what the layers inside it
raise and calls `call_next` again. -/
theorem route_called_at_most_twice (s : Settings)
    (decodeJwt : String → Except String AuthMiddleware.JwtPayload) (route : Route) (a : Arrival)
    (env : Env) :
    ∃ handed, (resultState (serve (createApp s decodeJwt route) a env)).routeCalls =
        env.routeCalls ++ handed ∧
      handed.length ≤ if s.rateLimitEnabled then 2 else 1 := by
  have hb : ∀ r, AtMost (if s.rateLimitEnabled then 2 else 1) (behindAuth s route) r := fun r => by
    unfold behindAuth
    split
    · exact atMost_rateLimit (atMost_requestId r)
    · exact atMost_requestId r
  rw [createApp_eq]
  exact atMost_serverError (atMost_tenancy (atMost_auth hb) a.request) (a.enter env)


/-! ## Which status codes the answers carry -/

/-- What a request's processing ends in, without the state. -/
def outcome {α : Type} : EStateM.Result Raised Env α → Except Raised α
  | .ok a _ => .ok a
  | .error e _ => .error e

/-- The status code of an answer, or of an `HTTPException` on its way up, satisfies `P`; any
other exception carries none. -/
def CodeIn (P : Nat → Prop) : Except Raised Response → Prop
  | .ok r => P r.statusCode
  | .error (.httpException code _) => P code
  | .error (.error _) => True

/-- Whatever `app` answers or raises for a request of method `m` on path `p` carries a status
code in `P`. -/
def CodesIn (P : Nat → Prop) (m p : String) (app : App) : Prop :=
  ∀ r env, r.method = m → r.path = p → CodeIn P (outcome (app r env))

/-- `x` raises only exceptions that satisfy `Q`. -/
def RaisesIn (Q : Raised → Prop) {α : Type} (x : M α) : Prop :=
  ∀ env e env', x env = .error e env' → Q e

theorem CodeIn.mono {P P' : Nat → Prop} (hP : ∀ n, P n → P' n) :
    ∀ {o : Except Raised Response}, CodeIn P o → CodeIn P' o
  | .ok _, h => hP _ h
  | .error (.httpException _ _), h => hP _ h
  | .error (.error _), _ => trivial

section Raises

variable {Q : Raised → Prop} {α β : Type}

theorem raisesIn_pure (a : α) : RaisesIn Q (pure a : M α) := fun _ _ _ h => nomatch h

theorem raisesIn_throw {e : Raised} (h : Q e) : RaisesIn Q (throw e : M α) :=
  fun _ _ _ h' => by cases h'; exact h

theorem raisesIn_uuid4 : RaisesIn Q uuid4 := fun _ _ _ h => nomatch h

theorem raisesIn_bind {x : M α} {f : α → M β} (hx : RaisesIn Q x) (hf : ∀ a, RaisesIn Q (f a)) :
    RaisesIn Q (x >>= f) := by
  intro env e env' h
  rw [bind_apply] at h
  rcases hxe : x env with ⟨a, env₁⟩ | ⟨e₁, env₁⟩ <;> rw [hxe] at h
  · exact hf a env₁ e env' h
  · cases h; exact hx env _ _ hxe

theorem raisesIn_get_bind {f : Env → M α} (hf : ∀ env, RaisesIn Q (f env)) :
    RaisesIn Q (get >>= f) := fun env => hf env env

end Raises

/-- An exception of authentication is a 401 or no `HTTPException`. -/
abbrev AuthRaised (e : Raised) : Prop := CodeIn (· = 401) (.error e)

theorem raisesIn_claimUuid (c : Option AuthMiddleware.Claim) :
    RaisesIn AuthRaised (AuthMiddleware.claimUuid c) := by
  unfold AuthMiddleware.claimUuid
  split
  · split
    · exact raisesIn_pure _
    · exact raisesIn_throw rfl
  · exact raisesIn_throw trivial
  · exact raisesIn_throw trivial

theorem raisesIn_authenticateRequest (apiKeyHeader : String)
    (decodeJwt : String → Except String AuthMiddleware.JwtPayload) (req : Request) :
    RaisesIn AuthRaised (AuthMiddleware.authenticateRequest apiKeyHeader decodeJwt req) := by
  have hjwt : ∀ token, RaisesIn AuthRaised (AuthMiddleware.authenticateJwt decodeJwt token) := by
    intro token
    unfold AuthMiddleware.authenticateJwt
    split
    · exact raisesIn_throw rfl
    · refine raisesIn_bind (raisesIn_claimUuid _) fun _ => raisesIn_bind (raisesIn_claimUuid _)
        fun _ => raisesIn_get_bind fun _ => ?_
      split
      · split
        · exact raisesIn_throw rfl
        · exact raisesIn_pure _
      · exact raisesIn_pure _
  unfold AuthMiddleware.authenticateRequest AuthMiddleware.authenticateApiKey
  split
  · split
    · exact raisesIn_throw rfl
    · exact raisesIn_bind raisesIn_uuid4 fun _ => raisesIn_bind raisesIn_uuid4 fun _ => raisesIn_pure _
  · split
    · split
      · exact hjwt _
      · exact raisesIn_throw rfl
    · exact raisesIn_throw rfl

section Codes

variable {P : Nat → Prop} {m p : String}

theorem codeIn_exceptResponse (h500 : P 500) {e : Raised} (h : CodeIn P (.error e)) :
    CodeIn P (.ok (AuthMiddleware.exceptResponse e)) := by
  cases e
  · exact h
  · exact h500

/-- `RequestIDMiddleware` answers with the route's status and passes on what it raises. -/
theorem codesIn_requestId {route : Route}
    (hroute : ∀ r c, r.method = m → r.path = p → CodeIn P (route r c).1) :
    CodesIn P m p fun r => RequestIDMiddleware.dispatch r (callRoute route) := by
  intro r env hm hp
  obtain ⟨rid, n, hd⟩ := RequestIDMiddleware.dispatch_callRoute route r env
  have h := hroute (RequestIDMiddleware.withRequestId r rid) ⟨env.routeCalls.length, env.now, env.db⟩
    hm hp
  dsimp only at hd ⊢
  rw [hd]
  revert h
  generalize route _ _ = out
  obtain ⟨o | resp, db⟩ := out <;> exact id

theorem codesIn_rateLimit (h429 : P 429) {cfg : RateLimitMiddleware.Config} {inner : App}
    (h : CodesIn P m p inner) :
    CodesIn P m p fun r => RateLimitMiddleware.dispatch cfg r inner := by
  intro r env hm hp
  dsimp only
  rw [RateLimitMiddleware.dispatch_apply]
  split
  · exact h r env hm hp
  · trivial
  · rename_i t _ _
    obtain ⟨⟨allowed, remaining, resetTime⟩, store, hk⟩ :=
      RateLimitMiddleware.checkRateLimitAt_apply cfg
        (RateLimitMiddleware.rateLimitKey t (RateLimitMiddleware.getEndpointKey r)) env
    rw [hk]
    dsimp only
    cases allowed
    · exact h429
    · rw [if_pos rfl]
      have hi := h r { env with store := store } hm hp
      split
      · next resp env₂ hx => rw [hx] at hi; exact hi
      · next env₂ _ => exact h r env₂ hm hp

theorem codesIn_auth (h401 : P 401) (h500 : P 500) {apiKeyHeader : String}
    {decodeJwt : String → Except String AuthMiddleware.JwtPayload} {inner : App}
    (h : CodesIn P m p inner) :
    CodesIn P m p fun r => AuthMiddleware.dispatch apiKeyHeader decodeJwt r inner := by
  intro r env hm hp
  dsimp only
  rw [AuthMiddleware.dispatch_apply]
  split
  · exact h r env hm hp
  · split
    · next u t env₁ _ =>
      have hi := h (AuthMiddleware.authenticated r u t) env₁ hm hp
      split
      · next resp env₂ hx => rw [hx] at hi; exact hi
      · next e env₂ hx => rw [hx] at hi; exact codeIn_exceptResponse h500 hi
    · next e env₁ ha =>
      exact codeIn_exceptResponse h500
        (CodeIn.mono (fun _ hn => hn ▸ h401) (raisesIn_authenticateRequest _ _ r env e env₁ ha))

theorem codesIn_tenancy (h500 : P 500) {inner : App} (h : CodesIn P m p inner) :
    CodesIn P m p fun r => TenancyMiddleware.dispatch r inner := by
  intro r env hm hp
  dsimp only
  rw [TenancyMiddleware.dispatch_apply]
  split
  · exact h r env hm hp
  · exact h500
  · next t _ _ =>
    have hi := h (TenancyMiddleware.withContext r t) env hm hp
    split
    · next resp env' hx => rw [hx] at hi; exact hi
    · next e env' hx => rw [hx] at hi; exact hi

theorem codesIn_serverError (h500 : P 500) {debug : Bool} {app : App} (h : CodesIn P m p app) :
    CodesIn P m p (Starlette.serverErrorMiddleware debug app) := by
  intro r env hm hp
  have hi := h r env hm hp
  unfold Starlette.serverErrorMiddleware
  rw [tryCatch_apply]
  split
  · next resp env' hx => rw [hx] at hi; exact hi
  · exact h500

theorem codesIn_createApp (h401 : P 401) (h429 : P 429) (h500 : P 500) {s : Settings}
    {decodeJwt : String → Except String AuthMiddleware.JwtPayload} {route : Route}
    (hroute : ∀ r c, r.method = m → r.path = p → CodeIn P (route r c).1) :
    CodesIn P m p (createApp s decodeJwt route) := by
  rw [createApp_eq]
  refine codesIn_serverError h500 (codesIn_tenancy h500 (codesIn_auth h401 h500 ?_))
  unfold behindAuth
  split
  · exact codesIn_rateLimit h429 (codesIn_requestId hroute)
  · exact codesIn_requestId hroute

end Codes

/-- **The stack adds only 401, 429 and 500.** Whatever the routes are, every answer the
application gives a request has the status code of an answer or an `HTTPException` of the route
for a request of that method and path, or is authentication's 401, the limiter's 429, or a 500:
tenancy's missing context, or an exception that no layer turned into an answer. -/
theorem answer_codes_of_route (s : Settings)
    (decodeJwt : String → Except String AuthMiddleware.JwtPayload) (route : Route) (a : Arrival)
    (P : Nat → Prop) (h401 : P 401) (h429 : P 429) (h500 : P 500)
    (hroute : ∀ r c, r.method = a.method → r.path = a.path → CodeIn P (route r c).1)
    (env : Env) (resp : Response) (env' : Env)
    (h : serve (createApp s decodeJwt route) a env = .ok resp env') :
    P resp.statusCode := by
  have hc := @codesIn_createApp P a.method a.path h401 h429 h500 s decodeJwt route hroute
    a.request (a.enter env) rfl rfl
  rw [show createApp s decodeJwt route a.request (a.enter env) = .ok resp env' from h] at hc
  exact hc

theorem answer_codes_of_route_refused :
    let route : Route := fun _ c => (.ok ⟨200, [], []⟩, c.db)
    let a : Arrival := ⟨"GET", "/api/v1/campaigns", [], 0, 0, true⟩
    let env : Env := ⟨[], true, 0, 0, 0, [], ⟨[], .nil, [], .nil⟩⟩
    let P : Nat → Prop := (· ∈ [200, 401, 429, 500])
    let resp := jsonResponse 401 [("error", .str "No authentication credentials provided")] []
    P 401 ∧ P 429 ∧ P 500 ∧ (∀ r c, r.method = a.method → r.path = a.path → CodeIn P (route r c).1) ∧
      serve (createApp {} (fun _ => .error "Signature verification failed") route) a env = .ok resp env ∧
      P resp.statusCode := by
  intro route a env P resp
  have hr : ∀ r c, r.method = a.method → r.path = a.path → CodeIn P (route r c).1 :=
    fun _ _ _ _ => List.mem_cons_self _ _
  have h : serve (createApp {} (fun _ => .error "Signature verification failed") route) a env =
      .ok resp env := rfl
  exact ⟨by decide, by decide, by decide, hr, h,
    answer_codes_of_route _ _ route a P (by decide) (by decide) (by decide) hr env resp env h⟩

end Api

end RcsMessaging
