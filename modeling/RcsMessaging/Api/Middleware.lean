import RcsMessaging.Api.Http
import RcsMessaging.Python.Uuid

/-!
# `Api.Middleware` — the four middlewares of `create_app`

Shallow embedding of `AuthMiddleware` (`api/middleware/auth.py`), `TenancyMiddleware`
(`tenancy.py`), `RateLimitMiddleware.dispatch` (`rate_limit.py`, over the limiter of
`Api.RateLimitMiddleware`) and `RequestIDMiddleware` (`request_id.py`), each a `Dispatch` over the
`Api.Http` state, with the dependencies the routes call (`get_current_tenant`,
`get_tenant_context`, `validate_tenant_access`).

Two library calls are parameters: `jwt.decode` (`decodeJwt`: the payload, or the text of the
`InvalidTokenError`), and the routes behind the stack. `uuid.UUID` and `str(UUID)` are
`Python.Uuid`.

For each middleware the file proves one evaluation lemma (`*.dispatch_apply`): what it answers in
terms of what `call_next` answers, which later proofs use instead of unfolding the monad; and one
`Moves` lemma: the state moves along a `Drift` if each primitive the middleware awaits and each
`call_next` it makes do. The theorems about the whole stack (`Api.App`) are assembled from these.
-/

namespace RcsMessaging

open Http

namespace AuthMiddleware

/-- `PUBLIC_PATHS`. -/
def publicPaths : List String := ["/health", "/ready", "/docs", "/redoc", "/openapi.json", "/metrics"]

/-- `_is_public_path(path)`: `any(path.startswith(public) for public in PUBLIC_PATHS)`. -/
def isPublicPath (path : String) : Bool := publicPaths.any fun p => p.toList.isPrefixOf path.toList

/-- The paths `dispatch` passes on without credentials: public, or with `/webhooks` in them. -/
def exempt (path : String) : Bool := isPublicPath path || PyStr.contains path.toList "/webhooks".toList

/-- `_authenticate_api_key(api_key)`: a key of 32 code points or more passes, as a new user of a
new tenant (`uuid4()` twice). -/
def authenticateApiKey (apiKey : String) : M (Nat × Nat) :=
  if apiKey.length < 32 then throw (.httpException 401 "Invalid API key")
  else do
    let userId ← uuid4
    let tenantId ← uuid4
    pure (userId, tenantId)

/-- A claim of a decoded token: a string, or any other JSON value. -/
inductive Claim
  | str (s : String)
  | other
  deriving DecidableEq, Repr

/-- The claims `_authenticate_jwt` reads from the payload `jwt.decode` returns. PyJWT rejects a
token whose `exp` is not a number, so a decoded `exp` is one. -/
structure JwtPayload where
  sub : Option Claim
  tenantId : Option Claim
  exp : Option Int
  deriving DecidableEq, Repr

/-- `UUID(payload.get(name))` inside `_authenticate_jwt`'s `try`: a string that is no UUID raises
`ValueError`, which the `except (KeyError, ValueError)` turns into a 401; `None` raises
`TypeError` and any other value `AttributeError`, which that `except` lets through. -/
def claimUuid : Option Claim → M Nat
  | some (.str s) =>
    match PyUuid.ofHex s with
    | some u => pure u
    | none => throw (.httpException 401 "Invalid token payload")
  | some .other => throw (.error "'int' object has no attribute 'replace'")
  | none => throw (.error "one of the hex, bytes, bytes_le, fields, or int arguments must be given")

/-- `_authenticate_jwt(token)`: `jwt.decode` is `decodeJwt`, and `datetime.utcnow()` the request's
clock. -/
def authenticateJwt (decodeJwt : String → Except String JwtPayload) (token : String) :
    M (Nat × Nat) :=
  match decodeJwt token with
  | .error e => throw (.httpException 401 ("Invalid token: " ++ e))
  | .ok payload => do
    let userId ← claimUuid payload.sub
    let tenantId ← claimUuid payload.tenantId
    let env ← get
    match payload.exp with
    | some exp =>
      if exp ≠ 0 ∧ env.now > exp then throw (.httpException 401 "Token has expired")
      else pure (userId, tenantId)
    | none => pure (userId, tenantId)

/-- `_authenticate_request(request)`: a non-empty API key header first, then an `Authorization`
header starting with `Bearer `, whose every `Bearer ` is removed (`str.replace`). -/
def authenticateRequest (apiKeyHeader : String) (decodeJwt : String → Except String JwtPayload)
    (req : Request) : M (Nat × Nat) :=
  match (headerGet req.headers apiKeyHeader).filter (· != "") with
  | some apiKey => authenticateApiKey apiKey
  | none =>
    match headerGet req.headers "Authorization" with
    | some auth =>
      if "Bearer ".toList.isPrefixOf auth.toList then
        authenticateJwt decodeJwt ⟨PyStr.replace auth.toList "Bearer ".toList []⟩
      else throw (.httpException 401 "No authentication credentials provided")
    | none => throw (.httpException 401 "No authentication credentials provided")

/-- The request `dispatch` passes on once `user_id`, `tenant_id` and `authenticated` are set. -/
def authenticated (req : Request) (userId tenantId : Nat) : Request :=
  { req with state := { req.state with userId := some userId, tenantId := some tenantId,
                                       authenticated := some true } }

/-- The answers of `dispatch`'s two `except` clauses. -/
def exceptResponse : Raised → Response
  | .httpException code detail => jsonResponse code [("error", .str detail)] []
  | .error _ => jsonResponse 500 [("error", .str "Internal server error")] []

/-- `AuthMiddleware.dispatch(request, call_next)`: the `try` covers `call_next` too, so an
exception from inside the stack is answered here. -/
def dispatch (apiKeyHeader : String) (decodeJwt : String → Except String JwtPayload) : Dispatch :=
  fun req callNext =>
    if isPublicPath req.path then callNext req
    else if PyStr.contains req.path.toList "/webhooks".toList then callNext req
    else
      tryCatch (do
          let (userId, tenantId) ← authenticateRequest apiKeyHeader decodeJwt req
          callNext (authenticated req userId tenantId))
        fun e => pure (exceptResponse e)

/-- `create_access_token(user_id, tenant_id, expires_delta)` at `now`, the settings'
`access_token_expire_minutes` given: `jwt.encode` is `encode`, and `expires_delta`, in seconds,
defaults to that many minutes. The `iat` claim, which `_authenticate_jwt` does not read, is left
out. -/
def createAccessToken (encode : JwtPayload → String) (accessTokenExpireMinutes now : Int)
    (userId tenantId : Nat) (expiresDelta : Option Int) : String :=
  let expire := now + expiresDelta.getD (60 * accessTokenExpireMinutes)
  encode ⟨some (.str (PyUuid.str userId)), some (.str (PyUuid.str tenantId)), some expire⟩

/-- `get_current_user(request)`. -/
def getCurrentUser (req : Request) : Except Raised Nat :=
  match req.state.authenticated, req.state.userId with
  | none, _ => .error (.httpException 401 "Not authenticated")
  | some _, some u => .ok u
  | some _, none => .error (.error "'State' object has no attribute 'user_id'")

/-- `get_current_tenant(request)`. -/
def getCurrentTenant (req : Request) : Except Raised Nat :=
  match req.state.authenticated, req.state.tenantId with
  | none, _ => .error (.httpException 401 "Not authenticated")
  | some _, some t => .ok t
  | some _, none => .error (.error "'State' object has no attribute 'tenant_id'")

end AuthMiddleware

namespace TenancyMiddleware

/-- `_error_response(message)`. -/
def errorResponse (message : String) : Response := jsonResponse 500 [("error", .str message)] []

/-- The request `dispatch` passes on with `tenant_context` set. -/
def withContext (req : Request) (tenantId : Nat) : Request :=
  { req with state := { req.state with tenantContext := some tenantId } }

/-- `TenancyMiddleware.dispatch(request, call_next)`. -/
def dispatch : Dispatch := fun req callNext =>
  match req.state.authenticated with
  | none => callNext req
  | some _ =>
    match req.state.tenantId with
    | none => pure (errorResponse "Internal error: Missing tenant context")
    | some tenantId => do
      let response ← callNext (withContext req tenantId)
      pure { response with headers := setHeader response.headers "X-Tenant-ID" (PyUuid.str tenantId) }

/-- `get_tenant_context(request)`. -/
def getTenantContext (req : Request) : Except Raised Nat :=
  match req.state.tenantContext with
  | some t => .ok t
  | none => .error (.error "Tenant context not available")

/-- `validate_tenant_access(request, resource_tenant_id)`. -/
def validateTenantAccess (req : Request) (resourceTenantId : Nat) : Except Raised Unit :=
  match req.state.tenantId with
  | none => .error (.httpException 403 "Tenant context not available")
  | some t => if t ≠ resourceTenantId then .error (.httpException 404 "Resource not found") else .ok ()

end TenancyMiddleware

namespace RequestIDMiddleware

/-- `_get_or_generate_request_id(request)`: the client's `X-Request-ID` if it is non-empty and
reads as a UUID, else `str(uuid4())`. -/
def getOrGenerateRequestId (req : Request) : M String :=
  match (headerGet req.headers "X-Request-ID").filter
      (fun h => h != "" && (PyUuid.ofHex h).isSome) with
  | some requestId => pure requestId
  | none => do
    let u ← uuid4
    pure (PyUuid.str u)

/-- The request `dispatch` passes on with `request_id` and `correlation_id` set. -/
def withRequestId (req : Request) (requestId : String) : Request :=
  { req with state := { req.state with requestId := some requestId, correlationId := some requestId } }

/-- `RequestIDMiddleware.dispatch(request, call_next)`. -/
def dispatch : Dispatch := fun req callNext => do
  let requestId ← getOrGenerateRequestId req
  let response ← callNext (withRequestId req requestId)
  pure { response with
    headers := setHeader (setHeader response.headers "X-Request-ID" requestId) "X-Correlation-ID"
      requestId }

/-- `get_request_id(request)`. -/
def getRequestId (req : Request) : Option String := req.state.requestId

end RequestIDMiddleware

namespace RateLimitMiddleware

/-- `_get_endpoint_key(request)`: `METHOD:version:resource` under `/api/`, else `METHOD:path`. -/
def getEndpointKey (req : Request) : String :=
  match (PyStr.stripBy (· = '/') req.path.toList).splitOn '/' with
  | first :: version :: resource :: _ =>
    if first = "api".toList then req.method ++ ":" ++ ⟨version⟩ ++ ":" ++ ⟨resource⟩
    else req.method ++ ":" ++ req.path
  | _ => req.method ++ ":" ++ req.path

/-- `f"rate_limit:{tenant_id}:{endpoint}"`. -/
def rateLimitKey (tenantId : Nat) (endpoint : String) : String :=
  "rate_limit:" ++ PyUuid.str tenantId ++ ":" ++ endpoint

/-- `_check_rate_limit(key, tenant_id)` on the Redis sets by key (a key Redis lacks is an empty
set): `checkRateLimit` when Redis answers, and `(True, default_limit, now + window)` when it does
not. -/
def checkRateLimitAt (cfg : Config) (key : String) : M (Bool × Nat × Int) := fun env =>
  if env.redisUp then
    let r := checkRateLimit cfg ((env.store.lookup key).getD .empty) env.now env.keyId
    let env' := { env with store := (key, r.2) :: env.store.filter (·.1 != key) }
    match r.1 with
    | .done allowed remaining resetTime => .ok (allowed, remaining, resetTime) env'
    | _ => .ok (true, cfg.defaultLimit, env.now + cfg.window) env'
  else .ok (true, cfg.defaultLimit, env.now + cfg.window) env

/-- `_rate_limit_response(remaining, reset_time)`, `int(time.time())` being `now`. -/
def rateLimitResponse (cfg : Config) (remaining : Nat) (resetTime now : Int) : Response :=
  jsonResponse 429
    [("error", .str "Rate limit exceeded"), ("remaining", .int remaining), ("reset_at", .int resetTime)]
    [("X-RateLimit-Limit", toString cfg.defaultLimit), ("X-RateLimit-Remaining", toString remaining),
      ("X-RateLimit-Reset", toString resetTime), ("Retry-After", toString (max 1 (resetTime - now)))]

/-- The headers `dispatch` adds to a response it let through. -/
def withRateHeaders (cfg : Config) (remaining : Nat) (resetTime : Int) (r : Response) : Response :=
  { r with
    headers := setHeader (setHeader (setHeader r.headers "X-RateLimit-Limit" (toString cfg.defaultLimit))
      "X-RateLimit-Remaining" (toString remaining)) "X-RateLimit-Reset" (toString resetTime) }

/-- `RateLimitMiddleware.dispatch(request, call_next)`: the `except` that fails open also catches
what `call_next` raises, and then calls it again. -/
def dispatch (cfg : Config) : Dispatch := fun req callNext =>
  match req.state.authenticated with
  | none => callNext req
  | some _ =>
    match req.state.tenantId with
    | none => throw (.error "'State' object has no attribute 'tenant_id'")
    | some tenantId =>
      tryCatch (do
          let (allowed, remaining, resetTime) ←
            checkRateLimitAt cfg (rateLimitKey tenantId (getEndpointKey req))
          if !allowed then do
            let env ← get
            pure (rateLimitResponse cfg 0 resetTime env.now)
          else do
            let response ← callNext req
            pure (withRateHeaders cfg remaining resetTime response))
        fun _ => callNext req

end RateLimitMiddleware

/-! ## Each middleware, evaluated

One equation per middleware: its answer in terms of what the primitives it awaits and `call_next`
answer, so that later proofs split on those and never unfold the monad. -/

theorem AuthMiddleware.dispatch_apply (apiKeyHeader : String)
    (decodeJwt : String → Except String AuthMiddleware.JwtPayload) (req : Request) (callNext : App)
    (env : Env) :
    AuthMiddleware.dispatch apiKeyHeader decodeJwt req callNext env =
      if AuthMiddleware.exempt req.path then callNext req env
      else match AuthMiddleware.authenticateRequest apiKeyHeader decodeJwt req env with
        | .ok (u, t) env₁ =>
          match callNext (AuthMiddleware.authenticated req u t) env₁ with
          | .ok r env₂ => .ok r env₂
          | .error e env₂ => .ok (AuthMiddleware.exceptResponse e) env₂
        | .error e env₁ => .ok (AuthMiddleware.exceptResponse e) env₁ := by
  unfold AuthMiddleware.dispatch AuthMiddleware.exempt
  by_cases hp : AuthMiddleware.isPublicPath req.path
  · rw [if_pos hp, hp, Bool.true_or, if_pos rfl]
  · rw [if_neg hp, Bool.eq_false_iff.2 hp, Bool.false_or]
    by_cases hw : PyStr.contains req.path.toList "/webhooks".toList
    · rw [if_pos hw, if_pos hw]
    · rw [if_neg hw, if_neg hw, tryCatch_apply, bind_apply]
      rcases AuthMiddleware.authenticateRequest apiKeyHeader decodeJwt req env with
        ⟨⟨u, t⟩, env₁⟩ | ⟨e, env₁⟩
      · dsimp only
        rcases callNext (AuthMiddleware.authenticated req u t) env₁ with ⟨r, env₂⟩ | ⟨e, env₂⟩ <;> rfl
      · rfl

theorem TenancyMiddleware.dispatch_apply (req : Request) (callNext : App) (env : Env) :
    TenancyMiddleware.dispatch req callNext env =
      match req.state.authenticated, req.state.tenantId with
      | none, _ => callNext req env
      | some _, none => .ok (TenancyMiddleware.errorResponse "Internal error: Missing tenant context") env
      | some _, some t =>
        match callNext (TenancyMiddleware.withContext req t) env with
        | .ok r env' => .ok { r with headers := setHeader r.headers "X-Tenant-ID" (PyUuid.str t) } env'
        | .error e env' => .error e env' := by
  unfold TenancyMiddleware.dispatch
  cases req.state.authenticated with
  | none => rfl
  | some b =>
    cases req.state.tenantId with
    | none => rfl
    | some t =>
      simp only [bind_apply]
      rcases callNext (TenancyMiddleware.withContext req t) env with ⟨r, env'⟩ | ⟨e, env'⟩ <;> rfl

theorem RateLimitMiddleware.dispatch_apply (cfg : RateLimitMiddleware.Config) (req : Request)
    (callNext : App) (env : Env) :
    RateLimitMiddleware.dispatch cfg req callNext env =
      match req.state.authenticated, req.state.tenantId with
      | none, _ => callNext req env
      | some _, none => .error (.error "'State' object has no attribute 'tenant_id'") env
      | some _, some t =>
        match RateLimitMiddleware.checkRateLimitAt cfg
            (RateLimitMiddleware.rateLimitKey t (RateLimitMiddleware.getEndpointKey req)) env with
        | .ok (allowed, remaining, resetTime) env₁ =>
          if allowed then
            match callNext req env₁ with
            | .ok r env₂ => .ok (RateLimitMiddleware.withRateHeaders cfg remaining resetTime r) env₂
            | .error _ env₂ => callNext req env₂
          else .ok (RateLimitMiddleware.rateLimitResponse cfg 0 resetTime env₁.now) env₁
        | .error _ env₁ => callNext req env₁ := by
  unfold RateLimitMiddleware.dispatch
  cases req.state.authenticated with
  | none => rfl
  | some b =>
    cases req.state.tenantId with
    | none => rfl
    | some t =>
      simp only [tryCatch_apply, bind_apply]
      rcases RateLimitMiddleware.checkRateLimitAt cfg
          (RateLimitMiddleware.rateLimitKey t (RateLimitMiddleware.getEndpointKey req)) env with
        ⟨⟨allowed, remaining, resetTime⟩, env₁⟩ | ⟨e, env₁⟩
      · cases allowed
        · rfl
        · simp only [Bool.not_true, Bool.false_eq_true, ↓reduceIte, bind_apply, pure_apply]
          rcases callNext req env₁ with ⟨r, env₂⟩ | ⟨e, env₂⟩ <;> rfl
      · rfl

theorem RequestIDMiddleware.dispatch_apply (req : Request) (callNext : App) (env : Env) :
    RequestIDMiddleware.dispatch req callNext env =
      match RequestIDMiddleware.getOrGenerateRequestId req env with
      | .ok rid env₁ =>
        match callNext (RequestIDMiddleware.withRequestId req rid) env₁ with
        | .ok r env₂ =>
          .ok { r with headers := setHeader (setHeader r.headers "X-Request-ID" rid) "X-Correlation-ID" rid }
            env₂
        | .error e env₂ => .error e env₂
      | .error e env₁ => .error e env₁ := by
  unfold RequestIDMiddleware.dispatch
  simp only [bind_apply]
  rcases RequestIDMiddleware.getOrGenerateRequestId req env with ⟨rid, env₁⟩ | ⟨e, env₁⟩
  · dsimp only
    rcases callNext (RequestIDMiddleware.withRequestId req rid) env₁ with ⟨r, env₂⟩ | ⟨e, env₂⟩ <;> rfl
  · rfl

/-- `_check_rate_limit` always returns, and changes only the Redis sets. -/
theorem RateLimitMiddleware.checkRateLimitAt_apply (cfg : RateLimitMiddleware.Config) (key : String)
    (env : Env) :
    ∃ ans store, RateLimitMiddleware.checkRateLimitAt cfg key env = .ok ans { env with store := store } := by
  unfold RateLimitMiddleware.checkRateLimitAt
  split
  · dsimp only
    split <;> exact ⟨_, _, rfl⟩
  · exact ⟨_, env.store, rfl⟩

/-- `_get_or_generate_request_id` always returns, and changes only the `uuid4()` supply. -/
theorem RequestIDMiddleware.getOrGenerateRequestId_apply (req : Request) (env : Env) :
    ∃ rid n, env.nextUuid ≤ n ∧
      RequestIDMiddleware.getOrGenerateRequestId req env = .ok rid { env with nextUuid := n } := by
  unfold RequestIDMiddleware.getOrGenerateRequestId
  cases Option.filter (fun h => h != "" && (PyUuid.ofHex h).isSome) (headerGet req.headers "X-Request-ID") with
  | some rid => exact ⟨rid, env.nextUuid, le_refl _, rfl⟩
  | none => exact ⟨_, env.nextUuid + 1, Nat.le_succ _, rfl⟩

/-- `RequestIDMiddleware` in front of the routes: the route is handed the request with its id,
once, and the id headers go on what it answers. -/
theorem RequestIDMiddleware.dispatch_callRoute (route : Route) (req : Request) (env : Env) :
    ∃ rid n, RequestIDMiddleware.dispatch req (callRoute route) env =
      let out := route (RequestIDMiddleware.withRequestId req rid) ⟨env.routeCalls.length, env.now, env.db⟩
      let env' := { env with
        nextUuid := n, db := out.2,
        routeCalls := env.routeCalls ++ [RequestIDMiddleware.withRequestId req rid] }
      match out.1 with
      | .ok resp =>
        .ok { resp with headers := setHeader (setHeader resp.headers "X-Request-ID" rid) "X-Correlation-ID" rid }
          env'
      | .error e => .error e env' := by
  obtain ⟨rid, n, -, hg⟩ := RequestIDMiddleware.getOrGenerateRequestId_apply req env
  refine ⟨rid, n, ?_⟩
  rw [RequestIDMiddleware.dispatch_apply, hg]
  dsimp only [callRoute]
  cases (route (RequestIDMiddleware.withRequestId req rid) ⟨env.routeCalls.length, env.now, env.db⟩).1 <;>
    rfl

/-- A client's `X-Request-ID` that `str` printed from a 128-bit UUID is kept, and no `uuid4()` is
drawn. -/
theorem RequestIDMiddleware.getOrGenerateRequestId_issued {req : Request} {u : Nat}
    (hu : u < 2 ^ 128) (hh : headerGet req.headers "X-Request-ID" = some (PyUuid.str u))
    (env : Env) : RequestIDMiddleware.getOrGenerateRequestId req env = .ok (PyUuid.str u) env := by
  have hne : (PyUuid.str u != "") = true := by
    refine bne_iff_ne.2 fun he => ?_
    have h := PyUuid.ofHex_str hu
    rw [he] at h
    cases h
  simp only [RequestIDMiddleware.getOrGenerateRequestId, hh, Option.filter, hne,
    PyUuid.ofHex_str hu, Option.isSome_some, Bool.and_self, if_true]
  rfl

/-- **A request id the API issued comes back unchanged.** A request whose `X-Request-ID` is
`str(u)` for a 128-bit `u`, as `_get_or_generate_request_id` printed it for an earlier answer,
keeps it: no `uuid4()` is drawn, the route is handed the request with that id, and what it
answers carries the id in `X-Request-ID` and `X-Correlation-ID`. -/
theorem RequestIDMiddleware.issued_request_id_kept (route : Route) {req : Request} {u : Nat}
    (hu : u < 2 ^ 128) (hh : headerGet req.headers "X-Request-ID" = some (PyUuid.str u))
    (env : Env) :
    RequestIDMiddleware.dispatch req (callRoute route) env =
      let rid := PyUuid.str u
      let out := route (RequestIDMiddleware.withRequestId req rid) ⟨env.routeCalls.length, env.now, env.db⟩
      let env' := { env with
        db := out.2, routeCalls := env.routeCalls ++ [RequestIDMiddleware.withRequestId req rid] }
      match out.1 with
      | .ok resp =>
        .ok { resp with headers := setHeader (setHeader resp.headers "X-Request-ID" rid) "X-Correlation-ID" rid }
          env'
      | .error e => .error e env' := by
  rw [RequestIDMiddleware.dispatch_apply, RequestIDMiddleware.getOrGenerateRequestId_issued hu hh]
  dsimp only [callRoute]
  cases (route (RequestIDMiddleware.withRequestId req (PyUuid.str u))
    ⟨env.routeCalls.length, env.now, env.db⟩).1 <;> rfl

/-- The id `00000000-0000-0000-0000-000000000007` sent back on a `GET` that the route answers
with a 200. -/
theorem issued_request_id_kept_seven :
    let req : Request := ⟨"GET", "/health", [("x-request-id", PyUuid.str 7)], {}⟩
    let route : Route := fun _ c => (.ok ⟨200, [], []⟩, c.db)
    let env : Env := ⟨[], true, 0, 0, 0, [], ⟨[], .nil, [], .nil⟩⟩
    7 < 2 ^ 128 ∧ headerGet req.headers "X-Request-ID" = some (PyUuid.str 7) ∧
      RequestIDMiddleware.dispatch req (callRoute route) env =
        let rid := PyUuid.str 7
        let out := route (RequestIDMiddleware.withRequestId req rid)
          ⟨env.routeCalls.length, env.now, env.db⟩
        let env' := { env with
          db := out.2, routeCalls := env.routeCalls ++ [RequestIDMiddleware.withRequestId req rid] }
        match out.1 with
        | .ok resp =>
          .ok { resp with
              headers := setHeader (setHeader resp.headers "X-Request-ID" rid) "X-Correlation-ID" rid }
            env'
        | .error e => .error e env' := by
  intro req route env
  have hh : headerGet req.headers "X-Request-ID" = some (PyUuid.str 7) := rfl
  exact ⟨by decide, hh, RequestIDMiddleware.issued_request_id_kept route (by decide) hh env⟩

/-- `TenancyMiddleware` passes a request nothing has authenticated on untouched. -/
theorem TenancyMiddleware.dispatch_unauthenticated {req : Request}
    (h : req.state.authenticated = none) (callNext : App) (env : Env) :
    TenancyMiddleware.dispatch req callNext env = callNext req env := by
  rw [TenancyMiddleware.dispatch_apply, h]

/-- A request with an API key of at least 32 characters is authenticated by it, whatever its other
headers: it gets the next two UUIDs, as user and tenant. -/
theorem AuthMiddleware.authenticateRequest_apiKey {apiKeyHeader : String}
    {decodeJwt : String → Except String AuthMiddleware.JwtPayload} {req : Request} {env : Env}
    {apiKey : String} (hk : (headerGet req.headers apiKeyHeader).filter (· != "") = some apiKey)
    (hlen : 32 ≤ apiKey.length) :
    AuthMiddleware.authenticateRequest apiKeyHeader decodeJwt req env =
      .ok (env.nextUuid, env.nextUuid + 1) { env with nextUuid := env.nextUuid + 2 } := by
  unfold AuthMiddleware.authenticateRequest
  rw [hk]
  dsimp only
  unfold AuthMiddleware.authenticateApiKey
  rw [if_neg (by omega)]
  rfl

/-- The tenant can be read back from a rate-limit key: the UUID has no `:`. -/
theorem RateLimitMiddleware.rateLimitKey_inj {t t' : Nat} {e e' : String}
    (h : RateLimitMiddleware.rateLimitKey t e = RateLimitMiddleware.rateLimitKey t' e') : t = t' := by
  have hd : ∀ a b : String, (a ++ b).toList = a.toList ++ b.toList := fun _ _ => rfl
  have h' := congrArg String.toList h
  simp only [RateLimitMiddleware.rateLimitKey, hd, List.append_assoc] at h'
  exact PyUuid.str_injective (String.ext (PyStr.eq_of_append_cons_eq (PyUuid.colon_not_mem_str t)
    (PyUuid.colon_not_mem_str t') (List.append_cancel_left h')))

/-- On a key with no member, a call is let through whenever the limit is at least one. -/
theorem RateLimitMiddleware.checkRateLimit_empty {cfg : RateLimitMiddleware.Config} {now : Int}
    {keyId : Nat} (hl : 1 ≤ cfg.defaultLimit) :
    (RateLimitMiddleware.checkRateLimit cfg .empty now keyId).1 =
      .done true (cfg.defaultLimit - 1) (now + cfg.window) := by
  unfold RateLimitMiddleware.checkRateLimit
  dsimp only
  split
  · rename_i h; exact absurd h (Nat.not_le.2 hl)
  · rfl

theorem RateLimitMiddleware.checkRateLimitAt_fresh {cfg : RateLimitMiddleware.Config} {key : String}
    {env : Env} (hfresh : env.store.lookup key = none) (hl : 1 ≤ cfg.defaultLimit) :
    ∃ remaining resetTime store, RateLimitMiddleware.checkRateLimitAt cfg key env =
      .ok (true, remaining, resetTime) { env with store := store } := by
  unfold RateLimitMiddleware.checkRateLimitAt
  split
  · rw [hfresh]
    dsimp only [Option.getD]
    rw [RateLimitMiddleware.checkRateLimit_empty hl]
    exact ⟨_, _, _, rfl⟩
  · exact ⟨_, _, env.store, rfl⟩

/-- The limiter in front of `callNext`, on an authenticated request whose key Redis has no member
for: `callNext` runs, and runs once more on the state it left if it raised. -/
theorem RateLimitMiddleware.dispatch_fresh {cfg : RateLimitMiddleware.Config} {req : Request}
    {callNext : App} {env : Env} {t : Nat} (ha : req.state.authenticated = some true)
    (ht : req.state.tenantId = some t)
    (hfresh : env.store.lookup
      (RateLimitMiddleware.rateLimitKey t (RateLimitMiddleware.getEndpointKey req)) = none)
    (hl : 1 ≤ cfg.defaultLimit) :
    ∃ remaining resetTime store, RateLimitMiddleware.dispatch cfg req callNext env =
      match callNext req { env with store := store } with
      | .ok resp env₂ => .ok (RateLimitMiddleware.withRateHeaders cfg remaining resetTime resp) env₂
      | .error _ env₂ => callNext req env₂ := by
  obtain ⟨remaining, resetTime, store, hk⟩ := RateLimitMiddleware.checkRateLimitAt_fresh hfresh hl
  refine ⟨remaining, resetTime, store, ?_⟩
  rw [RateLimitMiddleware.dispatch_apply, ha, ht]
  dsimp only
  rw [hk]
  rfl

/-! ## What each middleware does to the state

Each middleware moves the state along a `Drift` when every primitive it awaits and every
`call_next` it makes do; the hypotheses name exactly the requests it passes on. -/

section Moves

variable {D : Drift}

namespace AuthMiddleware

theorem moves_authenticateApiKey (hu : Moves D uuid4) (apiKey : String) :
    Moves D (authenticateApiKey apiKey) :=
  moves_ite (fun _ => moves_throw _) fun _ =>
    moves_bind hu fun _ => moves_bind hu fun _ => moves_pure _

theorem moves_claimUuid (c : Option Claim) : Moves D (claimUuid c) := by
  unfold claimUuid
  split
  · split
    · exact moves_pure _
    · exact moves_throw _
  · exact moves_throw _
  · exact moves_throw _

theorem moves_authenticateJwt (decodeJwt : String → Except String JwtPayload) (token : String) :
    Moves D (authenticateJwt decodeJwt token) := by
  unfold authenticateJwt
  split
  · exact moves_throw _
  · refine moves_bind (moves_claimUuid _) fun _ => moves_bind (moves_claimUuid _) fun _ =>
      moves_get_bind fun _ => ?_
    split
    · exact moves_ite (fun _ => moves_throw _) fun _ => moves_pure _
    · exact moves_pure _

theorem moves_authenticateRequest (hu : Moves D uuid4) (apiKeyHeader : String)
    (decodeJwt : String → Except String JwtPayload) (req : Request) :
    Moves D (authenticateRequest apiKeyHeader decodeJwt req) := by
  unfold authenticateRequest
  split
  · exact moves_authenticateApiKey hu _
  · split
    · exact moves_ite (fun _ => moves_authenticateJwt _ _) fun _ => moves_throw _
    · exact moves_throw _

theorem moves_dispatch (hu : Moves D uuid4) {apiKeyHeader : String}
    {decodeJwt : String → Except String JwtPayload} {req : Request} {callNext : App}
    (hx : exempt req.path = true → Moves D (callNext req))
    (hc : exempt req.path = false → ∀ u t, Moves D (callNext (authenticated req u t))) :
    Moves D (dispatch apiKeyHeader decodeJwt req callNext) := by
  unfold dispatch
  by_cases hp : isPublicPath req.path
  · rw [if_pos hp]; exact hx (by rw [exempt, hp, Bool.true_or])
  · rw [if_neg hp]
    by_cases hw : PyStr.contains req.path.toList "/webhooks".toList
    · rw [if_pos hw]; exact hx (by rw [exempt, hw, Bool.or_true])
    · rw [if_neg hw]
      have he : exempt req.path = false := by
        rw [exempt, Bool.eq_false_iff.2 hp, Bool.eq_false_iff.2 hw, Bool.or_false]
      exact moves_tryCatch (moves_bind (moves_authenticateRequest hu _ _ _)
        fun ⟨u, t⟩ => hc he u t) fun _ => moves_pure _

end AuthMiddleware

theorem TenancyMiddleware.moves_dispatch {req : Request} {callNext : App}
    (hx : req.state.authenticated = none → Moves D (callNext req))
    (hc : ∀ t, req.state.authenticated.isSome → req.state.tenantId = some t →
      Moves D (callNext (withContext req t))) :
    Moves D (dispatch req callNext) := by
  unfold dispatch
  split
  · exact hx ‹_›
  · rename_i ha
    split
    · exact moves_pure _
    · rename_i t ht
      exact moves_bind (hc t (by simp [ha]) ht) fun _ => moves_pure _

theorem RequestIDMiddleware.moves_dispatch (hu : Moves D uuid4) {req : Request} {callNext : App}
    (hc : ∀ rid, Moves D (callNext (withRequestId req rid))) : Moves D (dispatch req callNext) := by
  refine moves_bind ?_ fun rid => moves_bind (hc rid) fun _ => moves_pure _
  unfold getOrGenerateRequestId
  split
  · exact moves_pure _
  · exact moves_bind hu fun _ => moves_pure _

theorem RateLimitMiddleware.moves_dispatch {cfg : RateLimitMiddleware.Config} {req : Request}
    {callNext : App}
    (hk : ∀ t, req.state.tenantId = some t →
      Moves D (checkRateLimitAt cfg (rateLimitKey t (getEndpointKey req))))
    (hx : Moves D (callNext req)) : Moves D (dispatch cfg req callNext) := by
  unfold dispatch
  split
  · exact hx
  · split
    · exact moves_throw _
    · rename_i t ht
      refine moves_tryCatch (moves_bind (hk t ht) fun ⟨allowed, remaining, resetTime⟩ => ?_)
        fun _ => hx
      exact moves_ite (fun _ => moves_get_bind fun _ => moves_pure _)
        fun _ => moves_bind hx fun _ => moves_pure _

theorem Starlette.moves_serverErrorMiddleware {debug : Bool} {app : App} {req : Request}
    (h : Moves D (app req)) : Moves D (Starlette.serverErrorMiddleware debug app req) :=
  moves_tryCatch h fun _ => moves_pure _

end Moves

end RcsMessaging
