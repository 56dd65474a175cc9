import RcsMessaging.Api.App

/-!
# `Api.ApiKeys` — what an API key or an access token buys, over every run

`_authenticate_api_key` accepts any key of 32 characters or more and answers with `uuid4()` twice,
as user and tenant: each API-key request is a new tenant. This file follows that through the stack
and over runs of requests, and then does the same for a token `create_access_token` made.

* `Issued`: every tenant the state mentions, in a rate-limit key or on a request a route was
  handed, was handed out by the UUID supply already. Serving requests keeps it (`issued_serveAll`)
  provided the tokens `jwt.decode` accepts carry such tenants (`JwtTenantsBelow`); its proof runs
  once per layer, through `issuedDrift` and `runDrift`.
* **`api_key_tenant_is_fresh`**: after any run, the requests the routes are handed for an API-key
  request carry a tenant no request handed before had.
* **`api_key_requests_pass_limiter`**: so the limiter, keyed by tenant, always finds an empty set
  for them and never holds one back: with any limit of one or more, the routes are handed it.
* **`raising_route_runs_twice`**: with rate limiting enabled, a route that raises is handed an
  API-key request twice — the limiter's fail-open `except` calls `call_next` again — and the
  answer is authentication's for the second exception.
* **`access_token_names_its_tenant`**: over every run, a route handed a request bearing a token
  `create_access_token(user_id, tenant_id)` sees that user and tenant — the round trip from the
  claims `jwt.encode` signs through `_authenticate_jwt`'s `UUID(...)` of them.
-/

namespace RcsMessaging

namespace Api

open Http

@[simp] theorem Arrival.enter_nextUuid (a : Arrival) (env : Env) :
    (a.enter env).nextUuid = env.nextUuid := rfl

@[simp] theorem Arrival.enter_store (a : Arrival) (env : Env) : (a.enter env).store = env.store := rfl

@[simp] theorem Arrival.enter_routeCalls (a : Arrival) (env : Env) :
    (a.enter env).routeCalls = env.routeCalls := rfl

/-! ## Tenants the state has seen -/

/-- Every tenant the state mentions, in a rate-limit key or on a request a route was handed, is one
the UUID supply has handed out. -/
structure Issued (env : Env) : Prop where
  keys : ∀ p ∈ env.store, ∃ t e, t < env.nextUuid ∧ p.1 = RateLimitMiddleware.rateLimitKey t e
  routed : ∀ r ∈ env.routeCalls, ∀ t, r.state.tenantId = some t → t < env.nextUuid

/-- Every tenant a token decodes to is below `n`: the tokens carry tenants handed out already. -/
def JwtTenantsBelow (decodeJwt : String → Except String AuthMiddleware.JwtPayload) (n : Nat) : Prop :=
  ∀ token payload text t, decodeJwt token = .ok payload → payload.tenantId = some (.str text) →
    PyUuid.ofHex text = some t → t < n

theorem JwtTenantsBelow.mono {decodeJwt : String → Except String AuthMiddleware.JwtPayload}
    {n m : Nat} (h : JwtTenantsBelow decodeJwt n) (hnm : n ≤ m) : JwtTenantsBelow decodeJwt m :=
  fun token payload text t hd ht hu => lt_of_lt_of_le (h token payload text t hd ht hu) hnm

/-- `jwt.decode` under a key that signed one token, for `user` and `tenant`. -/
def acceptOne (token : String) (user tenant : Nat) : String → Except String AuthMiddleware.JwtPayload :=
  fun tok => if tok = token then .ok ⟨some (.str (PyUuid.str user)), some (.str (PyUuid.str tenant)),
    some 1800⟩ else .error "Signature verification failed"

theorem jwtTenantsBelow_acceptOne {token : String} {user tenant n : Nat} (hn : tenant < n)
    (hu : tenant < 2 ^ 128) : JwtTenantsBelow (acceptOne token user tenant) n := by
  intro tok payload text t hd ht ho
  unfold acceptOne at hd
  split at hd
  · cases hd
    cases ht
    exact (PyUuid.ofHex_str_eq_some hu).1 ho ▸ hn
  · cases hd

theorem Issued.of_le {a b : Env} (hi : Issued a) (hn : a.nextUuid ≤ b.nextUuid)
    (hs : b.store = a.store) (hr : b.routeCalls = a.routeCalls) : Issued b where
  keys p hp := by
    obtain ⟨t, e, ht, he⟩ := hi.keys p (hs ▸ hp)
    exact ⟨t, e, lt_of_lt_of_le ht hn, he⟩
  routed r hr' t ht := lt_of_lt_of_le (hi.routed r (hr ▸ hr') t ht) hn

/-- A server that has served nothing mentions no tenant. -/
theorem issued_of_nil {env : Env} (hs : env.store = []) (hr : env.routeCalls = []) : Issued env where
  keys _ h := absurd (hs ▸ h) (List.not_mem_nil _)
  routed _ h := absurd (hr ▸ h) (List.not_mem_nil _)

/-- The UUID supply only grows, and the state comes to mention only tenants `T` allows, if those
were handed out. -/
def issuedDrift (T : Nat → Prop) : Drift where
  rel a b := a.nextUuid ≤ b.nextUuid ∧ (Issued a → (∀ t, T t → t < a.nextUuid) → Issued b)
  refl _ := ⟨le_refl _, fun h _ => h⟩
  trans := fun ⟨n₁, h₁⟩ ⟨n₂, h₂⟩ =>
    ⟨n₁.trans n₂, fun hi hT => h₂ (h₁ hi hT) fun t ht => lt_of_lt_of_le (hT t ht) n₁⟩

section IssuedDrift

variable {T : Nat → Prop}

theorem issuedDrift_uuid4 : Moves (issuedDrift T) uuid4 := fun _ =>
  ⟨Nat.le_succ _, fun hi _ => hi.of_le (Nat.le_succ _) rfl rfl⟩

/-- `_check_rate_limit` writes under its own key only. -/
theorem checkRateLimitAt_store (cfg : RateLimitMiddleware.Config) (key : String) (env : Env) :
    ∃ ans store, RateLimitMiddleware.checkRateLimitAt cfg key env = .ok ans { env with store := store } ∧
      ∀ p ∈ store, p.1 = key ∨ p ∈ env.store := by
  unfold RateLimitMiddleware.checkRateLimitAt
  have hw : ∀ z, ∀ p ∈ (key, z) :: env.store.filter (·.1 != key), p.1 = key ∨ p ∈ env.store :=
    fun z p hp => (List.mem_cons.1 hp).imp (congrArg Prod.fst) fun h => (List.mem_filter.1 h).1
  split
  · dsimp only
    split <;> exact ⟨_, _, rfl, hw _⟩
  · exact ⟨_, env.store, rfl, fun p hp => .inr hp⟩

theorem issuedDrift_checkRateLimitAt {t : Nat} (ht : T t) (cfg : RateLimitMiddleware.Config)
    (endpoint : String) :
    Moves (issuedDrift T) (RateLimitMiddleware.checkRateLimitAt cfg
      (RateLimitMiddleware.rateLimitKey t endpoint)) := fun env => by
  obtain ⟨ans, store, h, hw⟩ := checkRateLimitAt_store cfg (RateLimitMiddleware.rateLimitKey t endpoint) env
  rw [h]
  refine ⟨le_refl _, fun hi hT => ⟨fun p hp => ?_, hi.routed⟩⟩
  rcases hw p hp with hk | hk
  · exact ⟨t, endpoint, hT t ht, hk⟩
  · exact hi.keys p hk

theorem issuedDrift_callRoute {route : Route} {r : Request} (h : ∀ t, r.state.tenantId = some t → T t) :
    Moves (issuedDrift T) (callRoute route r) := fun env => by
  rw [callRoute_state]
  refine ⟨le_refl _, fun hi hT => ⟨hi.keys, fun r' hr' t ht => ?_⟩⟩
  rcases List.mem_append.1 hr' with hr' | hr'
  · exact hi.routed r' hr' t ht
  · rw [List.mem_singleton.1 hr'] at ht
    exact hT t (h t ht)

/-- Behind authentication, the state comes to mention only the tenant of the request. -/
theorem issuedDrift_behindAuth (s : Settings) (route : Route) (r : Request) :
    Moves (issuedDrift (r.state.tenantId = some ·)) (behindAuth s route r) := by
  have hid : Moves (issuedDrift (r.state.tenantId = some ·))
      (RequestIDMiddleware.dispatch r (callRoute route)) :=
    RequestIDMiddleware.moves_dispatch issuedDrift_uuid4 fun _ => issuedDrift_callRoute fun _ ht => ht
  unfold behindAuth
  split
  · exact RateLimitMiddleware.moves_dispatch (fun _ ht => issuedDrift_checkRateLimitAt ht _ _) hid
  · exact hid

end IssuedDrift

theorem claimUuid_ok {c : Option AuthMiddleware.Claim} {env env' : Env} {u : Nat}
    (h : AuthMiddleware.claimUuid c env = .ok u env') :
    env' = env ∧ ∃ text, c = some (.str text) ∧ PyUuid.ofHex text = some u := by
  match c, h with
  | some (.str text), h =>
    unfold AuthMiddleware.claimUuid at h
    dsimp only at h
    cases hu : PyUuid.ofHex text with
    | none => rw [hu] at h; cases h
    | some u' => rw [hu] at h; cases h; exact ⟨rfl, text, rfl, hu⟩
  | some .other, h => cases h
  | none, h => cases h

/-- A token lets a request through only with a `sub` and a `tenant_id` that read as UUIDs, and
changes nothing. -/
theorem authenticateJwt_ok {decodeJwt : String → Except String AuthMiddleware.JwtPayload}
    {token : String} {env env₁ : Env} {u t : Nat}
    (h : AuthMiddleware.authenticateJwt decodeJwt token env = .ok (u, t) env₁) :
    env₁ = env ∧ ∃ payload, decodeJwt token = .ok payload ∧
      (∃ text, payload.sub = some (.str text) ∧ PyUuid.ofHex text = some u) ∧
      ∃ text, payload.tenantId = some (.str text) ∧ PyUuid.ofHex text = some t := by
  unfold AuthMiddleware.authenticateJwt at h
  cases hd : decodeJwt token with
  | error e => rw [hd] at h; cases h
  | ok payload =>
    rw [hd] at h
    dsimp only at h
    rw [bind_apply] at h
    rcases hs : AuthMiddleware.claimUuid payload.sub env with ⟨u', env'⟩ | ⟨e, env'⟩ <;>
      rw [hs] at h
    · obtain ⟨rfl, utext, hsub, huu⟩ := claimUuid_ok hs
      dsimp only at h
      rw [bind_apply] at h
      rcases ht : AuthMiddleware.claimUuid payload.tenantId env' with ⟨t', env''⟩ | ⟨e, env''⟩ <;>
        rw [ht] at h
      · obtain ⟨rfl, text, htx, hu⟩ := claimUuid_ok ht
        dsimp only at h
        rw [bind_apply, get_apply] at h
        dsimp only at h
        have hok : (u', t') = (u, t) ∧ env'' = env₁ := by
          cases hexp : payload.exp with
          | none => rw [hexp] at h; cases h; exact ⟨rfl, rfl⟩
          | some exp =>
            rw [hexp] at h
            dsimp only at h
            by_cases hc : exp ≠ 0 ∧ env''.now > exp
            · rw [if_pos hc] at h; cases h
            · rw [if_neg hc] at h; cases h; exact ⟨rfl, rfl⟩
        obtain ⟨he, rfl⟩ := hok
        cases he
        exact ⟨rfl, payload, rfl, ⟨utext, hsub, huu⟩, text, htx, hu⟩
      · cases h
    · cases h

/-- Authentication hands out only tenants the UUID supply has handed out, if the tokens do. -/
theorem authenticateRequest_tenant_lt {apiKeyHeader : String}
    {decodeJwt : String → Except String AuthMiddleware.JwtPayload} {req : Request} {env env₁ : Env}
    {u t : Nat} (hj : JwtTenantsBelow decodeJwt env.nextUuid)
    (h : AuthMiddleware.authenticateRequest apiKeyHeader decodeJwt req env = .ok (u, t) env₁) :
    t < env₁.nextUuid := by
  unfold AuthMiddleware.authenticateRequest at h
  cases hk : (headerGet req.headers apiKeyHeader).filter (· != "") with
  | some apiKey =>
    rw [hk] at h
    dsimp only at h
    unfold AuthMiddleware.authenticateApiKey at h
    by_cases hl : apiKey.length < 32
    · rw [if_pos hl] at h; cases h
    · rw [if_neg hl] at h
      simp only [bind_apply, uuid4_apply, pure_apply] at h
      cases h
      exact Nat.lt_succ_self _
  | none =>
    rw [hk] at h
    dsimp only at h
    cases ha : headerGet req.headers "Authorization" with
    | none => rw [ha] at h; cases h
    | some auth =>
      rw [ha] at h
      dsimp only at h
      by_cases hb : "Bearer ".toList.isPrefixOf auth.toList = true
      · rw [if_pos hb] at h
        obtain ⟨rfl, payload, hd, -, text, ht, hu⟩ := authenticateJwt_ok h
        exact hj _ payload text t hd ht hu
      · rw [if_neg hb] at h; cases h

/-- What serving requests keeps: the UUID supply only grows, and if every tenant the state and the
tokens mention was handed out, every tenant the state mentions stays so. -/
def runDrift (decodeJwt : String → Except String AuthMiddleware.JwtPayload) : Drift where
  rel a b := a.nextUuid ≤ b.nextUuid ∧ (Issued a → JwtTenantsBelow decodeJwt a.nextUuid → Issued b)
  refl _ := ⟨le_refl _, fun h _ => h⟩
  trans := fun ⟨n₁, h₁⟩ ⟨n₂, h₂⟩ => ⟨n₁.trans n₂, fun hi hj => h₂ (h₁ hi hj) (hj.mono n₁)⟩

section Run

variable {s : Settings} {decodeJwt : String → Except String AuthMiddleware.JwtPayload} {route : Route}

theorem runDrift_auth {req : Request} (hreq : req.state.tenantId = none) :
    Moves (runDrift decodeJwt) (AuthMiddleware.dispatch s.apiKeyHeader decodeJwt req (behindAuth s route)) := by
  intro env
  rw [AuthMiddleware.dispatch_apply]
  split
  · obtain ⟨hn, hb⟩ := issuedDrift_behindAuth s route req env
    exact ⟨hn, fun hi _ => hb hi fun t ht => absurd (hreq.symm.trans ht) (by simp)⟩
  · obtain ⟨hn₁, ha⟩ := AuthMiddleware.moves_authenticateRequest (D := issuedDrift fun _ => False)
      issuedDrift_uuid4 s.apiKeyHeader decodeJwt req env
    split
    · rename_i u t env₁ h₁
      rw [h₁] at hn₁ ha
      obtain ⟨hn₂, hb⟩ := issuedDrift_behindAuth s route (AuthMiddleware.authenticated req u t) env₁
      rcases hx : behindAuth s route (AuthMiddleware.authenticated req u t) env₁ with
          ⟨r, env₂⟩ | ⟨e, env₂⟩ <;> rw [hx] at hn₂ hb <;>
        exact ⟨hn₁.trans hn₂, fun hi hj => hb (ha hi fun _ => False.elim) fun t' ht' => by
          cases ht'; exact authenticateRequest_tenant_lt hj h₁⟩
    · rename_i e env₁ h₁
      rw [h₁] at hn₁ ha
      exact ⟨hn₁, fun hi _ => ha hi fun _ => False.elim⟩

theorem runDrift_createApp {req : Request} (hreq : req.state = {}) :
    Moves (runDrift decodeJwt) (createApp s decodeJwt route req) := by
  rw [createApp_eq]
  refine Starlette.moves_serverErrorMiddleware (TenancyMiddleware.moves_dispatch
    (fun _ => runDrift_auth (by rw [hreq])) ?_)
  intro t ha _
  simp [hreq] at ha

/-- **Tenants stay issued over every run.** -/
theorem issued_serveAll (s : Settings) (decodeJwt : String → Except String AuthMiddleware.JwtPayload)
    (route : Route) (arrivals : List Arrival) {env : Env} (hi : Issued env)
    (hj : JwtTenantsBelow decodeJwt env.nextUuid) :
    Issued (resultState (serveAll (createApp s decodeJwt route) arrivals env)) ∧
      env.nextUuid ≤ (resultState (serveAll (createApp s decodeJwt route) arrivals env)).nextUuid := by
  obtain ⟨hn, h⟩ := moves_serveAll (D := runDrift decodeJwt)
    (fun env a => ⟨le_refl _, fun hi _ => hi.of_le (le_refl _) rfl rfl⟩)
    (fun _ => runDrift_createApp rfl) arrivals env
  exact ⟨h hi hj, hn⟩

end Run


/-! ## An API-keyed request -/

/-- A request the server hands in on a path that is neither public nor a webhook path, with an API
key of 32 characters or more. -/
def ApiKeyed (s : Settings) (a : Arrival) : Prop :=
  AuthMiddleware.exempt a.path = false ∧
    ∃ apiKey, (headerGet a.headers s.apiKeyHeader).filter (· != "") = some apiKey ∧ 32 ≤ apiKey.length

section ApiKeyed

variable {s : Settings} {decodeJwt : String → Except String AuthMiddleware.JwtPayload}
  {route : Route} {a : Arrival}

/-- Serving an API-keyed request: it is authenticated as the next two UUIDs, the layers behind
authentication run on it, and what they raise becomes authentication's answer. -/
theorem serve_apiKeyed (h : ApiKeyed s a) (env : Env) :
    serve (createApp s decodeJwt route) a env =
      match behindAuth s route (AuthMiddleware.authenticated a.request env.nextUuid (env.nextUuid + 1))
          { a.enter env with nextUuid := env.nextUuid + 2 } with
      | .ok r env₂ => .ok r env₂
      | .error e env₂ => .ok (AuthMiddleware.exceptResponse e) env₂ := by
  obtain ⟨he, apiKey, hk, hlen⟩ := h
  unfold serve
  rw [createApp_eq]
  unfold Starlette.serverErrorMiddleware
  rw [tryCatch_apply]
  dsimp only
  rw [TenancyMiddleware.dispatch_unauthenticated rfl, AuthMiddleware.dispatch_apply,
    if_neg (by simpa using he), @AuthMiddleware.authenticateRequest_apiKey _ _ a.request _ _ hk hlen,
    Arrival.enter_nextUuid]
  dsimp only
  rcases behindAuth s route (AuthMiddleware.authenticated a.request env.nextUuid (env.nextUuid + 1))
    { a.enter env with nextUuid := env.nextUuid + 2 } with ⟨r, env₂⟩ | ⟨e, env₂⟩ <;> rfl

theorem serve_apiKeyed_state (h : ApiKeyed s a) (env : Env) :
    resultState (serve (createApp s decodeJwt route) a env) =
      resultState (behindAuth s route
        (AuthMiddleware.authenticated a.request env.nextUuid (env.nextUuid + 1))
        { a.enter env with nextUuid := env.nextUuid + 2 }) := by
  rw [serve_apiKeyed h]
  split <;> rename_i hb <;> simp only [hb, resultState_ok', resultState_error']

/-- No rate-limit key of an issued state belongs to the next UUID or a later one. -/
theorem Issued.lookup_fresh {env : Env} (hi : Issued env) {t : Nat} (ht : env.nextUuid ≤ t)
    (endpoint : String) :
    env.store.lookup (RateLimitMiddleware.rateLimitKey t endpoint) = none := by
  refine lookup_eq_none_of_not_mem fun hm => ?_
  obtain ⟨p, hp, hk⟩ := List.mem_map.1 hm
  obtain ⟨t', e, ht', he⟩ := hi.keys p hp
  have := RateLimitMiddleware.rateLimitKey_inj (he.symm.trans hk)
  omega

/-- Behind authentication, the routes are handed the request being served with a request id
added: the same path, headers, user and tenant. -/
theorem routeDrift_behindAuth_same (s : Settings) (route : Route) (r : Request) :
    Moves (routeDrift fun r' => r'.path = r.path ∧ r'.headers = r.headers ∧
        AuthMiddleware.getCurrentUser r' = AuthMiddleware.getCurrentUser r ∧
        AuthMiddleware.getCurrentTenant r' = AuthMiddleware.getCurrentTenant r)
      (behindAuth s route r) := by
  suffices hid : Moves (routeDrift _) (RequestIDMiddleware.dispatch r (callRoute route)) by
    unfold behindAuth
    split
    · exact RateLimitMiddleware.moves_dispatch (fun _ _ => routeDrift_checkRateLimitAt _ _) hid
    · exact hid
  exact RequestIDMiddleware.moves_dispatch routeDrift_uuid4 fun _ =>
    routeDrift_callRoute ⟨rfl, rfl, rfl, rfl⟩

/-- Behind authentication, the routes are handed only requests of the tenant being served. -/
theorem routeDrift_behindAuth (s : Settings) (route : Route) (r : Request) :
    Moves (routeDrift fun r' => AuthMiddleware.getCurrentTenant r' = AuthMiddleware.getCurrentTenant r)
      (behindAuth s route r) :=
  Moves.routeDrift_mono (fun _ h => h.2.2.2) (routeDrift_behindAuth_same s route r)

theorem getCurrentTenant_ok {r : Request} {t : Nat} (h : AuthMiddleware.getCurrentTenant r = .ok t) :
    r.state.tenantId = some t := by
  unfold AuthMiddleware.getCurrentTenant at h
  split at h <;> cases h
  assumption

/-- The next two UUIDs' tenant meets an empty set at the limiter: the routes are handed the
request at least once. -/
theorem behindAuth_handsOn {req : Request} {u t : Nat} {env : Env}
    (hfresh : ∀ endpoint, env.store.lookup (RateLimitMiddleware.rateLimitKey t endpoint) = none)
    (hl : 1 ≤ s.defaultLimit) :
    ∃ r handed, (resultState (behindAuth s route (AuthMiddleware.authenticated req u t) env)).routeCalls =
      env.routeCalls ++ r :: handed := by
  unfold behindAuth
  split
  · obtain ⟨remaining, resetTime, store, h⟩ := @RateLimitMiddleware.dispatch_fresh
      { defaultLimit := s.defaultLimit } (AuthMiddleware.authenticated req u t)
      (fun r' => RequestIDMiddleware.dispatch r' (callRoute route)) env t rfl rfl (hfresh _) hl
    dsimp only
    rw [h]
    obtain ⟨rid, h₁⟩ := requestId_routeCalls route (AuthMiddleware.authenticated req u t)
      { env with store := store }
    split
    · rename_i hx
      rw [hx] at h₁
      exact ⟨_, [], h₁⟩
    · rename_i e env₂ hx
      rw [hx] at h₁
      obtain ⟨rid', h₂⟩ := requestId_routeCalls route (AuthMiddleware.authenticated req u t) env₂
      refine ⟨RequestIDMiddleware.withRequestId (AuthMiddleware.authenticated req u t) rid,
        [RequestIDMiddleware.withRequestId (AuthMiddleware.authenticated req u t) rid'], ?_⟩
      rw [h₂, show env₂.routeCalls = _ from h₁]
      simp
  · obtain ⟨rid, h₁⟩ := requestId_routeCalls route (AuthMiddleware.authenticated req u t) env
    exact ⟨_, [], h₁⟩

/-- Behind `RequestIDMiddleware`, a route that always raises is handed the request once and its
exception goes up. -/
theorem requestId_raising (hraise : ∀ r c, ∃ e, (route r c).1 = .error e) (req : Request)
    (env : Env) :
    ∃ e rid env', RequestIDMiddleware.dispatch req (callRoute route) env = .error e env' ∧
      env'.routeCalls = env.routeCalls ++ [RequestIDMiddleware.withRequestId req rid] ∧
      env'.now = env.now ∧
      (route (RequestIDMiddleware.withRequestId req rid) ⟨env.routeCalls.length, env.now, env.db⟩).1 =
        .error e := by
  obtain ⟨rid, n, h⟩ := RequestIDMiddleware.dispatch_callRoute route req env
  obtain ⟨e, he⟩ := hraise (RequestIDMiddleware.withRequestId req rid)
    ⟨env.routeCalls.length, env.now, env.db⟩
  dsimp only at h
  rw [he] at h
  exact ⟨e, rid, _, h, rfl, rfl, he⟩

/-- With rate limiting enabled and a fresh tenant, a route that always raises is handed the request
twice, the second time by the limiter's `except`, whose exception goes up. -/
theorem behindAuth_raising (hr : s.rateLimitEnabled = true) (req : Request) (u : Nat) {t : Nat}
    (env : Env)
    (hfresh : ∀ endpoint, env.store.lookup (RateLimitMiddleware.rateLimitKey t endpoint) = none)
    (hl : 1 ≤ s.defaultLimit) (hraise : ∀ r c, ∃ e, (route r c).1 = .error e) :
    ∃ e r₁ r₂ env' db, behindAuth s route (AuthMiddleware.authenticated req u t) env = .error e env' ∧
      env'.routeCalls = env.routeCalls ++ [r₁, r₂] ∧
      (route r₂ ⟨env.routeCalls.length + 1, env.now, db⟩).1 = .error e := by
  unfold behindAuth
  rw [if_pos hr]
  obtain ⟨remaining, resetTime, store, h⟩ := @RateLimitMiddleware.dispatch_fresh
      { defaultLimit := s.defaultLimit } (AuthMiddleware.authenticated req u t)
      (fun r' => RequestIDMiddleware.dispatch r' (callRoute route)) env t rfl rfl (hfresh _) hl
  rw [h]
  obtain ⟨e₁, rid₁, env₁, h₁, hc₁, hn₁, -⟩ :=
    requestId_raising hraise (AuthMiddleware.authenticated req u t) { env with store := store }
  rw [h₁]
  dsimp only
  obtain ⟨e₂, rid₂, env₂, h₂, hc₂, -, he₂⟩ :=
    requestId_raising hraise (AuthMiddleware.authenticated req u t) env₁
  rw [hc₁, hn₁] at he₂
  exact ⟨e₂, RequestIDMiddleware.withRequestId (AuthMiddleware.authenticated req u t) rid₁,
    RequestIDMiddleware.withRequestId (AuthMiddleware.authenticated req u t) rid₂, env₂, env₁.db, h₂,
    by rw [hc₂, hc₁]; simp, by simpa using he₂⟩

end ApiKeyed

/-- **An API key is a new tenant every time.** From a state whose tenants were all handed out,
with tokens that carry only such tenants, after any run `pre`: every request the routes are handed
while an API-keyed request is served has one tenant, and no request the routes were handed before
has it. So no two API-key requests of a run share a tenant. -/
theorem api_key_tenant_is_fresh (s : Settings)
    (decodeJwt : String → Except String AuthMiddleware.JwtPayload) (route : Route)
    (pre : List Arrival) (a : Arrival) (env : Env) (hi : Issued env)
    (hj : JwtTenantsBelow decodeJwt env.nextUuid) (ha : ApiKeyed s a) :
    ∃ t handed,
      (resultState (serve (createApp s decodeJwt route) a
          (resultState (serveAll (createApp s decodeJwt route) pre env)))).routeCalls =
        (resultState (serveAll (createApp s decodeJwt route) pre env)).routeCalls ++ handed ∧
      (∀ r ∈ handed, AuthMiddleware.getCurrentTenant r = .ok t) ∧
      ∀ r ∈ (resultState (serveAll (createApp s decodeJwt route) pre env)).routeCalls,
        AuthMiddleware.getCurrentTenant r ≠ .ok t := by
  have hi₁ := (issued_serveAll s decodeJwt route pre hi hj).1
  generalize resultState (serveAll (createApp s decodeJwt route) pre env) = env₁ at hi₁ ⊢
  rw [serve_apiKeyed_state ha]
  obtain ⟨handed, h, hq⟩ := routeDrift_behindAuth s route
    (AuthMiddleware.authenticated a.request env₁.nextUuid (env₁.nextUuid + 1))
    { a.enter env₁ with nextUuid := env₁.nextUuid + 2 }
  refine ⟨env₁.nextUuid + 1, handed, h, hq, fun r hr ht => ?_⟩
  have := hi₁.routed r hr _ (getCurrentTenant_ok ht)
  omega

/-- A signed-in user of tenant 2 makes a request, then the same API key is sent twice. -/
theorem api_key_tenant_is_fresh_second_key :
    let s : Settings := {}
    let decodeJwt := acceptOne "eyJ0.eyJ1.c2ln" 1 2
    let route : Route := fun _ c => (.ok ⟨201, [], []⟩, c.db)
    let jwt : Arrival :=
      ⟨"GET", "/api/v1/campaigns", [("authorization", "Bearer eyJ0.eyJ1.c2ln")], 0, 0, true⟩
    let a : Arrival :=
      ⟨"POST", "/api/v1/messages", [("x-api-key", "0123456789abcdef0123456789abcdef")], 0, 0, true⟩
    let env : Env := ⟨[], true, 5, 0, 0, [], ⟨[], .nil, [], .nil⟩⟩
    Issued env ∧ JwtTenantsBelow decodeJwt env.nextUuid ∧ ApiKeyed s a ∧
      ∃ t handed,
        (resultState (serve (createApp s decodeJwt route) a
            (resultState (serveAll (createApp s decodeJwt route) [jwt, a] env)))).routeCalls =
          (resultState (serveAll (createApp s decodeJwt route) [jwt, a] env)).routeCalls ++ handed ∧
        (∀ r ∈ handed, AuthMiddleware.getCurrentTenant r = .ok t) ∧
        ∀ r ∈ (resultState (serveAll (createApp s decodeJwt route) [jwt, a] env)).routeCalls,
          AuthMiddleware.getCurrentTenant r ≠ .ok t := by
  intro s decodeJwt route jwt a env
  have hi : Issued env := issued_of_nil rfl rfl
  have hj : JwtTenantsBelow decodeJwt env.nextUuid := jwtTenantsBelow_acceptOne (by decide) (by decide)
  have ha : ApiKeyed s a := ⟨by decide, "0123456789abcdef0123456789abcdef", by decide, by decide⟩
  exact ⟨hi, hj, ha, api_key_tenant_is_fresh s decodeJwt route [jwt, a] a env hi hj ha⟩

/-- **The limiter never holds back an API-key request.** Its key holds the request's tenant, which
is new, so the set under it is empty: from a state whose tenants were all handed out, with tokens
that carry only such tenants, after any run `pre`, and with a limit of one or more, the routes are
handed every API-keyed request. -/
theorem api_key_requests_pass_limiter (s : Settings)
    (decodeJwt : String → Except String AuthMiddleware.JwtPayload) (route : Route)
    (pre : List Arrival) (a : Arrival) (env : Env) (hl : 1 ≤ s.defaultLimit) (hi : Issued env)
    (hj : JwtTenantsBelow decodeJwt env.nextUuid) (ha : ApiKeyed s a) :
    ∃ r handed,
      (resultState (serve (createApp s decodeJwt route) a
          (resultState (serveAll (createApp s decodeJwt route) pre env)))).routeCalls =
        (resultState (serveAll (createApp s decodeJwt route) pre env)).routeCalls ++ r :: handed := by
  have hi₁ := (issued_serveAll s decodeJwt route pre hi hj).1
  generalize resultState (serveAll (createApp s decodeJwt route) pre env) = env₁ at hi₁ ⊢
  rw [serve_apiKeyed_state ha]
  exact behindAuth_handsOn (fun _ => hi₁.lookup_fresh (Nat.le_succ _) _) hl

/-- With a limit of one, after a signed-in user's request and an API-key request. -/
theorem api_key_requests_pass_limiter_limit_one :
    let s : Settings := { defaultLimit := 1 }
    let decodeJwt := acceptOne "eyJ0.eyJ1.c2ln" 1 2
    let route : Route := fun _ c => (.ok ⟨201, [], []⟩, c.db)
    let jwt : Arrival :=
      ⟨"GET", "/api/v1/campaigns", [("authorization", "Bearer eyJ0.eyJ1.c2ln")], 0, 0, true⟩
    let a : Arrival :=
      ⟨"POST", "/api/v1/messages", [("x-api-key", "0123456789abcdef0123456789abcdef")], 0, 0, true⟩
    let env : Env := ⟨[], true, 5, 0, 0, [], ⟨[], .nil, [], .nil⟩⟩
    1 ≤ s.defaultLimit ∧ Issued env ∧ JwtTenantsBelow decodeJwt env.nextUuid ∧ ApiKeyed s a ∧
      ∃ r handed,
        (resultState (serve (createApp s decodeJwt route) a
            (resultState (serveAll (createApp s decodeJwt route) [jwt, a] env)))).routeCalls =
          (resultState (serveAll (createApp s decodeJwt route) [jwt, a] env)).routeCalls ++
            r :: handed := by
  intro s decodeJwt route jwt a env
  have hi : Issued env := issued_of_nil rfl rfl
  have hj : JwtTenantsBelow decodeJwt env.nextUuid := jwtTenantsBelow_acceptOne (by decide) (by decide)
  have ha : ApiKeyed s a := ⟨by decide, "0123456789abcdef0123456789abcdef", by decide, by decide⟩
  exact ⟨le_refl 1, hi, hj, ha,
    api_key_requests_pass_limiter s decodeJwt route [jwt, a] a env (le_refl 1) hi hj ha⟩

/-- **A raising route runs twice.** With rate limiting enabled, an API-keyed request served after
any run `pre` (from a state whose tenants were all handed out, with tokens that carry only such
tenants, and a limit of one or more) reaches a route that always raises twice: the limiter's
fail-open `except` catches the first exception and calls `call_next` again. The answer is
authentication's `except` response to the second exception. -/
theorem raising_route_runs_twice (s : Settings)
    (decodeJwt : String → Except String AuthMiddleware.JwtPayload) (route : Route)
    (pre : List Arrival) (a : Arrival) (env : Env) (hr : s.rateLimitEnabled = true)
    (hl : 1 ≤ s.defaultLimit) (hi : Issued env) (hj : JwtTenantsBelow decodeJwt env.nextUuid)
    (ha : ApiKeyed s a) (hraise : ∀ r c, ∃ e, (route r c).1 = .error e) :
    ∃ e r₁ r₂ env' db,
      serve (createApp s decodeJwt route) a (resultState (serveAll (createApp s decodeJwt route) pre env)) =
        .ok (AuthMiddleware.exceptResponse e) env' ∧
      env'.routeCalls = (resultState (serveAll (createApp s decodeJwt route) pre env)).routeCalls ++ [r₁, r₂] ∧
      (route r₂ ⟨(resultState (serveAll (createApp s decodeJwt route) pre env)).routeCalls.length + 1,
        a.now, db⟩).1 = .error e := by
  have hi₁ := (issued_serveAll s decodeJwt route pre hi hj).1
  generalize resultState (serveAll (createApp s decodeJwt route) pre env) = env₁ at hi₁ ⊢
  obtain ⟨e, r₁, r₂, env', db, h, hc, he⟩ := behindAuth_raising hr a.request env₁.nextUuid
    { a.enter env₁ with nextUuid := env₁.nextUuid + 2 }
    (fun _ => hi₁.lookup_fresh (Nat.le_succ _) _) hl hraise
  rw [serve_apiKeyed ha, h]
  exact ⟨e, r₁, r₂, env', db, rfl, hc, he⟩

/-- The database is down, and a signed-in user's request came first. -/
theorem raising_route_runs_twice_database_down :
    let s : Settings := {}
    let decodeJwt := acceptOne "eyJ0.eyJ1.c2ln" 1 2
    let route : Route := fun _ c => (.error (.error "database unavailable"), c.db)
    let jwt : Arrival :=
      ⟨"GET", "/api/v1/campaigns", [("authorization", "Bearer eyJ0.eyJ1.c2ln")], 0, 0, true⟩
    let a : Arrival :=
      ⟨"POST", "/api/v1/messages", [("x-api-key", "0123456789abcdef0123456789abcdef")], 0, 0, true⟩
    let env : Env := ⟨[], true, 5, 0, 0, [], ⟨[], .nil, [], .nil⟩⟩
    s.rateLimitEnabled = true ∧ 1 ≤ s.defaultLimit ∧ Issued env ∧
      JwtTenantsBelow decodeJwt env.nextUuid ∧ ApiKeyed s a ∧ (∀ r c, ∃ e, (route r c).1 = .error e) ∧
      ∃ e r₁ r₂ env' db,
        serve (createApp s decodeJwt route) a
            (resultState (serveAll (createApp s decodeJwt route) [jwt] env)) =
          .ok (AuthMiddleware.exceptResponse e) env' ∧
        env'.routeCalls =
          (resultState (serveAll (createApp s decodeJwt route) [jwt] env)).routeCalls ++ [r₁, r₂] ∧
        (route r₂ ⟨(resultState (serveAll (createApp s decodeJwt route) [jwt] env)).routeCalls.length + 1,
          a.now, db⟩).1 = .error e := by
  intro s decodeJwt route jwt a env
  have hi : Issued env := issued_of_nil rfl rfl
  have hj : JwtTenantsBelow decodeJwt env.nextUuid := jwtTenantsBelow_acceptOne (by decide) (by decide)
  have ha : ApiKeyed s a := ⟨by decide, "0123456789abcdef0123456789abcdef", by decide, by decide⟩
  have hraise : ∀ r c, ∃ e, (route r c).1 = .error e := fun _ _ => ⟨_, rfl⟩
  exact ⟨rfl, by decide, hi, hj, ha, hraise,
    raising_route_runs_twice s decodeJwt route [jwt] a env rfl (by decide) hi hj ha hraise⟩

/-! ## A bearer token -/

/-- A request with no API key bearing a token `create_access_token` made for a user and a tenant
is authenticated, if at all, as that user and tenant — provided `jwt.decode` never gives a token
a payload other than the one it was signed with, and the token, as every JWT, has no space. -/
theorem authenticateRequest_token {encode : AuthMiddleware.JwtPayload → String}
    {decodeJwt : String → Except String AuthMiddleware.JwtPayload}
    (hdec : ∀ p q, decodeJwt (encode p) = .ok q → q = p) (hsp : ∀ p, ' ' ∉ (encode p).toList)
    {apiKeyHeader : String} {req : Request} {minutes issued : Int} {delta : Option Int}
    {userId tenantId : Nat} (hu : userId < 2 ^ 128) (ht : tenantId < 2 ^ 128)
    (hkey : (headerGet req.headers apiKeyHeader).filter (· != "") = none)
    (hauth : headerGet req.headers "Authorization" =
      some ("Bearer " ++ AuthMiddleware.createAccessToken encode minutes issued userId tenantId delta))
    {env env₁ : Env} {u t : Nat}
    (h : AuthMiddleware.authenticateRequest apiKeyHeader decodeJwt req env = .ok (u, t) env₁) :
    u = userId ∧ t = tenantId := by
  unfold AuthMiddleware.authenticateRequest at h
  rw [hkey, hauth] at h
  dsimp only at h
  generalize htok : AuthMiddleware.createAccessToken encode minutes issued userId tenantId delta = tok
    at h
  have hb : ("Bearer " ++ tok).toList = "Bearer ".toList ++ tok.toList := rfl
  have hs : ' ' ∉ tok.toList := htok ▸ hsp _
  rw [hb, if_pos (List.isPrefixOf_iff_prefix.2 (List.prefix_append _ _)),
    PyStr.replace_append_of_ne_nil (by decide), List.nil_append,
    PyStr.replace_of_not_mem (by decide) (show ' ' ∈ "Bearer ".toList by decide) hs] at h
  obtain ⟨-, payload, hd, ⟨utext, hsub, huu⟩, text, htx, htt⟩ := authenticateJwt_ok h
  rw [← htok] at hd
  cases hdec _ _ hd
  cases hsub
  cases htx
  exact ⟨((PyUuid.ofHex_str_eq_some hu).1 huu).symm, ((PyUuid.ofHex_str_eq_some ht).1 htt).symm⟩

variable {s : Settings} {decodeJwt : String → Except String AuthMiddleware.JwtPayload}
  {route : Route} in
/-- Authentication hands the layers behind it the request itself on an exempt path, and otherwise
the request authenticated as the user and tenant `_authenticate_request` gave. -/
theorem routeDrift_auth {Q : Request → Prop} {req : Request}
    (hx : AuthMiddleware.exempt req.path = true → Moves (routeDrift Q) (behindAuth s route req))
    (hc : ∀ u t env env₁, AuthMiddleware.exempt req.path = false →
      AuthMiddleware.authenticateRequest s.apiKeyHeader decodeJwt req env = .ok (u, t) env₁ →
      Moves (routeDrift Q) (behindAuth s route (AuthMiddleware.authenticated req u t))) :
    Moves (routeDrift Q) (AuthMiddleware.dispatch s.apiKeyHeader decodeJwt req (behindAuth s route)) := by
  intro env
  rw [AuthMiddleware.dispatch_apply]
  split
  · next he => exact hx he env
  · next he =>
    have ha := AuthMiddleware.moves_authenticateRequest (D := routeDrift Q) routeDrift_uuid4
      s.apiKeyHeader decodeJwt req env
    split
    · next u t env₁ h₁ =>
      rw [h₁] at ha
      have hb := hc u t env env₁ (by simpa using he) h₁ env₁
      split <;> next hr => rw [hr] at hb; exact (routeDrift Q).trans ha hb
    · next e env₁ h₁ =>
      rw [h₁] at ha
      exact ha

/-- **An access token names its tenant.** Over every run of the whole stack, a route handed a
request off the exempt paths that bears no API key and, after `Bearer `, a token
`create_access_token(user_id, tenant_id)` made for two UUIDs, sees `get_current_user` and
`get_current_tenant` answer that user and tenant: whenever it was issued and for however long,
the token either authenticates its bearer as them or is refused. `jwt.decode` is assumed never to
give a token a payload other than the one it was signed with, and `jwt.encode` to write no space,
as the three base64url parts of a JWT have none. -/
theorem access_token_names_its_tenant (s : Settings) {encode : AuthMiddleware.JwtPayload → String}
    {decodeJwt : String → Except String AuthMiddleware.JwtPayload}
    (hdec : ∀ p q, decodeJwt (encode p) = .ok q → q = p) (hsp : ∀ p, ' ' ∉ (encode p).toList)
    (route : Route) (arrivals : List Arrival) (env : Env) :
    ∃ handed, (resultState (serveAll (createApp s decodeJwt route) arrivals env)).routeCalls =
        env.routeCalls ++ handed ∧
      ∀ r ∈ handed, ∀ (minutes issued : Int) (delta : Option Int) (userId tenantId : Nat),
        userId < 2 ^ 128 → tenantId < 2 ^ 128 → AuthMiddleware.exempt r.path = false →
        (headerGet r.headers s.apiKeyHeader).filter (· != "") = none →
        headerGet r.headers "Authorization" = some ("Bearer " ++
          AuthMiddleware.createAccessToken encode minutes issued userId tenantId delta) →
        AuthMiddleware.getCurrentUser r = .ok userId ∧ AuthMiddleware.getCurrentTenant r = .ok tenantId := by
  refine moves_serveAll routeDrift_enter (fun a => ?_) arrivals env
  rw [createApp_eq]
  refine Starlette.moves_serverErrorMiddleware (TenancyMiddleware.moves_dispatch
    (fun _ => routeDrift_auth (fun hx => ?_) fun u t _ _ _ h₁ => ?_) fun _ ha _ => by cases ha)
  · refine Moves.routeDrift_mono (fun r ⟨hp, _⟩ _ _ _ _ _ _ _ hne => ?_)
      (routeDrift_behindAuth_same s route a.request)
    rw [hp, hx] at hne
    cases hne
  · refine Moves.routeDrift_mono (fun r ⟨_, hh, hu', ht'⟩ _ _ _ _ _ hu ht _ hkey hauth => ?_)
      (routeDrift_behindAuth_same s route _)
    rw [hh] at hkey hauth
    obtain ⟨rfl, rfl⟩ := authenticateRequest_token hdec hsp hu ht hkey hauth h₁
    exact ⟨hu', ht'⟩

theorem access_token_names_its_tenant_issued :
    let p₀ : AuthMiddleware.JwtPayload :=
      ⟨some (.str (PyUuid.str 1)), some (.str (PyUuid.str 2)), some 1800⟩
    let encode : AuthMiddleware.JwtPayload → String :=
      fun p => if p = p₀ then "eyJ0.eyJ1.c2ln" else "e30.e30.c2ln"
    let decodeJwt : String → Except String AuthMiddleware.JwtPayload :=
      fun tok => if tok = "eyJ0.eyJ1.c2ln" then .ok p₀ else .error "Signature verification failed"
    let s : Settings := {}
    let route : Route := fun _ c => (.ok ⟨200, [], []⟩, c.db)
    let a : Arrival := ⟨"GET", "/api/v1/campaigns",
      [("authorization", "Bearer " ++ AuthMiddleware.createAccessToken encode 30 0 1 2 none)], 0, 0, true⟩
    let env : Env := ⟨[], true, 0, 0, 0, [], ⟨[], .nil, [], .nil⟩⟩
    (∀ p q, decodeJwt (encode p) = .ok q → q = p) ∧ (∀ p, ' ' ∉ (encode p).toList) ∧
    ∃ handed, (resultState (serveAll (createApp s decodeJwt route) [a] env)).routeCalls =
        env.routeCalls ++ handed ∧
      ∀ r ∈ handed, ∀ (minutes issued : Int) (delta : Option Int) (userId tenantId : Nat),
        userId < 2 ^ 128 → tenantId < 2 ^ 128 → AuthMiddleware.exempt r.path = false →
        (headerGet r.headers s.apiKeyHeader).filter (· != "") = none →
        headerGet r.headers "Authorization" = some ("Bearer " ++
          AuthMiddleware.createAccessToken encode minutes issued userId tenantId delta) →
        AuthMiddleware.getCurrentUser r = .ok userId ∧ AuthMiddleware.getCurrentTenant r = .ok tenantId := by
  intro p₀ encode decodeJwt s route a env
  have hdec : ∀ p q, decodeJwt (encode p) = .ok q → q = p := fun p q h => by
    by_cases hp : p = p₀
    · simp only [encode, decodeJwt, hp, if_true, Except.ok.injEq] at h
      exact h.symm.trans hp.symm
    · simp [encode, decodeJwt, hp] at h
  have hsp : ∀ p, ' ' ∉ (encode p).toList := fun p => by
    by_cases hp : p = p₀ <;> simp only [encode, hp, if_true, if_false] <;> decide
  exact ⟨hdec, hsp, access_token_names_its_tenant s hdec hsp route [a] env⟩

end Api

end RcsMessaging
