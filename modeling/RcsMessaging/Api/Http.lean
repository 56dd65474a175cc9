import RcsMessaging.Domain.Template
import RcsMessaging.Domain.Audience
import RcsMessaging.Api.RateLimitMiddleware
import RcsMessaging.Python.Json

/-!
# `Api.Http` — requests, responses and Starlette's middleware stack

The API's middlewares (`api/middleware/*.py`) are `BaseHTTPMiddleware`s: each has a
`dispatch(request, call_next)` that may answer by itself or await `call_next(request)`, the rest of
the stack, and change its response. This file gives what they share:

* a `Request` with its `request.state` (`RequestState`: an attribute never set is `none`, and
  `hasattr` is false of it), a `Response` with the JSON body the middlewares write, and the
  exceptions that travel up the stack (`Raised`);
* the state one request's processing reads and changes (`Env`): the rate limiter's Redis sets,
  the `uuid4()` supply, the clock, every request the routes are handed, and the database;
* Starlette's assembly of the stack: `add_middleware` puts each new middleware in front of the
  list, and `build_middleware_stack` makes the first of the list the outermost, under the
  `ServerErrorMiddleware` that turns an exception no middleware caught into the app's
  `Exception` handler's response;
* `Moves`: what an awaited computation may do to the state, with one lemma per way of composing
  them, so that each invariant of the stack is proved once per middleware.
-/

namespace RcsMessaging

namespace Http

open RateLimitMiddleware

/-- The attributes the middlewares set on `request.state`; `none` is one never set. -/
structure RequestState where
  requestId : Option String := none
  correlationId : Option String := none
  userId : Option Nat := none
  tenantId : Option Nat := none
  authenticated : Option Bool := none
  /-- `{"tenant_id": tenant_id, "isolation_enabled": True}`, kept as its tenant. -/
  tenantContext : Option Nat := none
  deriving DecidableEq, Repr

/-- A request as the middlewares read it: header names in lower case, as the ASGI server hands
them. -/
structure Request where
  method : String
  path : String
  headers : List (String × String)
  state : RequestState := {}
  deriving DecidableEq, Repr

/-- A value in a JSON body: a string or an integer, or any other Python object as `json` writes
it (a list of items, a nested dict, `None`). -/
inductive BodyValue
  | str (s : String)
  | int (i : Int)
  | json (v : PyJson)
  deriving DecidableEq, Repr

/-- A response: status, JSON body and headers. -/
structure Response where
  statusCode : Nat
  content : List (String × BodyValue)
  headers : List (String × String)
  deriving DecidableEq, Repr

/-- An exception on its way up: `HTTPException(status_code, detail)`, or any other, with its
`str`. -/
inductive Raised
  | httpException (statusCode : Nat) (detail : String)
  | error (text : String)
  deriving DecidableEq, Repr

/-- `str(exc)`: Starlette's `HTTPException` prints as `"{status_code}: {detail}"`. -/
def Raised.text : Raised → String
  | .httpException code detail => toString code ++ ": " ++ detail
  | .error text => text

/-- A row of the `templates` table (`TemplateModel`): the columns `get_template_or_404` reads and
the template routes write. -/
structure TemplateRow where
  id : Nat
  tenantId : Nat
  name : String
  content : String
  status : TemplateStatus
  category : Option String
  /-- The `variables` column (`variables` is a keyword of Lean). -/
  vars : List TemplateVariable
  /-- The JSON dict of the rich card, its values strings or `None`; `none` is SQL `NULL`. -/
  richCardTemplate : Option (List (String × Option String))
  /-- The JSON list of suggestion dicts. -/
  suggestionsTemplate : List (List (String × String))
  createdAt : Nat
  updatedAt : Nat
  deriving DecidableEq, Repr

/-- A row of the `audiences` table (`AudienceModel`): the columns `get_audience_or_404` reads
and `save_audience` writes; each stored contact is its `phone_number` and `metadata`. The routes
always write a list to `tags`, so the column is never `NULL` here. -/
structure AudienceRow where
  id : Nat
  tenantId : Nat
  name : String
  audienceType : AudienceType
  status : AudienceStatus
  contacts : List (String × List (String × String))
  totalContacts : Nat
  validContacts : Nat
  invalidContacts : Nat
  createdAt : Nat
  updatedAt : Nat
  description : Option String
  tags : List String
  query : Option PyJson
  lastUsedAt : Option Nat
  deriving DecidableEq, Repr

/-- The database the routes read and write: the `templates` and `audiences` tables, in each of
which no two rows share the primary key `id`. -/
structure Db where
  templates : List TemplateRow
  idsNodup : (templates.map (·.id)).Nodup
  audiences : List AudienceRow
  audienceIdsNodup : (audiences.map (·.id)).Nodup

/-- What serving a request reads and changes besides the request: the rate limiter's Redis
sorted sets by key, whether Redis answers, the next UUID `uuid4()` hands out, the clock reading and
`id(key)` of the request being served, every request the routes were handed so far, and the
database. -/
structure Env where
  store : List (String × ZSet)
  redisUp : Bool
  nextUuid : Nat
  now : Int
  keyId : Nat
  routeCalls : List Request
  db : Db

/-- An awaited computation of a middleware: it returns or raises, and its changes to the state
stay either way. -/
abbrev M := EStateM Raised Env

/-- An ASGI app as a middleware sees it, `call_next` included. -/
abbrev App := Request → M Response

/-- `dispatch(request, call_next)`. -/
abbrev Dispatch := Request → App → M Response

/-- `uuid4()`: a UUID no call before handed out. -/
def uuid4 : M Nat := fun env => .ok env.nextUuid { env with nextUuid := env.nextUuid + 1 }

/-- `str.lower()` on a header name (ASCII). -/
def lower (s : String) : String := ⟨s.toList.map Char.toLower⟩

/-- `request.headers.get(key)`: the first header of that name, compared in lower case. -/
def headerGet (headers : List (String × String)) (key : String) : Option String :=
  headers.lookup (lower key)

/-- The first header named `k` takes `v`, the later ones named `k` go. -/
def replaceHeader (k v : String) : List (String × String) → List (String × String)
  | [] => []
  | h :: t => if h.1 = k then (k, v) :: t.filter (·.1 != k) else h :: replaceHeader k v t

/-- `response.headers[key] = value` (`MutableHeaders.__setitem__`): the name in lower case; an
existing header of that name is replaced, or the header is appended. -/
def setHeader (headers : List (String × String)) (key value : String) : List (String × String) :=
  if headers.any (·.1 == lower key) then replaceHeader (lower key) value headers
  else headers ++ [(lower key, value)]

/-- `JSONResponse(status_code, content, headers)`; the `content-length` and `content-type` it
adds are left out. -/
def jsonResponse (statusCode : Nat) (content : List (String × BodyValue))
    (headers : List (String × String)) : Response :=
  ⟨statusCode, content, headers.map fun h => (lower h.1, h.2)⟩

/-- What a route sees besides the request: the number of route calls before it, the clock, and
the database. -/
structure RouteCtx where
  calls : Nat
  now : Int
  db : Db

/-- What lies inside the middlewares (`CORSMiddleware`, the exception middleware, the router and
its endpoints): a response, or an exception none of it handles, and the database it leaves. -/
abbrev Route := Request → RouteCtx → Except Raised Response × Db

/-- The innermost app: the request is handed to the route. -/
def callRoute (route : Route) : App := fun req env =>
  let out := route req ⟨env.routeCalls.length, env.now, env.db⟩
  let env' := { env with routeCalls := env.routeCalls ++ [req], db := out.2 }
  match out.1 with
  | .ok r => .ok r env'
  | .error e => .error e env'

namespace Starlette

/-- `app.add_middleware(cls)`: `user_middleware.insert(0, Middleware(cls))`. -/
def addMiddleware (userMiddleware : List Dispatch) (m : Dispatch) : List Dispatch :=
  m :: userMiddleware

/-- `build_middleware_stack` from `user_middleware`: the first is the outermost, and each calls
its `dispatch` with the rest of the stack as `call_next`. -/
def buildMiddlewareStack : List Dispatch → App → App
  | [], app => app
  | m :: ms, app => fun req => m req (buildMiddlewareStack ms app)

/-- `global_exception_handler(request, exc)` of `create_app`. -/
def globalExceptionHandler (debug : Bool) (e : Raised) : Response :=
  jsonResponse 500 [("error", .str "Internal server error"),
    ("detail", .str (if debug then e.text else "An error occurred"))] []

/-- `ServerErrorMiddleware` with that handler: an exception that reaches it becomes the handler's
response (and is raised again to the server only after the response is sent). -/
def serverErrorMiddleware (debug : Bool) (app : App) : App := fun req =>
  tryCatch (app req) fun e => pure (globalExceptionHandler debug e)

end Starlette

/-! ## Evaluating an awaited computation -/

section Apply

variable {α β : Type} {env : Env}

@[simp] theorem bind_apply (x : M α) (f : α → M β) :
    (x >>= f) env = match x env with
      | .ok a env' => f a env'
      | .error e env' => .error e env' := by
  cases hx : x env <;> simp [bind, EStateM.bind, hx]

@[simp] theorem tryCatch_apply (x : M α) (h : Raised → M α) :
    tryCatch x h env = match x env with
      | .ok a env' => .ok a env'
      | .error e env' => h e env' := by
  cases hx : x env <;> simp [tryCatch, tryCatchThe, MonadExceptOf.tryCatch, EStateM.tryCatch, hx,
    EStateM.Backtrackable.restore, EStateM.dummyRestore]

@[simp] theorem pure_apply (a : α) : (pure a : M α) env = .ok a env := rfl

@[simp] theorem throw_apply (e : Raised) : (throw e : M α) env = .error e env := rfl

@[simp] theorem get_apply : (get : M Env) env = .ok env env := rfl

@[simp] theorem uuid4_apply : uuid4 env = .ok env.nextUuid { env with nextUuid := env.nextUuid + 1 } :=
  rfl

@[simp] theorem resultState_ok' (a : α) (s : Env) :
    resultState (EStateM.Result.ok a s : EStateM.Result Raised Env α) = s := rfl

@[simp] theorem resultState_error' (e : Raised) (s : Env) :
    resultState (EStateM.Result.error e s : EStateM.Result Raised Env α) = s := rfl

end Apply

/-! ## Headers -/

theorem lookup_filter_of_ne {k k' : String} (h : k' ≠ k) (l : List (String × String)) :
    (l.filter (·.1 != k)).lookup k' = l.lookup k' := by
  induction l with
  | nil => rfl
  | cons p l ih =>
    obtain ⟨c, d⟩ := p
    by_cases hc : c = k
    · subst hc; simp [List.lookup_cons, beq_false_of_ne h, ih]
    · simp [List.lookup_cons, hc, ih]

theorem lookup_replaceHeader_of_ne {k k' v : String} (h : k' ≠ k) :
    ∀ hs : List (String × String), (replaceHeader k v hs).lookup k' = hs.lookup k'
  | [] => rfl
  | (a, b) :: t => by
    by_cases ha : a = k
    · subst ha; simp [replaceHeader, List.lookup_cons, beq_false_of_ne h, lookup_filter_of_ne h]
    · simp [replaceHeader, List.lookup_cons, ha, lookup_replaceHeader_of_ne h t]

/-- Setting one header leaves the others as they were. -/
theorem lookup_setHeader_of_ne {hs : List (String × String)} {key value k' : String}
    (h : k' ≠ lower key) : (setHeader hs key value).lookup k' = hs.lookup k' := by
  unfold setHeader
  split
  · exact lookup_replaceHeader_of_ne h hs
  · induction hs with
    | nil => simp [List.lookup_cons, beq_false_of_ne h]
    | cons p t ih =>
      obtain ⟨a, b⟩ := p
      rw [List.cons_append, List.lookup_cons, List.lookup_cons, ih (by simp_all)]

/-! ## What an awaited computation does to the state -/

/-- A way the state may move while a request is served: reflexive and transitive, so that it
composes along the awaits of a handler. -/
structure Drift where
  rel : Env → Env → Prop
  refl : ∀ e, rel e e
  trans : ∀ {a b c}, rel a b → rel b c → rel a c

/-- `x` moves the state only along `D`, whether it returns or raises. -/
def Moves (D : Drift) {α : Type} (x : M α) : Prop := ∀ env, D.rel env (resultState (x env))

section Moves

variable {D : Drift} {α β : Type}

theorem moves_pure (a : α) : Moves D (pure a : M α) := fun env => D.refl env

theorem moves_throw (e : Raised) : Moves D (throw e : M α) := fun env => D.refl env

theorem moves_get_bind {f : Env → M α} (hf : ∀ env, Moves D (f env)) : Moves D (get >>= f) :=
  fun env => hf env env

theorem moves_bind {x : M α} {f : α → M β} (hx : Moves D x) (hf : ∀ a, Moves D (f a)) :
    Moves D (x >>= f) := by
  intro env
  have h := hx env
  rw [bind_apply]
  cases hxe : x env with
  | ok a env' => rw [hxe] at h; exact D.trans h (hf a env')
  | error e env' => rw [hxe] at h; exact h

theorem moves_tryCatch {x : M α} {h : Raised → M α} (hx : Moves D x)
    (hh : ∀ e, Moves D (h e)) : Moves D (tryCatch x h) := by
  intro env
  have h1 := hx env
  rw [tryCatch_apply]
  cases hxe : x env with
  | ok a env' => rw [hxe] at h1; exact h1
  | error e env' => rw [hxe] at h1; exact D.trans h1 (hh e env')

theorem moves_ite {p : Prop} [Decidable p] {x y : M α} (hx : p → Moves D x)
    (hy : ¬p → Moves D y) : Moves D (if p then x else y) := by
  by_cases hp : p
  · rw [if_pos hp]; exact hx hp
  · rw [if_neg hp]; exact hy hp

end Moves

end Http

end RcsMessaging
