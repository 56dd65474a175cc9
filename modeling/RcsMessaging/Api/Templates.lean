import Mathlib.Data.List.Sort
import RcsMessaging.Api.App

/-!
# `Api.Templates` — the template routes

`api/routes/v1/templates.py`, under the prefix `/api/v1`: `POST /templates` (`create_template`),
`GET /templates` (`list_templates`), `GET /templates/{template_id}` (`get_template`),
`POST /templates/{template_id}/submit` (`submit_for_approval`),
`POST /templates/{template_id}/preview` (`preview_template`) and
`DELETE /templates/{template_id}` (`delete_template`), with FastAPI's handling around them. Each
endpoint first resolves its dependencies — `get_current_tenant`, then its path, query and body
parameters as pydantic validates them — and then runs on its own database session, whose
statements reach the database only at `session.commit()`.

Three facts of the source decide what these routes can do. `get_template_or_404` builds the
domain `Template` with no variables and appends the row's only afterwards, so
`_validate_template`, run by the constructor, rejects every content with a placeholder; and it
puts a `RichCard` and `SuggestedAction`s where `render` expects dicts. `TemplateStatus`
subclasses `str` without being an `Enum`, so `template.status.value` raises `AttributeError`;
`create_template`, `get_template` and `submit_for_approval` evaluate it before they answer or
write anything. And `create_template` calls `set_rich_card` with a keyword it does not take, and
`add_suggestion` without its first argument.

## Contents
- `Session`, `getTemplateOr404`, the six endpoints, `runEndpoint` (dependencies, validation,
  session, `HTTPException` handling) and `templatesRoute`, the router with every other route of
  the application left to a parameter.
- What each endpoint commits: nothing, but for `delete_template`, which removes a draft of the
  request's tenant (`deleteTemplate_committed`); `templatesRoute_db` for the router.
- `previewTemplate_apply`: a preview answers only for a template with no placeholder, no rich card
  and no suggestion.
- **`status_value_routes_never_succeed`**: over the whole stack, creating, reading or submitting
  a template is answered only with 401, 404, 422, 429 or 500, and leaves the database as it was.
- **`template_rows_leave_only_by_delete`**: over every run of requests, the table only loses
  rows, each a draft that a `DELETE` naming its id removed for its own tenant.
-/

namespace RcsMessaging

/-- The `str` each constant of `TemplateStatus` is, as the `status` column holds it. -/
def TemplateStatus.str : TemplateStatus → String
  | .draft => "draft"
  | .pendingApproval => "pending_approval"
  | .approved => "approved"
  | .rejected => "rejected"
  | .archived => "archived"

namespace Api

open Http

namespace Templates

/-! ## The session and the statements -/

/-- An `AsyncSession` of one request: the database as committed, and as the session's own
statements have left it. -/
structure Session where
  committed : Db
  working : Db

/-- What an endpoint awaits on its session. -/
abbrev SessionM := EStateM Raised Session

theorem Session.bind_apply {α β : Type} (x : SessionM α) (f : α → SessionM β) (s : Session) :
    (x >>= f) s = match x s with
      | .ok a s' => f a s'
      | .error e s' => .error e s' := by
  cases hx : x s <;> simp [bind, EStateM.bind, hx]

/-- `select(TemplateModel).where(TemplateModel.id == template_id,
TemplateModel.tenant_id == tenant_id)`. -/
def selectTemplate (templateId tenantId : Nat) (db : Db) : List TemplateRow :=
  db.templates.filter fun row => row.id == templateId && row.tenantId == tenantId

/-- `delete(TemplateModel).where(TemplateModel.id == template_id)` run on `db`. -/
def deleteWhereId (templateId : Nat) (db : Db) : Db :=
  { db with
    templates := db.templates.filter (·.id != templateId)
    idsNodup := List.Nodup.sublist ((List.filter_sublist db.templates).map _) db.idsNodup }

/-- `update(TemplateModel).where(TemplateModel.id == template_id).values(status, updated_at)` run
on `db`. -/
def updateWhereId (templateId : Nat) (status : TemplateStatus) (now : Nat) (db : Db) : Db :=
  { db with
    templates := db.templates.map fun row =>
      if row.id = templateId then { row with status := status, updatedAt := now } else row
    idsNodup := by
      rw [List.map_map]
      convert db.idsNodup using 2
      funext row
      simp only [Function.comp_apply]
      split <;> rfl }

/-- `await session.execute(stmt)` for a statement that changes the table. -/
def execute (stmt : Db → Db) : SessionM Unit := fun s => .ok () { s with working := stmt s.working }

/-- `await session.commit()`. -/
def commit : SessionM Unit := fun s => .ok () { s with committed := s.working }

/-- `session.add(model)` of a new row, inserted when the session flushes: a row whose `id` is
taken is refused by the primary key. -/
def addTemplate (row : TemplateRow) : SessionM Unit := fun s =>
  if h : row.id ∈ s.working.templates.map (·.id) then
    .error (.error "IntegrityError: duplicate key value violates unique constraint") s
  else .ok () { s with
    working := { s.working with
      templates := s.working.templates ++ [row]
      idsNodup := by
        rw [List.map_append]
        exact List.nodup_append.2 ⟨s.working.idsNodup, List.nodup_singleton _,
          fun _ hx hy => h (by rw [List.mem_singleton.1 hy] at hx; exact hx)⟩ } }

/-- `stmt.order_by(created_at.desc()).limit(limit).offset(offset)` on the rows selected: PostgreSQL
refuses a negative `OFFSET`, then a negative `LIMIT`; rows with the same `created_at` keep the
table's order. -/
def page {α : Type} (createdAt : α → Nat) (limit offset : Int) (rows : List α) :
    Except String (List α) :=
  if offset < 0 then .error "OFFSET must not be negative"
  else if limit < 0 then .error "LIMIT must not be negative"
  else .ok (((rows.insertionSort fun a b => createdAt b ≤ createdAt a).drop offset.toNat).take
    limit.toNat)

/-! ## The endpoints -/

/-- `RichCard(title=d["title"], ...)` of `get_template_or_404`, built only when the column's dict
is truthy: a dict without `"title"` raises `KeyError`. -/
def loadRichCard : Option (List (String × Option String)) →
    Except Exn (Option (List (String × Option String)))
  | some d@(_ :: _) => if d.any (·.1 == "title") then .ok (some d) else .error (.other "'title'")
  | _ => .ok none

/-- `SuggestedAction(type=d["type"], text=d["text"], ...)` of `get_template_or_404`. -/
def loadSuggestion (d : List (String × String)) : Except Exn (List (String × String)) :=
  if !d.any (·.1 == "type") then .error (.other "'type'")
  else if !d.any (·.1 == "text") then .error (.other "'text'")
  else .ok d

/-- The part of `get_template_or_404` after the query: `Template(...)` from the row's columns,
with no variables, then the row's variables appended, then its rich card and suggestions, which
stand here for the `RichCard` and `SuggestedAction` objects built from them. -/
def templateOfRow (row : TemplateRow) : Except Exn Template := do
  let t ← Template.init row.id row.tenantId row.name row.content row.status [] none [] row.updatedAt
  let card ← loadRichCard row.richCardTemplate
  let suggestions ← row.suggestionsTemplate.mapM loadSuggestion
  pure { t with
    vars := t.vars ++ row.vars
    richCardTemplate := card
    suggestionsTemplate := suggestions
    accepted := validateTemplate_append t.accepted row.vars }

/-- `get_template_or_404(template_id, tenant_id, session)`: `scalar_one_or_none()` of the query,
then the domain object; a `ValueError` or `KeyError` of its construction goes up as it is. -/
def getTemplateOr404 (templateId tenantId : Nat) : SessionM Template := fun s =>
  match selectTemplate templateId tenantId s.working with
  | [] => .error (.httpException 404 "Template not found") s
  | [row] =>
    match templateOfRow row with
    | .ok t => .ok t s
    | .error e => .error (.error e.text) s
  | _ :: _ :: _ => .error (.error "Multiple rows were found when one or none was required") s

/-- `status.value` on a template's status. `TemplateStatus` subclasses `str` and is no `Enum`, so
no status has a `value`: the lookup raises `AttributeError`, naming the status's class —
`TemplateStatus` as `get_template_or_404` builds it, `str` once a method has assigned one of the
class's constants. -/
def statusValue (cls : String) : SessionM String :=
  throw (.error ("'" ++ cls ++ "' object has no attribute 'value'"))

/-- `TemplateResponse(...)` as the endpoints build it, with the fields of `Template` the model
keeps; `status` is the `template.status.value` computed for it. -/
def templateResponse (t : Template) (status : String) : Response :=
  jsonResponse 200 [("id", .str (PyUuid.str t.id)), ("tenant_id", .str (PyUuid.str t.tenantId)),
    ("name", .str t.name), ("status", .str status), ("content", .str t.content)] []

/-- The body of `POST /templates` as pydantic validates it (`CreateTemplateRequest`), with
`description`, `language` and `tags`, which no modelled column keeps, left out. Of the rich card
and the suggestions only whether there are any: `create_template` raises on the first call it
makes with them, before it reads anything else of them. -/
structure CreateTemplateRequest where
  name : String
  content : String
  category : Option String
  /-- `variables` (a keyword of Lean), each as `TemplateVariable(...)` builds it. -/
  vars : List TemplateVariable
  hasRichCard : Bool
  hasSuggestions : Bool
  deriving DecidableEq, Repr

/-- `create_template(request, tenant_id, session)`; `newId` is `uuid4()` and `now` the clock.
`set_rich_card` takes no `media_type`, and `add_suggestion`'s first parameter is
`suggestion_type`, which the call passes as `type`. -/
def createTemplate (newId now : Nat) (body : CreateTemplateRequest) (tenantId : Nat) :
    SessionM Response := do
  let t ← match Template.create newId tenantId body.name body.content
      (body.vars.map (·.name)) now with
    | .ok t => pure t
    | .error e => throw (.error e.text)
  if body.hasRichCard then
    throw (.error "Template.set_rich_card() got an unexpected keyword argument 'media_type'")
  if body.hasSuggestions then throw (.error
    "Template.add_suggestion() missing 1 required positional argument: 'suggestion_type'")
  let _ ← statusValue "str"
  addTemplate ⟨t.id, t.tenantId, t.name, t.content, t.status, body.category, body.vars,
    none, [], now, now⟩
  commit
  let status ← statusValue "str"
  pure { templateResponse t status with statusCode := 201 }

/-- The query parameters of `GET /templates`, with their defaults. -/
structure ListQuery where
  limit : Int := 100
  offset : Int := 0
  status : Option String := none
  category : Option String := none
  deriving DecidableEq, Repr

/-- `TemplateResponse(...)` of a row as `list_templates` builds it, with the columns the model
keeps. -/
def templateItem (row : TemplateRow) : PyJson :=
  .dict [(Codecs.text "id", .str (Codecs.text (PyUuid.str row.id))),
    (Codecs.text "tenant_id", .str (Codecs.text (PyUuid.str row.tenantId))),
    (Codecs.text "name", .str (Codecs.text row.name)),
    (Codecs.text "status", .str (Codecs.text row.status.str)),
    (Codecs.text "content", .str (Codecs.text row.content)),
    (Codecs.text "category", (row.category.map fun c => PyJson.str (Codecs.text c)).getD .null)]

/-- The rows `list_templates` selects: the tenant's, with the given `status` and `category` when
these are truthy. -/
def selectTemplates (q : ListQuery) (tenantId : Nat) (db : Db) : List TemplateRow :=
  db.templates.filter fun row => row.tenantId == tenantId &&
    (!truthy q.status || some row.status.str == q.status) &&
    (!truthy q.category || row.category == q.category)

/-- `list_templates(limit, offset, status, category, tenant_id, session)`: `total` counts the
rows selected, `items` is the page. -/
def listTemplates (q : ListQuery) (tenantId : Nat) : SessionM Response := fun s =>
  let rows := selectTemplates q tenantId s.working
  match page (·.createdAt) q.limit q.offset rows with
  | .ok items => .ok (jsonResponse 200 [("items", .json (.list (items.map templateItem))),
      ("total", .int rows.length), ("limit", .int q.limit), ("offset", .int q.offset)] []) s
  | .error e => .error (.error e) s

/-- `get_template(template_id, tenant_id, session)`. -/
def getTemplate (templateId tenantId : Nat) : SessionM Response := do
  let t ← getTemplateOr404 templateId tenantId
  let status ← statusValue "TemplateStatus"
  pure (templateResponse t status)

/-- `submit_for_approval(template_id, tenant_id, session)` at `now`: the domain method, then the
`UPDATE` with the status's `value` and the commit, then the response. -/
def submitForApproval (now templateId tenantId : Nat) : SessionM Response := do
  let t ← getTemplateOr404 templateId tenantId
  let t ← match Template.submitForApproval now t with
    | .ok () t' => pure t'
    | .error e _ => throw (.error e.text)
  let _ ← statusValue "str"
  execute (updateWhereId templateId t.status now)
  commit
  let status ← statusValue "str"
  pure (templateResponse t status)

section Preview

variable (reMatch : String → String → Bool)

/-- `template.render(variable_values)` on a template `get_template_or_404` built: the steps of
`render`, where the `RichCard` and the `SuggestedAction`s meet the dict methods
`_render_rich_card` and `_render_suggestions` call on them. -/
def renderLoaded (values : VariableValues) (t : Template) : Except Exn String := do
  validateVariables values t.vars
  let text ← substituteVariables reMatch values t.content.toList t.vars
  if t.richCardTemplate.isSome then
    throw (.attributeError "'RichCard' object has no attribute 'get'")
  if !t.suggestionsTemplate.isEmpty then
    throw (.attributeError "'SuggestedAction' object has no attribute 'items'")
  pure (String.mk text)

/-- `preview_template(template_id, preview_request, tenant_id, session)`. What `renderLoaded`
returns has no card and no suggestions, so the answer's `rich_card` is `None` and its
`suggestions` empty. -/
def previewTemplate (values : VariableValues) (templateId tenantId : Nat) :
    SessionM Response := do
  let t ← getTemplateOr404 templateId tenantId
  match renderLoaded reMatch values t with
  | .ok text => pure (jsonResponse 200 [("text", .str text), ("rich_card", .json .null),
      ("suggestions", .json (.list []))] [])
  | .error (.valueError msg) => throw (.httpException 400 msg)
  | .error e => throw (.error e.text)

end Preview

/-- `delete_template(template_id, tenant_id, session)`: a 204 with no body. -/
def deleteTemplate (templateId tenantId : Nat) : SessionM Response := do
  let t ← getTemplateOr404 templateId tenantId
  if t.status ≠ .draft then throw (.httpException 400 "Only draft templates can be deleted")
  execute (deleteWhereId templateId)
  commit
  pure ⟨204, [], []⟩

/-! ## FastAPI around the endpoints -/

/-- FastAPI's `http_exception_handler`: `{"detail": exc.detail}` with the exception's status. -/
def httpExceptionHandler (statusCode : Nat) (detail : String) : Response :=
  jsonResponse statusCode [("detail", .str detail)] []

/-- FastAPI's `request_validation_exception_handler`: a 422; the list of errors it writes under
`detail` is left out. -/
def validationErrorResponse : Response := jsonResponse 422 [] []

/-- `ExceptionMiddleware` around the router: an `HTTPException` becomes its handler's answer; any
other exception goes on up the stack. -/
def handleHttpException : Except Raised Response → Except Raised Response
  | .error (.httpException code detail) => .ok (httpExceptionHandler code detail)
  | out => out

/-- An endpoint as FastAPI runs it on `db`: the dependency `get_current_tenant` first, then the
request's parameters as pydantic validates them (`params`: the path's ids, the query and the
body; `none` when one fails), then the endpoint on a new session. The database keeps what the
session committed. -/
def runEndpoint {β : Type} (params : Option β) (endpoint : β → Nat → SessionM Response)
    (req : Request) (db : Db) : Except Raised Response × Db :=
  match AuthMiddleware.getCurrentTenant req with
  | .error e => (handleHttpException (.error e), db)
  | .ok tenantId =>
    match params with
    | none => (.ok validationErrorResponse, db)
    | some p =>
      match endpoint p tenantId ⟨db, db⟩ with
      | .ok r s => (.ok r, s.committed)
      | .error e s => (handleHttpException (.error e), s.committed)

/-- The segment that Starlette's route `pre ++ "{id}" ++ suffix` matches as its path parameter:
a parameter compiles to `[^/]+`, one non-empty segment. -/
def matchPathParam (pre suffix path : String) : Option String :=
  if pre.toList.isPrefixOf path.toList then
    let rest := path.toList.drop pre.length
    let segment := rest.takeWhile (· != '/')
    if !segment.isEmpty && rest.drop segment.length = suffix.toList then some ⟨segment⟩ else none
  else none

/-- The `template_id` of `/api/v1/templates/{template_id}` followed by `suffix`. -/
def matchTemplatePath (suffix path : String) : Option String :=
  matchPathParam "/api/v1/templates/" suffix path

/-- What FastAPI reads from a request besides its path and headers: a path segment validated as a
`UUID`, the query of `list_templates` and the bodies of the endpoints that take one; `none` is
what pydantic rejects. -/
structure Parsers where
  uuid : String → Option Nat
  createBody : Request → Option CreateTemplateRequest
  listQuery : Request → Option ListQuery
  previewBody : Request → Option VariableValues

/-- The application's routes with the template routes in front; `newId` is `uuid4()` as
`Template.create` draws it, `reMatch` is `re.match`, and `other` stands for every other route of
the application, FastAPI's 404 and 405 included. `CORSMiddleware`, which for these methods only
adds headers to the answer, is left out. -/
def templatesRoute (p : Parsers) (newId : Request → RouteCtx → Nat)
    (reMatch : String → String → Bool) (other : Route) : Route := fun req c =>
  let now := c.now.toNat
  if req.path = "/api/v1/templates" ∧ req.method = "POST" then
    runEndpoint (p.createBody req) (createTemplate (newId req c) now) req c.db
  else if req.path = "/api/v1/templates" ∧ req.method = "GET" then
    runEndpoint (p.listQuery req) listTemplates req c.db
  else match matchTemplatePath "" req.path with
  | some id =>
    if req.method = "GET" then runEndpoint (p.uuid id) getTemplate req c.db
    else if req.method = "DELETE" then runEndpoint (p.uuid id) deleteTemplate req c.db
    else other req c
  | none =>
  match matchTemplatePath "/submit" req.path with
  | some id =>
    if req.method = "POST" then runEndpoint (p.uuid id) (submitForApproval now) req c.db
    else other req c
  | none =>
  match matchTemplatePath "/preview" req.path with
  | some id =>
    if req.method = "POST" then
      runEndpoint ((p.uuid id).bind fun i => (p.previewBody req).map (i, ·))
        (fun q => previewTemplate reMatch q.2 q.1) req c.db
    else other req c
  | none => other req c

/-! ## What each endpoint does -/

theorem loadRichCard_ok {d c : Option (List (String × Option String))} (h : loadRichCard d = .ok c) :
    c = none ↔ d = none ∨ d = some [] := by
  unfold loadRichCard at h
  split at h
  · split at h <;> cases h
    exact ⟨nofun, by rintro (h | h) <;> cases h⟩
  · next hd =>
    cases h
    refine ⟨fun _ => ?_, fun _ => rfl⟩
    rcases d with _ | _ | ⟨x, l⟩
    · exact .inl rfl
    · exact .inr rfl
    · exact absurd rfl (hd x l)

theorem loadSuggestion_ok {d d' : List (String × String)} (h : loadSuggestion d = .ok d') :
    d' = d := by
  unfold loadSuggestion at h
  split at h
  · cases h
  split at h <;> cases h
  rfl

theorem mapM_loadSuggestion_ok : ∀ {l l' : List (List (String × String))},
    l.mapM loadSuggestion = .ok l' → l' = l
  | [], l', h => by cases h; rfl
  | d :: l, l', h => by
    rw [List.mapM_cons] at h
    cases hd : loadSuggestion d with
    | error e => rw [hd] at h; cases h
    | ok d' =>
      cases hl : l.mapM loadSuggestion with
      | error e => rw [hd, hl] at h; cases h
      | ok l'' =>
        rw [hd, hl] at h
        cases h
        rw [loadSuggestion_ok hd, mapM_loadSuggestion_ok hl]

/-- What `get_template_or_404` builds from a row: its status, content and variables, from a
content with no placeholder (the constructor saw no variables), with a card and suggestions
exactly when the row's columns have them. -/
theorem templateOfRow_ok {row : TemplateRow} {t : Template} (h : templateOfRow row = .ok t) :
    t.status = row.status ∧ t.content = row.content ∧ t.vars = row.vars ∧
      (validateTemplate row.content []).isOk = true ∧
      (t.richCardTemplate = none ↔ row.richCardTemplate = none ∨ row.richCardTemplate = some []) ∧
      t.suggestionsTemplate = row.suggestionsTemplate := by
  unfold templateOfRow at h
  cases hi : Template.init row.id row.tenantId row.name row.content row.status [] none [] row.updatedAt with
  | error e => rw [hi] at h; cases h
  | ok t₀ =>
    have h₀ : t₀.status = row.status ∧ t₀.content = row.content ∧ t₀.vars = [] := by
      unfold Template.init at hi
      split at hi <;> cases hi
      exact ⟨rfl, rfl, rfl⟩
    have hacc := t₀.accepted
    rw [h₀.2.1, h₀.2.2] at hacc
    cases hc : loadRichCard row.richCardTemplate with
    | error e => rw [hi] at h; simp only [hc] at h; cases h
    | ok c =>
      cases hs : row.suggestionsTemplate.mapM loadSuggestion with
      | error e => rw [hi] at h; simp only [hc, hs] at h; cases h
      | ok l =>
        rw [hi] at h
        simp only [hc, hs] at h
        cases h
        refine ⟨h₀.1, h₀.2.1, ?_, hacc, loadRichCard_ok hc, mapM_loadSuggestion_ok hs⟩
        show t₀.vars ++ row.vars = row.vars
        rw [h₀.2.2, List.nil_append]

/-- `get_template_or_404` changes nothing; it returns the template of the one row the query
selects, or raises the 404 or an exception that is no `HTTPException`. -/
theorem getTemplateOr404_apply (templateId tenantId : Nat) (s : Session) :
    (∃ t row, getTemplateOr404 templateId tenantId s = .ok t s ∧
      selectTemplate templateId tenantId s.working = [row] ∧ templateOfRow row = .ok t) ∨
    ∃ e, getTemplateOr404 templateId tenantId s = .error e s ∧ CodeIn (· = 404) (.error e) := by
  unfold getTemplateOr404
  split
  · exact .inr ⟨_, rfl, rfl⟩
  · next row hsel =>
    cases ht : templateOfRow row with
    | ok t => exact .inl ⟨t, row, rfl, hsel, ht⟩
    | error e => exact .inr ⟨_, rfl, trivial⟩
  · exact .inr ⟨_, rfl, trivial⟩

theorem mem_of_selectTemplate {templateId tenantId : Nat} {db : Db} {row : TemplateRow}
    (h : selectTemplate templateId tenantId db = [row]) :
    row ∈ db.templates ∧ row.id = templateId ∧ row.tenantId = tenantId := by
  have hrow : row ∈ selectTemplate templateId tenantId db := h ▸ List.mem_singleton_self row
  unfold selectTemplate at hrow
  rwa [List.mem_filter, Bool.and_eq_true, beq_iff_eq, beq_iff_eq] at hrow

/-- **`get_template` always raises.** Whatever the table holds, it raises — the 404, or an
exception that is no `HTTPException`: `AttributeError` from `template.status.value` once the row
is found — and changes nothing. -/
theorem getTemplate_raises (templateId tenantId : Nat) (s : Session) :
    ∃ e, getTemplate templateId tenantId s = .error e s ∧ CodeIn (· = 404) (.error e) := by
  unfold getTemplate
  rw [Session.bind_apply]
  rcases getTemplateOr404_apply templateId tenantId s with ⟨t, row, h, -⟩ | ⟨e, h, he⟩ <;> rw [h]
  · exact ⟨_, rfl, trivial⟩
  · exact ⟨e, rfl, he⟩

/-- **`submit_for_approval` always raises before its `UPDATE`.** -/
theorem submitForApproval_raises (now templateId tenantId : Nat) (s : Session) :
    ∃ e, submitForApproval now templateId tenantId s = .error e s ∧ CodeIn (· = 404) (.error e) := by
  unfold submitForApproval
  rw [Session.bind_apply]
  rcases getTemplateOr404_apply templateId tenantId s with ⟨t, row, h, -⟩ | ⟨e, h, he⟩ <;> rw [h]
  · dsimp only
    cases Template.submitForApproval now t with
    | ok _ t' => exact ⟨_, rfl, trivial⟩
    | error e' _ => exact ⟨_, rfl, trivial⟩
  · exact ⟨e, rfl, he⟩

/-- **`create_template` always raises before its `INSERT`**, with an exception that is no
`HTTPException`. -/
theorem createTemplate_raises (newId now : Nat) (body : CreateTemplateRequest) (tenantId : Nat)
    (s : Session) :
    ∃ e, createTemplate newId now body tenantId s = .error e s ∧ CodeIn (· = 404) (.error e) := by
  unfold createTemplate
  cases Template.create newId tenantId body.name body.content (body.vars.map (·.name)) now with
  | error e => exact ⟨_, rfl, trivial⟩
  | ok t => cases body.hasRichCard <;> cases body.hasSuggestions <;> exact ⟨_, rfl, trivial⟩

theorem listTemplates_state (q : ListQuery) (tenantId : Nat) (s : Session) :
    resultState (listTemplates q tenantId s) = s := by
  unfold listTemplates
  dsimp only
  split <;> rfl

theorem previewTemplate_state (reMatch : String → String → Bool) (values : VariableValues)
    (templateId tenantId : Nat) (s : Session) :
    resultState (previewTemplate reMatch values templateId tenantId s) = s := by
  unfold previewTemplate
  rw [Session.bind_apply]
  rcases getTemplateOr404_apply templateId tenantId s with ⟨t, row, h, -⟩ | ⟨e, h, -⟩ <;> rw [h]
  · dsimp only
    cases renderLoaded reMatch values t with
    | ok _ => rfl
    | error e => cases e <;> rfl
  · rfl

/-- **What `delete_template` commits.** Nothing, or the removal of the row with the path's id,
which the query found for the request's tenant in DRAFT status. -/
theorem deleteTemplate_committed (templateId tenantId : Nat) (db : Db) :
    (resultState (deleteTemplate templateId tenantId ⟨db, db⟩)).committed = db ∨
      ∃ row ∈ db.templates, row.id = templateId ∧ row.tenantId = tenantId ∧ row.status = .draft ∧
        (resultState (deleteTemplate templateId tenantId ⟨db, db⟩)).committed =
          deleteWhereId templateId db := by
  unfold deleteTemplate
  rw [Session.bind_apply]
  rcases getTemplateOr404_apply templateId tenantId ⟨db, db⟩ with
    ⟨t, row, h, hsel, ht⟩ | ⟨e, h, -⟩ <;> rw [h]
  · by_cases hd : t.status = .draft
    · obtain ⟨hrow, hi, htn⟩ := mem_of_selectTemplate hsel
      refine .inr ⟨row, hrow, hi, htn, (templateOfRow_ok ht).1 ▸ hd, ?_⟩
      simp only [hd, ne_eq, not_true_eq_false, ↓reduceIte, Session.bind_apply]
      rfl
    · left
      simp only [hd, ne_eq, not_false_eq_true, ↓reduceIte, Session.bind_apply]
      rfl
  · exact .inl rfl

theorem renderLoaded_ok {reMatch : String → String → Bool} {values : VariableValues} {t : Template}
    {text : String} (h : renderLoaded reMatch values t = .ok text) :
    t.richCardTemplate = none ∧ t.suggestionsTemplate = [] := by
  unfold renderLoaded at h
  cases hv : validateVariables values t.vars with
  | error e => simp only [hv] at h; cases h
  | ok u =>
    cases hs : substituteVariables reMatch values t.content.toList t.vars with
    | error e => simp only [hv, hs] at h; cases h
    | ok l =>
      simp only [hv, hs] at h
      cases hc : t.richCardTemplate with
      | some c => simp only [hc] at h; cases h
      | none =>
        cases hsg : t.suggestionsTemplate with
        | nil => exact ⟨rfl, rfl⟩
        | cons x xs => simp only [hc, hsg] at h; cases h

/-- A preview that answers renders a template of the tenant, found by its id, whose content has
no placeholder and which has no rich card and no suggestions; it raises only `HTTPException`s
400 and 404 or exceptions that are no `HTTPException`. -/
theorem previewTemplate_apply (reMatch : String → String → Bool) (values : VariableValues)
    (templateId tenantId : Nat) (s : Session) :
    (∀ resp s', previewTemplate reMatch values templateId tenantId s = .ok resp s' →
      ∃ row, selectTemplate templateId tenantId s.working = [row] ∧
        findPlaceholders 0 row.content.toList = [] ∧
        (row.richCardTemplate = none ∨ row.richCardTemplate = some []) ∧
        row.suggestionsTemplate = []) ∧
    ∀ e s', previewTemplate reMatch values templateId tenantId s = .error e s' →
      CodeIn (· ∈ [400, 404]) (.error e) := by
  unfold previewTemplate
  rw [Session.bind_apply]
  rcases getTemplateOr404_apply templateId tenantId s with ⟨t, row, hg, hsel, ht⟩ | ⟨e, hg, he⟩ <;>
    rw [hg]
  · obtain ⟨-, -, -, hv, hc, hs⟩ := templateOfRow_ok ht
    dsimp only
    cases hr : renderLoaded reMatch values t with
    | ok text =>
      refine ⟨fun _ _ _ => ⟨row, hsel, ?_, hc.1 (renderLoaded_ok hr).1,
        hs ▸ (renderLoaded_ok hr).2⟩, fun _ _ h => nomatch h⟩
      rw [validateTemplate_isOk_iff] at hv
      exact List.eq_nil_iff_forall_not_mem.2 fun n hn => List.not_mem_nil _ (hv.2 n hn)
    | error e =>
      refine ⟨fun _ _ h => ?_, fun e' _ h => ?_⟩ <;> cases e <;> cases h <;> simp [CodeIn]
  · exact ⟨fun _ _ h => (nomatch h), fun e' _ h => by cases h; exact CodeIn.mono (by simp_all) he⟩

/-! ## Through FastAPI's handling -/

section Handling

variable {P : Nat → Prop}

theorem codeIn_handleHttpException {o : Except Raised Response} (h : CodeIn P o) :
    CodeIn P (handleHttpException o) := by
  rcases o with (_ | _) | _ <;> exact h

theorem getCurrentTenant_codeIn {req : Request} {e : Raised}
    (h : AuthMiddleware.getCurrentTenant req = .error e) : CodeIn (· = 401) (.error e) := by
  unfold AuthMiddleware.getCurrentTenant at h
  split at h <;> cases h <;> trivial

theorem endpoint_db {x : EStateM.Result Raised Session Response} :
    (match x with
      | .ok r s => ((.ok r : Except Raised Response), s.committed)
      | .error e s => (handleHttpException (.error e), s.committed)).2 = (resultState x).committed := by
  cases x <;> rfl

/-- An endpoint that always raises, changing nothing, is answered with 401, 404 or 422 — or its
exception goes on up — and leaves the database as it was. -/
theorem runEndpoint_of_raises {β : Type} {endpoint : β → Nat → SessionM Response}
    (hraise : ∀ p t s, ∃ e, endpoint p t s = .error e s ∧ CodeIn (· = 404) (.error e))
    (params : Option β) (req : Request) (db : Db) :
    CodeIn (· ∈ [401, 404, 422]) (runEndpoint params endpoint req db).1 ∧
      (runEndpoint params endpoint req db).2 = db := by
  unfold runEndpoint
  split
  · next e he =>
    exact ⟨codeIn_handleHttpException (CodeIn.mono (fun _ h => by simp [h])
      (getCurrentTenant_codeIn he)), rfl⟩
  · cases params with
    | none => exact ⟨by simp [CodeIn, validationErrorResponse, jsonResponse], rfl⟩
    | some p =>
      obtain ⟨e, he, hc⟩ := hraise p _ ⟨db, db⟩
      dsimp only
      rw [he]
      exact ⟨codeIn_handleHttpException (CodeIn.mono (fun _ h => by simp [h]) hc), rfl⟩

/-- An endpoint that commits nothing leaves the database as it was. -/
theorem runEndpoint_keeps {β : Type} {endpoint : β → Nat → SessionM Response}
    (hkeep : ∀ p t s, resultState (endpoint p t s) = s) (params : Option β) (req : Request)
    (db : Db) : (runEndpoint params endpoint req db).2 = db := by
  unfold runEndpoint
  split
  · rfl
  · cases params with
    | none => rfl
    | some p =>
      dsimp only
      rw [endpoint_db, hkeep]

end Handling

/-! ## The router -/

/-- The requests the router hands to an endpoint that reads `template.status.value`:
`create_template`, `get_template` and `submit_for_approval`. -/
def StatusValueRoute (method path : String) : Prop :=
  path = "/api/v1/templates" ∧ method = "POST" ∨
  method = "GET" ∧ (matchTemplatePath "" path).isSome ∨
  method = "POST" ∧ (matchTemplatePath "/submit" path).isSome

/-- One path matches a route's pattern for at most one suffix. -/
theorem matchPathParam_suffix {pre suffix suffix' path x y : String}
    (h : matchPathParam pre suffix path = some x) (h' : matchPathParam pre suffix' path = some y) :
    suffix = suffix' := by
  unfold matchPathParam at h h'
  dsimp only at h h'
  split at h
  · next hpre =>
    rw [if_pos hpre] at h'
    split at h
    · next hc =>
      split at h'
      · next hc' =>
        simp only [Bool.and_eq_true, decide_eq_true_eq] at hc hc'
        exact String.ext (hc.2.symm.trans hc'.2)
      · cases h'
    · cases h
  · cases h

theorem ne_root_of_matchTemplatePath {suffix path x : String}
    (h : matchTemplatePath suffix path = some x) : path ≠ "/api/v1/templates" := by
  rintro rfl
  unfold matchTemplatePath matchPathParam at h
  rw [if_neg (by decide)] at h
  cases h

/-- A request the router hands to `create_template`, `get_template` or `submit_for_approval`
gets 401, 404 or 422, or an exception that goes on up, and leaves the database as it was. -/
theorem templatesRoute_statusValue (p : Parsers) (newId : Request → RouteCtx → Nat)
    (reMatch : String → String → Bool) (other : Route) {r : Request}
    (hr : StatusValueRoute r.method r.path) (c : RouteCtx) :
    CodeIn (· ∈ [401, 404, 422]) (templatesRoute p newId reMatch other r c).1 ∧
      (templatesRoute p newId reMatch other r c).2 = c.db := by
  unfold templatesRoute
  dsimp only
  rcases hr with hc | ⟨hm, hx⟩ | ⟨hm, hx⟩
  · rw [if_pos hc]
    exact runEndpoint_of_raises (fun q t s => createTemplate_raises _ _ q t s) _ r c.db
  all_goals
    obtain ⟨x, hx⟩ := Option.isSome_iff_exists.1 hx
    have hp := ne_root_of_matchTemplatePath hx
    rw [if_neg fun h => hp h.1, if_neg fun h => hp h.1]
  · rw [hx]
    dsimp only
    rw [if_pos hm]
    exact runEndpoint_of_raises getTemplate_raises _ r c.db
  · cases h₀ : matchTemplatePath "" r.path with
    | some y => exact absurd (matchPathParam_suffix h₀ hx) (by decide)
    | none =>
      rw [hx]
      dsimp only
      rw [if_pos hm]
      exact runEndpoint_of_raises (submitForApproval_raises c.now.toNat) _ r c.db

/-- **What the template routes commit.** What `other` leaves, or nothing, or the removal of a
draft row of the tenant `get_current_tenant` gives a `DELETE` whose path names its id. -/
theorem templatesRoute_db (p : Parsers) (newId : Request → RouteCtx → Nat)
    (reMatch : String → String → Bool) (other : Route) (r : Request) (c : RouteCtx) :
    (templatesRoute p newId reMatch other r c).2 = (other r c).2 ∨
    (templatesRoute p newId reMatch other r c).2 = c.db ∨
    ∃ row ∈ c.db.templates, row.status = .draft ∧ r.method = "DELETE" ∧
      AuthMiddleware.getCurrentTenant r = .ok row.tenantId ∧
      (∃ id, matchTemplatePath "" r.path = some id ∧ p.uuid id = some row.id) ∧
      (templatesRoute p newId reMatch other r c).2 = deleteWhereId row.id c.db := by
  unfold templatesRoute
  dsimp only
  by_cases hc : r.path = "/api/v1/templates" ∧ r.method = "POST"
  · rw [if_pos hc]
    exact .inr (.inl (runEndpoint_of_raises (fun q t s => createTemplate_raises _ _ q t s) _ r c.db).2)
  rw [if_neg hc]
  by_cases hl : r.path = "/api/v1/templates" ∧ r.method = "GET"
  · rw [if_pos hl]
    exact .inr (.inl (runEndpoint_keeps listTemplates_state _ r c.db))
  rw [if_neg hl]
  split
  · next id hid =>
    split
    · exact .inr (.inl (runEndpoint_of_raises getTemplate_raises _ r c.db).2)
    split
    · next hm =>
      unfold runEndpoint
      split
      · exact .inr (.inl rfl)
      · next t ht =>
        cases hq : p.uuid id with
        | none => exact .inr (.inl rfl)
        | some i =>
          dsimp only
          rw [endpoint_db]
          rcases deleteTemplate_committed i t c.db with h | ⟨row, hrow, hi, htn, hd, h⟩
          · exact .inr (.inl h)
          · exact .inr (.inr ⟨row, hrow, hd, hm, htn ▸ ht, ⟨id, hid, hi ▸ hq⟩, hi ▸ h⟩)
    · exact .inl rfl
  split
  · split
    · exact .inr (.inl (runEndpoint_of_raises (submitForApproval_raises _) _ r c.db).2)
    · exact .inl rfl
  split
  · split
    · exact .inr (.inl (runEndpoint_keeps
        (fun (q : Nat × VariableValues) t s => previewTemplate_state reMatch q.2 q.1 t s) _ r c.db))
    · exact .inl rfl
  · exact .inl rfl

/-- **Only a plain template can be previewed.** A preview the template routes answer with 200
renders a stored template of the request's tenant, named by the path's id, whose content has no
placeholder and which has no rich card and no suggestions: `get_template_or_404` refuses a
content with a placeholder, and `render` fails on the card and the suggestions it built. -/
theorem preview_answers_only_plain_templates (p : Parsers) (newId : Request → RouteCtx → Nat)
    (reMatch : String → String → Bool) (other : Route) (r : Request) (c : RouteCtx) {id : String}
    (hm : r.method = "POST") (hp : matchTemplatePath "/preview" r.path = some id) {resp : Response}
    (h : (templatesRoute p newId reMatch other r c).1 = .ok resp) (h200 : resp.statusCode = 200) :
    ∃ row ∈ c.db.templates, p.uuid id = some row.id ∧
      AuthMiddleware.getCurrentTenant r = .ok row.tenantId ∧
      findPlaceholders 0 row.content.toList = [] ∧
      (row.richCardTemplate = none ∨ row.richCardTemplate = some []) ∧
      row.suggestionsTemplate = [] := by
  have hroot := ne_root_of_matchTemplatePath hp
  have hnone : ∀ suffix, suffix ≠ "/preview" → matchTemplatePath suffix r.path = none :=
    fun suffix hs => Option.eq_none_iff_forall_not_mem.2 fun y hy =>
      hs (matchPathParam_suffix hy hp)
  unfold templatesRoute runEndpoint at h
  rw [if_neg fun h => hroot h.1, if_neg fun h => hroot h.1, hnone "" (by decide),
    hnone "/submit" (by decide), hp] at h
  dsimp only at h
  rw [if_pos hm] at h
  split at h
  · next e he =>
    have hc := codeIn_handleHttpException (getCurrentTenant_codeIn he)
    dsimp only at h
    rw [h] at hc
    exact absurd (hc.symm.trans h200) (by decide)
  · next t ht =>
    split at h
    · cases h
      exact absurd h200 (by decide)
    · next q hq =>
      obtain ⟨i, hi, hq⟩ := Option.bind_eq_some.1 hq
      obtain ⟨v, -, rfl⟩ := Option.map_eq_some'.1 hq
      have hpre := previewTemplate_apply reMatch v i t ⟨c.db, c.db⟩
      split at h
      · next resp' s' hpv =>
        obtain ⟨row, hsel, hph, hcard, hsug⟩ := hpre.1 resp' s' hpv
        obtain ⟨hrow, hid, htn⟩ := mem_of_selectTemplate hsel
        exact ⟨row, hrow, hid ▸ hi, htn ▸ ht, hph, hcard, hsug⟩
      · next e s' hpv =>
        have hc := codeIn_handleHttpException (hpre.2 e s' hpv)
        dsimp only at h
        rw [h] at hc
        simp [CodeIn, h200] at hc

set_option maxRecDepth 20000 in
theorem preview_answers_only_plain_templates_hello :
    let p : Parsers := ⟨PyUuid.ofHex, fun _ => none, fun _ => none, fun _ => some ⟨[], .nil⟩⟩
    let other : Route := fun _ c => (.ok ⟨404, [], []⟩, c.db)
    let r : Request := ⟨"POST", "/api/v1/templates/00000000-0000-0000-0000-000000000003/preview",
      [], { authenticated := some true, tenantId := some 2 }⟩
    let c : RouteCtx := ⟨0, 0,
      ⟨[⟨3, 2, "welcome", "Hello", .draft, none, [], none, [], 0, 0⟩], List.nodup_singleton 3, [], .nil⟩⟩
    let resp := jsonResponse 200 [("text", .str "Hello"), ("rich_card", .json .null),
      ("suggestions", .json (.list []))] []
    r.method = "POST" ∧
      matchTemplatePath "/preview" r.path = some "00000000-0000-0000-0000-000000000003" ∧
      (templatesRoute p (fun _ _ => 0) (fun _ _ => true) other r c).1 = .ok resp ∧
      resp.statusCode = 200 ∧
      ∃ row ∈ c.db.templates, p.uuid "00000000-0000-0000-0000-000000000003" = some row.id ∧
        AuthMiddleware.getCurrentTenant r = .ok row.tenantId ∧
        findPlaceholders 0 row.content.toList = [] ∧
        (row.richCardTemplate = none ∨ row.richCardTemplate = some []) ∧
        row.suggestionsTemplate = [] := by
  intro p other r c resp
  have hm : r.method = "POST" := rfl
  have hp : matchTemplatePath "/preview" r.path = some "00000000-0000-0000-0000-000000000003" := by
    decide
  have h : (templatesRoute p (fun _ _ => 0) (fun _ _ => true) other r c).1 = .ok resp := by decide
  exact ⟨hm, hp, h, rfl,
    preview_answers_only_plain_templates p _ _ other r c hm hp h rfl⟩

end Templates

/-! ## Over the whole stack -/

open Templates

/-- The database stays as it is. -/
def dbDrift : Drift where
  rel a b := b.db = a.db
  refl _ := rfl
  trans h₁ h₂ := h₂.trans h₁

theorem dbDrift_checkRateLimitAt (cfg : RateLimitMiddleware.Config) (key : String) :
    Moves dbDrift (RateLimitMiddleware.checkRateLimitAt cfg key) := fun env => by
  obtain ⟨ans, store, h⟩ := RateLimitMiddleware.checkRateLimitAt_apply cfg key env
  rw [h]
  rfl

/-- **Creating, reading or submitting a template never succeeds.** Over the whole stack, a
`POST` of `/api/v1/templates`, a `GET` of `/api/v1/templates/{template_id}` or a `POST` of its
`/submit` is answered only with 401, 404, 422, 429 or 500 — never with the template — and leaves
the database as it was: no template is ever created or marked pending approval. -/
theorem status_value_routes_never_succeed (s : Settings)
    (decodeJwt : String → Except String AuthMiddleware.JwtPayload) (p : Parsers)
    (newId : Request → RouteCtx → Nat) (reMatch : String → String → Bool) (other : Route)
    (a : Arrival) (hr : StatusValueRoute a.method a.path) (env : Env) :
    (∀ resp env', serve (createApp s decodeJwt (templatesRoute p newId reMatch other)) a env =
        .ok resp env' → resp.statusCode ∈ [401, 404, 422, 429, 500]) ∧
    (resultState (serve (createApp s decodeJwt (templatesRoute p newId reMatch other)) a env)).db =
      env.db := by
  have hroute : ∀ r c, r.method = a.method → r.path = a.path →
      CodeIn (· ∈ [401, 404, 422, 429, 500]) (templatesRoute p newId reMatch other r c).1 :=
    fun r c hm hp => CodeIn.mono (fun n hn => by simp at hn ⊢; omega)
      (templatesRoute_statusValue p newId reMatch other (hm ▸ hp ▸ hr) c).1
  refine ⟨fun resp env' h => ?_, ?_⟩
  · have hc := @codesIn_createApp _ a.method a.path (by decide) (by decide) (by decide) s decodeJwt
      _ hroute a.request (a.enter env) rfl rfl
    rw [show createApp s decodeJwt _ a.request (a.enter env) = .ok resp env' from h] at hc
    exact hc
  · refine moves_serve (D := dbDrift) (fun _ => rfl) (moves_createApp rfl (fun _ => rfl)
      dbDrift_checkRateLimitAt fun r hh env₁ => ?_) env
    show (resultState (callRoute _ r env₁)).db = env₁.db
    rw [callRoute_state]
    exact (templatesRoute_statusValue p newId reMatch other (hh.method ▸ hh.path ▸ hr) _).2

theorem status_value_routes_never_succeed_stored :
    let decodeJwt : String → Except String AuthMiddleware.JwtPayload := fun _ =>
      .ok ⟨some (.str "00000000-0000-0000-0000-000000000001"),
        some (.str "00000000-0000-0000-0000-000000000002"), none⟩
    let p : Parsers := ⟨PyUuid.ofHex, fun _ => none, fun _ => none, fun _ => none⟩
    let other : Route := fun _ c => (.ok ⟨404, [], []⟩, c.db)
    let a : Arrival := ⟨"GET", "/api/v1/templates/00000000-0000-0000-0000-000000000003",
      [("authorization", "Bearer token")], 0, 0, true⟩
    let env : Env := ⟨[], true, 0, 0, 0, [],
      ⟨[⟨3, 2, "welcome", "Hello", .draft, none, [], none, [], 0, 0⟩], List.nodup_singleton 3, [],
        .nil⟩⟩
    let app := createApp {} decodeJwt (templatesRoute p (fun _ _ => 0) (fun _ _ => true) other)
    StatusValueRoute a.method a.path ∧
      (∀ resp env', serve app a env = .ok resp env' →
        resp.statusCode ∈ [401, 404, 422, 429, 500]) ∧
      (resultState (serve app a env)).db = env.db := by
  intro decodeJwt p other a env app
  have hr : StatusValueRoute a.method a.path := .inr (.inl ⟨rfl, by decide⟩)
  exact ⟨hr, status_value_routes_never_succeed {} decodeJwt p _ _ other a hr env⟩

/- The template of the witness exists and belongs to the token's tenant, and its content has no
placeholder: the answer is the 500 of `AttributeError`, caught by `AuthMiddleware`'s `except`. -/
set_option maxRecDepth 20000 in
example :
    let decodeJwt : String → Except String AuthMiddleware.JwtPayload := fun _ =>
      .ok ⟨some (.str "00000000-0000-0000-0000-000000000001"),
        some (.str "00000000-0000-0000-0000-000000000002"), none⟩
    let p : Parsers := ⟨PyUuid.ofHex, fun _ => none, fun _ => none, fun _ => none⟩
    let other : Route := fun _ c => (.ok ⟨404, [], []⟩, c.db)
    let a : Arrival := ⟨"GET", "/api/v1/templates/00000000-0000-0000-0000-000000000003",
      [("authorization", "Bearer token")], 0, 0, true⟩
    let env : Env := ⟨[], true, 0, 0, 0, [],
      ⟨[⟨3, 2, "welcome", "Hello", .draft, none, [], none, [], 0, 0⟩], List.nodup_singleton 3, [],
        .nil⟩⟩
    outcome (serve (createApp {} decodeJwt (templatesRoute p (fun _ _ => 0) (fun _ _ => true) other))
      a env) = .ok (jsonResponse 500 [("error", .str "Internal server error")] []) := by
  decide

/-- Rows only leave the table, each as `J` allows for a request the routes were handed meanwhile. -/
def deleteDrift (J : Request → TemplateRow → Prop) : Drift where
  rel a b := ∃ handed, b.routeCalls = a.routeCalls ++ handed ∧
    List.Sublist b.db.templates a.db.templates ∧
    ∀ row ∈ a.db.templates, row ∉ b.db.templates → ∃ r ∈ handed, J r row
  refl _ := ⟨[], (List.append_nil _).symm, List.Sublist.refl _, fun _ h h' => absurd h h'⟩
  trans := by
    intro a b c ⟨n₁, e₁, s₁, j₁⟩ ⟨n₂, e₂, s₂, j₂⟩
    refine ⟨n₁ ++ n₂, by rw [e₂, e₁, List.append_assoc], s₂.trans s₁, fun row ha hc => ?_⟩
    by_cases hb : row ∈ b.db.templates
    · obtain ⟨r, hr, hj⟩ := j₂ row hb hc
      exact ⟨r, List.mem_append_right _ hr, hj⟩
    · obtain ⟨r, hr, hj⟩ := j₁ row ha hb
      exact ⟨r, List.mem_append_left _ hr, hj⟩

theorem deleteDrift_checkRateLimitAt {J : Request → TemplateRow → Prop}
    (cfg : RateLimitMiddleware.Config) (key : String) :
    Moves (deleteDrift J) (RateLimitMiddleware.checkRateLimitAt cfg key) := fun env => by
  obtain ⟨ans, store, h⟩ := RateLimitMiddleware.checkRateLimitAt_apply cfg key env
  rw [h]
  exact (deleteDrift J).refl env

/-- A row that `DELETE ... WHERE id = row.id` removes is that row: ids are unique. -/
theorem eq_of_not_mem_deleteWhereId {db : Db} {row row' : TemplateRow} (h : row ∈ db.templates)
    (h' : row' ∈ db.templates) (hn : row' ∉ (deleteWhereId row.id db).templates) : row' = row := by
  unfold deleteWhereId at hn
  rw [List.mem_filter, not_and, bne_iff_ne, not_not] at hn
  exact List.inj_on_of_nodup_map db.idsNodup h' h (hn h')

/-- **Template rows leave only by `delete_template`, each a draft of its own tenant.** Over every
run of requests through the whole stack, the table only loses rows — none is added or changed —
and a row that left is a draft, removed for a `DELETE` the routes were handed, authenticated for
the row's tenant, whose path names the row's id; provided the other routes leave the table
alone. -/
theorem template_rows_leave_only_by_delete (s : Settings)
    (decodeJwt : String → Except String AuthMiddleware.JwtPayload) (p : Parsers)
    (newId : Request → RouteCtx → Nat) (reMatch : String → String → Bool) (other : Route)
    (hother : ∀ r c, (other r c).2.templates = c.db.templates) (arrivals : List Arrival)
    (env : Env) :
    let env' := resultState
      (serveAll (createApp s decodeJwt (templatesRoute p newId reMatch other)) arrivals env)
    ∃ handed, env'.routeCalls = env.routeCalls ++ handed ∧
      List.Sublist env'.db.templates env.db.templates ∧
      ∀ row ∈ env.db.templates, row ∉ env'.db.templates → row.status = .draft ∧
        ∃ r ∈ handed, r.method = "DELETE" ∧ AuthMiddleware.getCurrentTenant r = .ok row.tenantId ∧
          ∃ id, matchTemplatePath "" r.path = some id ∧ p.uuid id = some row.id := by
  let J : Request → TemplateRow → Prop := fun r row => row.status = .draft ∧ r.method = "DELETE" ∧
    AuthMiddleware.getCurrentTenant r = .ok row.tenantId ∧
    ∃ id, matchTemplatePath "" r.path = some id ∧ p.uuid id = some row.id
  have hcall : ∀ r, Moves (deleteDrift J) (callRoute (templatesRoute p newId reMatch other) r) :=
    fun r env₁ => by
      rw [callRoute_state]
      have hout := templatesRoute_db p newId reMatch other r ⟨env₁.routeCalls.length, env₁.now, env₁.db⟩
      generalize (templatesRoute p newId reMatch other r _).2 = db' at hout ⊢
      rcases hout with rfl | rfl | ⟨row, hrow, hd, hm, ht, hid, rfl⟩
      · refine ⟨[r], rfl, ?_, fun _ h₁ h₂ => absurd (by rw [hother]; exact h₁) h₂⟩
        show List.Sublist (other r _).2.templates env₁.db.templates
        rw [hother]
      · exact ⟨[r], rfl, List.Sublist.refl _, fun _ h₁ h₂ => absurd h₁ h₂⟩
      · refine ⟨[r], rfl, List.filter_sublist _, fun row' h' hn => ?_⟩
        rw [eq_of_not_mem_deleteWhereId hrow h' hn]
        exact ⟨r, List.mem_singleton_self r, hd, hm, ht, hid⟩
  obtain ⟨handed, e, hs, hj⟩ := moves_serveAll (D := deleteDrift J) (fun env _ => (deleteDrift J).refl env)
    (fun _ => moves_createApp (D := deleteDrift J) rfl (deleteDrift J).refl
      deleteDrift_checkRateLimitAt fun r _ => hcall r) arrivals env
  exact ⟨handed, e, hs, fun row h h' =>
    let ⟨r, hr, hd, hm, ht, hid⟩ := hj row h h'
    ⟨hd, r, hr, hm, ht, hid⟩⟩

theorem template_rows_leave_only_by_delete_draft :
    let decodeJwt : String → Except String AuthMiddleware.JwtPayload := fun _ =>
      .ok ⟨some (.str "00000000-0000-0000-0000-000000000001"),
        some (.str "00000000-0000-0000-0000-000000000002"), none⟩
    let p : Parsers := ⟨PyUuid.ofHex, fun _ => none, fun _ => none, fun _ => none⟩
    let other : Route := fun _ c => (.ok ⟨404, [], []⟩, c.db)
    let arrivals : List Arrival := [⟨"DELETE",
      "/api/v1/templates/00000000-0000-0000-0000-000000000003",
      [("authorization", "Bearer token")], 0, 0, true⟩]
    let env : Env := ⟨[], true, 0, 0, 0, [],
      ⟨[⟨3, 2, "welcome", "Hello", .draft, none, [], none, [], 0, 0⟩], List.nodup_singleton 3, [],
        .nil⟩⟩
    let env' := resultState (serveAll (createApp {} decodeJwt
      (templatesRoute p (fun _ _ => 0) (fun _ _ => true) other)) arrivals env)
    (∀ r c, (other r c).2.templates = c.db.templates) ∧
      ∃ handed, env'.routeCalls = env.routeCalls ++ handed ∧
        List.Sublist env'.db.templates env.db.templates ∧
        ∀ row ∈ env.db.templates, row ∉ env'.db.templates → row.status = .draft ∧
          ∃ r ∈ handed, r.method = "DELETE" ∧
            AuthMiddleware.getCurrentTenant r = .ok row.tenantId ∧
            ∃ id, matchTemplatePath "" r.path = some id ∧ p.uuid id = some row.id := by
  intro decodeJwt p other arrivals env
  have hother : ∀ r c, (other r c).2.templates = c.db.templates := fun _ _ => rfl
  exact ⟨hother, template_rows_leave_only_by_delete {} decodeJwt p _ _ other hother arrivals env⟩

/- The draft of the witness is deleted; with a placeholder in its content it would not be, since
`get_template_or_404` validates the content before it adds the row's variables. -/
set_option maxRecDepth 20000 in
example :
    let decodeJwt : String → Except String AuthMiddleware.JwtPayload := fun _ =>
      .ok ⟨some (.str "00000000-0000-0000-0000-000000000001"),
        some (.str "00000000-0000-0000-0000-000000000002"), none⟩
    let p : Parsers := ⟨PyUuid.ofHex, fun _ => none, fun _ => none, fun _ => none⟩
    let other : Route := fun _ c => (.ok ⟨404, [], []⟩, c.db)
    let a : Arrival := ⟨"DELETE", "/api/v1/templates/00000000-0000-0000-0000-000000000003",
      [("authorization", "Bearer token")], 0, 0, true⟩
    let row : TemplateRow := ⟨3, 2, "welcome", "Hello {{name}}", .draft, none,
      [⟨"name", "", true, none, none⟩], none, [], 0, 0⟩
    let serveWith (content : String) :=
      resultState (serve (createApp {} decodeJwt
        (templatesRoute p (fun _ _ => 0) (fun _ _ => true) other)) a
        ⟨[], true, 0, 0, 0, [], ⟨[{ row with content := content }], List.nodup_singleton 3, [], .nil⟩⟩)
    (serveWith "Hello").db.templates = [] ∧
      (serveWith "Hello {{name}}").db.templates = [{ row with content := "Hello {{name}}" }] := by
  decide

end Api

end RcsMessaging
