import Mathlib.Algebra.Order.BigOperators.Group.List
import RcsMessaging.Api.Templates

/-!
# `Api.Audiences` — the audience routes over the `audiences` table

`api/routes/v1/audiences.py`, under the prefix `/api/v1`: `POST` and `GET /audiences`
(`create_audience`, `list_audiences`), `GET` and `DELETE /audiences/{audience_id}`,
`POST /audiences/{audience_id}/upload` (`upload_csv`), `POST` and `GET
/audiences/{audience_id}/contacts` (`add_contacts`, `get_contacts`) and
`GET /audiences/{audience_id}/stats`, each run by FastAPI as `runEndpoint` gives it. The two
helpers carry the persistence: `get_audience_or_404` selects a row by id and tenant and rebuilds
the domain `Audience`, re-validating every stored contact; `save_audience` selects by id alone
and updates that row — keeping its `tenant_id`, `audience_type` and `created_at` — or adds one,
then commits. The UPDATE carries the columns whose value changed; when `updated_at` is not among
them and another column is, the column's `onupdate=datetime.utcnow` stamps it with the clock.

## Contents
- `rowOf` and `audienceOfRow`, the two directions between `Audience` and a row, and
  **`saved_audience_loads_back`**: what `save_audience` writes, `get_audience_or_404` reads back
  as the same audience, with `updated_at` as `onupdate` left it (`updatedRow`).
- The endpoints and `audiencesRoute`; bodies, the uploaded file and `uuid4()` are parameters.
- `Commits`, what one endpoint can commit for its tenant, with one lemma per endpoint and
  `audiencesRoute_commits` for the router.
- `Agree`, two runs of an endpoint that answer alike and commit the same rows of a tenant, with
  one lemma per endpoint, and **`audience_routes_read_only_own_rows`**: what a request is answered,
  and what it leaves of its tenant's rows, depends on nothing but that tenant's rows.
- **`audience_rows_tenant_scoped`**: over every run through the whole stack, a row changes only
  for a tenant some request was authenticated for, as long as `uuid4()` draws unused ids.
- **`audience_contacts_stay_distinct`**: over every run of requests with no CSV upload, every
  stored audience keeps distinct phone strings and both counters equal to its number of contacts.
  `upload_csv` is left out of it: `import_from_csv` appends without checking for duplicates.
- **`contact_pages_cover_audience`**: over every run, uploads included, `total_contacts` stays the
  number of contacts, so paging through `get_contacts` up to the reported `total` returns every
  contact of a static audience once, in order.
-/

namespace RcsMessaging

/-- `AudienceType.value`. -/
def AudienceType.value : AudienceType → String
  | .static => "static"
  | .dynamic => "dynamic"
  | .suppression => "suppression"

/-- `AudienceStatus.value`. -/
def AudienceStatus.value : AudienceStatus → String
  | .draft => "draft"
  | .processing => "processing"
  | .active => "active"
  | .archived => "archived"

/-- `Audience.create_dynamic(tenant_id, name, query)` at `now` (`id` stands for `uuid4()`). -/
def Audience.createDynamic (id tenantId : Nat) (name : String) (query : List (List Nat × PyJson))
    (now : Nat) : Audience :=
  { Audience.create id tenantId name .dynamic now with query := some (.dict query) }

/-- `l[start:]`: a negative start counts from the end. -/
def PyList.sliceFrom {α : Type} (start : Int) (l : List α) : List α :=
  l.drop (if start < 0 then ((l.length : Int) + start).toNat else start.toNat)

/-- `l[:stop]`: a negative stop counts from the end. -/
def PyList.sliceTo {α : Type} (stop : Int) (l : List α) : List α :=
  l.take (if stop < 0 then ((l.length : Int) + stop).toNat else stop.toNat)

/-- `Audience.get_contacts(limit, offset)`: a dynamic audience has none yet; otherwise the stored
contacts from `offset` on, cut to `limit` when it is truthy — `0` and `None` do not cut. -/
def Audience.getContacts (limit : Option Int) (offset : Int) (a : Audience) : List Contact :=
  if a.audienceType = .dynamic then []
  else
    let contacts := PyList.sliceFrom offset a.contacts
    match limit with
    | some l => if l ≠ 0 then PyList.sliceTo l contacts else contacts
    | none => contacts

/-- The pages of `l` contacts at the offsets `0, l, 2 * l, …` of a static audience are its stored
contacts in order, as far as the pages asked for reach. -/
theorem Audience.getContacts_pages {a : Audience} (hs : a.audienceType = .static) {l : Nat}
    (hl : 0 < l) : ∀ n, (List.range n).flatMap (fun k => a.getContacts (some l) ((k * l : Nat) : Int)) =
      a.contacts.take (n * l)
  | 0 => by simp
  | n + 1 => by
    have hp : a.getContacts (some l) ((n * l : Nat) : Int) = (a.contacts.drop (n * l)).take l := by
      have hl' : (l : Int) ≠ 0 := by omega
      unfold Audience.getContacts
      rw [if_neg (by rw [hs]; decide)]
      dsimp only
      rw [if_pos hl', PyList.sliceFrom, PyList.sliceTo, if_neg (by omega), if_neg (by omega),
        Int.toNat_ofNat, Int.toNat_ofNat]
    rw [List.range_succ, List.flatMap_append, List.flatMap_singleton, Audience.getContacts_pages hs hl n,
      hp, Nat.succ_mul, List.take_add]

namespace Api

open Http Templates

namespace Audiences

/-! ## Rows and audiences -/

/-- The columns `save_audience` writes for `a`: each contact as its phone number and metadata. -/
def rowOf (a : Audience) : AudienceRow :=
  ⟨a.id, a.tenantId, a.name, a.audienceType, a.status,
    a.contacts.map fun c => (c.phoneNumber, c.metadata),
    a.totalContacts, a.validContacts, a.invalidContacts, a.createdAt, a.updatedAt, a.description,
    a.tags, a.query, a.lastUsedAt⟩

/-- The part of `get_audience_or_404` after the query: `Audience(...)` with the row's columns, and
a `Contact(...)` per stored contact, which raises `ValueError` for a phone without `+`. -/
def audienceOfRow (row : AudienceRow) : Except Exn Audience := do
  let contacts ← row.contacts.mapM fun c => Contact.new c.1 c.2
  pure ⟨row.id, row.tenantId, row.name, row.audienceType, row.status, contacts, row.totalContacts,
    row.validContacts, row.invalidContacts, row.createdAt, row.updatedAt, row.description,
    row.tags, row.query, row.lastUsedAt⟩

/-- `get_audience_or_404(audience_id, tenant_id, session)`: `scalar_one_or_none()` of the query by
id and tenant, then the domain object; a `ValueError` goes up as it is. -/
def getAudienceOr404 (audienceId tenantId : Nat) : SessionM Audience := fun s =>
  match s.working.audiences.filter fun row => row.id == audienceId && row.tenantId == tenantId with
  | [] => .error (.httpException 404 "Audience not found") s
  | [row] =>
    match audienceOfRow row with
    | .ok a => .ok a s
    | .error e => .error (.error e.text) s
  | _ :: _ :: _ => .error (.error "Multiple rows were found when one or none was required") s

/-- The columns `save_audience` assigns onto `existing`: `a`'s, with `tenant_id`, `audience_type`
and `created_at` as they were. -/
def assignedRow (a : Audience) (existing : AudienceRow) : AudienceRow :=
  { rowOf a with
    tenantId := existing.tenantId
    audienceType := existing.audienceType
    createdAt := existing.createdAt }

/-- The row the flush leaves in place of `existing` at `now`. An UPDATE is emitted when an
assigned column changed; if `updated_at` kept its value, `onupdate` sets it to `utcnow()`. -/
def updatedRow (a : Audience) (existing : AudienceRow) (now : Nat) : AudienceRow :=
  let row := assignedRow a existing
  if row.updatedAt = existing.updatedAt ∧ row ≠ existing then { row with updatedAt := now } else row

/-- What `save_audience` writes on `db`: the row with `a`'s id, selected by id alone, updated, or
a new row when there is none. -/
def upsertAudience (a : Audience) (now : Nat) (db : Db) : Db :=
  if h : a.id ∈ db.audiences.map (·.id) then
    { db with
      audiences := db.audiences.map fun row => if row.id = a.id then updatedRow a row now else row
      audienceIdsNodup := by
        rw [List.map_map]
        convert db.audienceIdsNodup using 2
        funext row
        simp only [Function.comp_apply]
        split
        · next he =>
          rw [updatedRow]
          split <;> exact he.symm
        · rfl }
  else
    { db with
      audiences := db.audiences ++ [rowOf a]
      audienceIdsNodup := by
        rw [List.map_append]
        exact List.nodup_append.2 ⟨db.audienceIdsNodup, List.nodup_singleton _,
          fun _ hx hy => h (by rw [List.mem_singleton.1 hy] at hx; exact hx)⟩ }

/-- `save_audience(audience, session)` at `now`, its commit included. -/
def saveAudience (a : Audience) (now : Nat) : SessionM Unit := do
  execute (upsertAudience a now)
  commit

/-- `delete(AudienceModel).where(AudienceModel.id == audience_id)` run on `db`. -/
def deleteAudienceWhereId (audienceId : Nat) (db : Db) : Db :=
  { db with
    audiences := db.audiences.filter (·.id != audienceId)
    audienceIdsNodup :=
      List.Nodup.sublist ((List.filter_sublist db.audiences).map _) db.audienceIdsNodup }

/-- A method of the domain object called inside an endpoint: what it raises goes up. -/
def onAudience {α : Type} (m : EStateM Exn Audience α) (a : Audience) : SessionM (α × Audience) :=
  match m a with
  | .ok x a' => pure (x, a')
  | .error e _ => throw (.error e.text)

/-! ## The endpoints -/

/-- An optional string as JSON. -/
def optionText : Option String → PyJson
  | some t => .str (Codecs.text t)
  | none => .null

/-- A list of tags as JSON. -/
def tagsJson (tags : List String) : PyJson := .list (tags.map fun t => .str (Codecs.text t))

/-- `AudienceResponse(...)` for `a`, with status `statusCode`; the three timestamps are left
out. -/
def audienceResponse (statusCode : Nat) (a : Audience) : Response :=
  jsonResponse statusCode [("id", .str (PyUuid.str a.id)), ("tenant_id", .str (PyUuid.str a.tenantId)),
    ("name", .str a.name), ("audience_type", .str a.audienceType.value),
    ("status", .str a.status.value), ("description", .json (optionText a.description)),
    ("tags", .json (tagsJson a.tags)), ("total_contacts", .int a.totalContacts),
    ("valid_contacts", .int a.validContacts), ("invalid_contacts", .int a.invalidContacts),
    ("query", .json (a.query.getD .null))] []

/-- The body of `POST /audiences` as pydantic validates it (`CreateAudienceRequest`); `query` is
the dict's items. -/
structure CreateAudienceRequest where
  name : String
  description : Option String := none
  audienceType : String := "static"
  query : Option (List (List Nat × PyJson)) := none
  tags : List String := []
  deriving DecidableEq, Repr

/-- `create_audience(request, tenant_id, session)`; `newId` is `uuid4()` and `now` the clock. A
request that is not `dynamic` with a query makes a static audience, whatever type it names. -/
def createAudience (newId now : Nat) (body : CreateAudienceRequest) (tenantId : Nat) :
    SessionM Response := do
  let a := if body.audienceType = "dynamic" ∧ body.query.getD [] ≠ [] then
      Audience.createDynamic newId tenantId body.name (body.query.getD []) now
    else Audience.create newId tenantId body.name .static now
  let a := { a with description := body.description, tags := body.tags }
  saveAudience a now
  pure (audienceResponse 201 a)

/-- `get_audience(audience_id, tenant_id, session)`. -/
def getAudience (audienceId tenantId : Nat) : SessionM Response := do
  let a ← getAudienceOr404 audienceId tenantId
  pure (audienceResponse 200 a)

/-- `add_contacts(audience_id, request, tenant_id, session)` at `now`: `contacts` are the
request's phone numbers and metadata. The answer's `added` counts the contacts sent, whether or
not `add_contacts` appended them. -/
def addContacts (now : Nat) (contacts : List (String × List (String × String)))
    (audienceId tenantId : Nat) : SessionM Response := do
  let a ← getAudienceOr404 audienceId tenantId
  let cs ← match contacts.mapM fun c => Contact.new c.1 c.2 with
    | .ok cs => pure cs
    | .error e => throw (.error e.text)
  let ((), a) ← onAudience (Audience.addContacts cs now) a
  saveAudience a now
  pure (jsonResponse 200 [("added", .int cs.length), ("total_contacts", .int a.totalContacts)] [])

/-- What reading the uploaded file gives: `contents.decode('utf-8')` failing, `csv.DictReader`
raising `csv.Error` with its text, or the rows. -/
inductive UploadRead
  | notUtf8
  | csvError (text : String)
  | rows (rows : List CsvRow)
  deriving DecidableEq

/-- `CSVUploadResponse(**result)`; the list of errors is left out. -/
def csvUploadResponse (stats : ImportStats) : Response :=
  jsonResponse 200 [("imported", .int stats.imported), ("skipped", .int stats.skipped),
    ("total_contacts", .int stats.totalContacts)] []

/-- `upload_csv(audience_id, file, tenant_id, session)` at `now`. The decoding is the first
statement of the `try`, so its `UnicodeDecodeError` meets `except UnicodeDecodeError`; everything
after it meets `except Exception`, which also catches the `HTTPException` for an empty file and
answers it as a "CSV processing error". -/
def uploadCsv (now : Nat) (upload : UploadRead) (audienceId tenantId : Nat) :
    SessionM Response := do
  let a ← getAudienceOr404 audienceId tenantId
  if a.audienceType ≠ .static then
    throw (.httpException 400 "Can only upload CSV to static audiences")
  match upload with
  | .notUtf8 => throw (.httpException 400 "File must be UTF-8 encoded CSV")
  | .csvError text => throw (.httpException 400 ("CSV processing error: " ++ text))
  | .rows rows =>
    tryCatch
      (do
        if rows.isEmpty then throw (.httpException 400 "CSV file is empty")
        let (stats, a) ← onAudience (Audience.importFromCsv rows now) a
        saveAudience a now
        pure (csvUploadResponse stats))
      fun e => throw (.httpException 400 ("CSV processing error: " ++ e.text))

/-- `get_stats(audience_id, tenant_id, session)`; the `None` fields are left out. -/
def getStats (audienceId tenantId : Nat) : SessionM Response := do
  let a ← getAudienceOr404 audienceId tenantId
  pure (jsonResponse 200 [("total_contacts", .int a.totalContacts),
    ("valid_contacts", .int a.validContacts), ("invalid_contacts", .int a.invalidContacts)] [])

/-- `delete_audience(audience_id, tenant_id, session)`: a 204 with no body. -/
def deleteAudience (audienceId tenantId : Nat) : SessionM Response := do
  let _ ← getAudienceOr404 audienceId tenantId
  execute (deleteAudienceWhereId audienceId)
  commit
  pure ⟨204, [], []⟩

/-- The query parameters of `GET /audiences`, with their defaults. -/
structure AudienceListQuery where
  limit : Int := 100
  offset : Int := 0
  status : Option String := none
  audienceType : Option String := none
  deriving DecidableEq, Repr

/-- `AudienceResponse(...)` of a row as `list_audiences` builds it; the three timestamps are left
out. -/
def audienceItem (row : AudienceRow) : PyJson :=
  .dict [(Codecs.text "id", .str (Codecs.text (PyUuid.str row.id))),
    (Codecs.text "tenant_id", .str (Codecs.text (PyUuid.str row.tenantId))),
    (Codecs.text "name", .str (Codecs.text row.name)),
    (Codecs.text "audience_type", .str (Codecs.text row.audienceType.value)),
    (Codecs.text "status", .str (Codecs.text row.status.value)),
    (Codecs.text "description", optionText row.description),
    (Codecs.text "tags", tagsJson row.tags),
    (Codecs.text "total_contacts", .int row.totalContacts),
    (Codecs.text "valid_contacts", .int row.validContacts),
    (Codecs.text "invalid_contacts", .int row.invalidContacts),
    (Codecs.text "query", row.query.getD .null)]

/-- The rows `list_audiences` selects: the tenant's, with the given `status` and `audience_type`
when these are truthy. -/
def selectAudiences (q : AudienceListQuery) (tenantId : Nat) (db : Db) : List AudienceRow :=
  db.audiences.filter fun row => row.tenantId == tenantId &&
    (!truthy q.status || some row.status.value == q.status) &&
    (!truthy q.audienceType || some row.audienceType.value == q.audienceType)

/-- `list_audiences(limit, offset, status, audience_type, tenant_id, session)`: `total` counts the
rows selected, `items` is the page. -/
def listAudiences (q : AudienceListQuery) (tenantId : Nat) : SessionM Response := fun s =>
  let rows := selectAudiences q tenantId s.working
  match page (·.createdAt) q.limit q.offset rows with
  | .ok items => .ok (jsonResponse 200 [("items", .json (.list (items.map audienceItem))),
      ("total", .int rows.length), ("limit", .int q.limit), ("offset", .int q.offset)] []) s
  | .error e => .error (.error e) s

/-- `ContactResponse(...)` of a contact. -/
def contactItem (c : Contact) : PyJson :=
  .dict [(Codecs.text "phone_number", .str (Codecs.text c.phoneNumber)),
    (Codecs.text "metadata", .dict (c.metadata.map fun kv => (Codecs.text kv.1, .str (Codecs.text kv.2))))]

/-- `get_contacts(audience_id, limit, offset, tenant_id, session)`: `total` is the audience's
`total_contacts`, whatever the page holds. -/
def getContacts (limit offset : Int) (audienceId tenantId : Nat) : SessionM Response := do
  let a ← getAudienceOr404 audienceId tenantId
  let contacts := a.getContacts (some limit) offset
  pure (jsonResponse 200 [("items", .json (.list (contacts.map contactItem))),
    ("total", .int a.totalContacts), ("limit", .int limit), ("offset", .int offset)] [])

/-! ## The router -/

/-- What FastAPI reads from a request besides its path and headers: a path segment validated as a
`UUID`, the query parameters and the bodies of the endpoints that take them; `none` is what
pydantic rejects. -/
structure Parsers where
  uuid : String → Option Nat
  createBody : Request → Option CreateAudienceRequest
  listQuery : Request → Option AudienceListQuery
  /-- `limit` and `offset` of `get_contacts`, 100 and 0 when absent. -/
  pageQuery : Request → Option (Int × Int)
  contactsBody : Request → Option (List (String × List (String × String)))
  upload : Request → Option UploadRead

/-- The application's routes with the audience routes in front; `newId` is `uuid4()` as
`Audience.create` draws it, and `other` every other route, FastAPI's 404 and 405 included. -/
def audiencesRoute (p : Parsers) (newId : Request → RouteCtx → Nat) (other : Route) : Route :=
  fun req c =>
  let pre := "/api/v1/audiences/"
  let now := c.now.toNat
  if req.path = "/api/v1/audiences" ∧ req.method = "POST" then
    runEndpoint (p.createBody req) (createAudience (newId req c) now) req c.db
  else if req.path = "/api/v1/audiences" ∧ req.method = "GET" then
    runEndpoint (p.listQuery req) listAudiences req c.db
  else match matchPathParam pre "" req.path with
  | some id =>
    if req.method = "GET" then runEndpoint (p.uuid id) getAudience req c.db
    else if req.method = "DELETE" then runEndpoint (p.uuid id) deleteAudience req c.db
    else other req c
  | none =>
  match matchPathParam pre "/upload" req.path with
  | some id =>
    if req.method = "POST" then
      runEndpoint ((p.uuid id).bind fun i => (p.upload req).map (i, ·))
        (fun q => uploadCsv now q.2 q.1) req c.db
    else other req c
  | none =>
  match matchPathParam pre "/contacts" req.path with
  | some id =>
    if req.method = "POST" then
      runEndpoint ((p.uuid id).bind fun i => (p.contactsBody req).map (i, ·))
        (fun q => addContacts now q.2 q.1) req c.db
    else if req.method = "GET" then
      runEndpoint ((p.uuid id).bind fun i => (p.pageQuery req).map (i, ·))
        (fun q => getContacts q.2.1 q.2.2 q.1) req c.db
    else other req c
  | none =>
  match matchPathParam pre "/stats" req.path with
  | some id => if req.method = "GET" then runEndpoint (p.uuid id) getStats req c.db else other req c
  | none => other req c

/-! ## Rows and audiences, both ways -/

theorem contactNew_self (c : Contact) : Contact.new c.phoneNumber c.metadata = .ok c := by
  unfold Contact.new
  rw [dif_pos c.plus]

theorem contactNew_ok {phone : String} {metadata : List (String × String)} {c : Contact}
    (h : Contact.new phone metadata = .ok c) : (c.phoneNumber, c.metadata) = (phone, metadata) := by
  unfold Contact.new at h
  split at h
  · cases h; rfl
  · cases h

theorem mapM_contactNew (cs : List Contact) :
    (cs.map fun c => (c.phoneNumber, c.metadata)).mapM (fun c => Contact.new c.1 c.2) = .ok cs := by
  induction cs with
  | nil => rfl
  | cons c cs ih =>
    simp only [List.map_cons, List.mapM_cons, contactNew_self, ih]
    rfl

theorem mapM_contactNew_ok : ∀ {l : List (String × List (String × String))} {cs : List Contact},
    l.mapM (fun c => Contact.new c.1 c.2) = .ok cs → cs.map (fun c => (c.phoneNumber, c.metadata)) = l
  | [], cs, h => by cases h; rfl
  | x :: l, cs, h => by
    rw [List.mapM_cons] at h
    cases hx : Contact.new x.1 x.2 with
    | error e => rw [hx] at h; cases h
    | ok c =>
      cases hl : l.mapM (fun c => Contact.new c.1 c.2) with
      | error e => rw [hx, hl] at h; cases h
      | ok cs' =>
        rw [hx, hl] at h
        cases h
        rw [List.map_cons, mapM_contactNew_ok hl, contactNew_ok hx]

/-- **Loading what is saved.** The row `save_audience` writes for an audience rebuilds it. -/
theorem audienceOfRow_rowOf (a : Audience) : audienceOfRow (rowOf a) = .ok a := by
  simp only [audienceOfRow, rowOf, mapM_contactNew]
  rfl

/-- An audience `get_audience_or_404` rebuilds from a row is one whose row that is. -/
theorem rowOf_of_audienceOfRow {row : AudienceRow} {a : Audience} (h : audienceOfRow row = .ok a) :
    rowOf a = row := by
  unfold audienceOfRow at h
  cases hc : row.contacts.mapM (fun c => Contact.new c.1 c.2) with
  | error e => rw [hc] at h; cases h
  | ok cs =>
    rw [hc] at h
    cases h
    simp only [rowOf, mapM_contactNew_ok hc]

/-! ## What the statements do to the table -/

section UpdatedRow

variable (a : Audience) (x : AudienceRow) (now : Nat)

/-- `onupdate` touches `updated_at` alone. -/
theorem updatedRow_eq :
    updatedRow a x now = { assignedRow a x with updatedAt := (updatedRow a x now).updatedAt } := by
  dsimp only [updatedRow]; split <;> rfl

@[simp] theorem updatedRow_id : (updatedRow a x now).id = a.id := by rw [updatedRow_eq]; rfl
@[simp] theorem updatedRow_tenantId : (updatedRow a x now).tenantId = x.tenantId := by
  rw [updatedRow_eq]; rfl
@[simp] theorem updatedRow_contacts :
    (updatedRow a x now).contacts = a.contacts.map fun c => (c.phoneNumber, c.metadata) := by
  rw [updatedRow_eq]; rfl
@[simp] theorem updatedRow_totalContacts : (updatedRow a x now).totalContacts = a.totalContacts := by
  rw [updatedRow_eq]; rfl
@[simp] theorem updatedRow_validContacts : (updatedRow a x now).validContacts = a.validContacts := by
  rw [updatedRow_eq]; rfl

/-- Over a row of the audience's own tenant, type and creation time, the update writes the
audience's row, stamped by `onupdate` when it keeps `updated_at` and changes another column. -/
theorem updatedRow_of_keeps
    (hx : x.tenantId = a.tenantId ∧ x.audienceType = a.audienceType ∧ x.createdAt = a.createdAt) :
    updatedRow a x now =
      rowOf (if x.updatedAt = a.updatedAt ∧ x ≠ rowOf a then { a with updatedAt := now } else a) := by
  obtain ⟨ht, hty, hc⟩ := hx
  have hrow : assignedRow a x = rowOf a := by rw [assignedRow, ht, hty, hc]; rfl
  simp only [updatedRow, hrow]
  by_cases h : x.updatedAt = a.updatedAt ∧ x ≠ rowOf a
  · rw [if_pos ⟨h.1.symm, Ne.symm h.2⟩, if_pos h]; rfl
  · rw [if_neg fun h' => h ⟨h'.1.symm, Ne.symm h'.2⟩, if_neg h]

end UpdatedRow

theorem mem_upsertAudience {a : Audience} {now : Nat} {db : Db} {row : AudienceRow} :
    row ∈ (upsertAudience a now db).audiences ↔
      (row ∈ db.audiences ∧ row.id ≠ a.id) ∨
      (∃ x ∈ db.audiences, x.id = a.id ∧ row = updatedRow a x now) ∨
      (a.id ∉ db.audiences.map (·.id) ∧ row = rowOf a) := by
  unfold upsertAudience
  split
  · next h =>
    simp only [List.mem_map]
    constructor
    · rintro ⟨x, hx, rfl⟩
      by_cases he : x.id = a.id
      · exact .inr (.inl ⟨x, hx, he, by rw [if_pos he]⟩)
      · exact .inl ⟨by rw [if_neg he]; exact hx, by rw [if_neg he]; exact he⟩
    · rintro (⟨hr, hne⟩ | ⟨x, hx, he, rfl⟩ | ⟨hn, -⟩)
      · exact ⟨row, hr, by rw [if_neg hne]⟩
      · exact ⟨x, hx, by rw [if_pos he]⟩
      · exact absurd (List.mem_map.1 h) hn
  · next h =>
    rw [List.mem_append, List.mem_singleton]
    constructor
    · rintro (hr | rfl)
      · exact .inl ⟨hr, fun he => h (he ▸ List.mem_map_of_mem _ hr)⟩
      · exact .inr (.inr ⟨h, rfl⟩)
    · rintro (⟨hr, -⟩ | ⟨x, hx, he, -⟩ | ⟨-, rfl⟩)
      · exact .inl hr
      · exact absurd (he ▸ List.mem_map_of_mem _ hx) h
      · exact .inr rfl

/-- The query by id and tenant selects exactly the row with that id. -/
theorem filter_id_eq_singleton : ∀ {l : List AudienceRow} {row : AudienceRow},
    (l.map (·.id)).Nodup → row ∈ l →
      l.filter (fun x => x.id == row.id && x.tenantId == row.tenantId) = [row]
  | [], _, _, h => absurd h (List.not_mem_nil _)
  | x :: l, row, hn, h => by
    rw [List.map_cons, List.nodup_cons] at hn
    rw [List.filter_cons]
    rcases List.mem_cons.1 h with rfl | h
    · rw [if_pos (by simp), List.filter_eq_nil_iff.2 fun y hy => ?_]
      have hne : y.id ≠ row.id := fun he => hn.1 (he ▸ List.mem_map_of_mem _ hy)
      simp [hne]
    · have hne : x.id ≠ row.id := fun he => hn.1 (he ▸ List.mem_map_of_mem _ h)
      rw [if_neg (by simp [hne]), filter_id_eq_singleton hn.2 h]

/-- **What `save_audience` writes, `get_audience_or_404` reads back.** Saving an audience at
`now` and then loading it by its id and tenant gives the same audience, provided a row that
already has its id is one of its tenant, type and creation time — the columns the update keeps —
except where `onupdate` stamps `updated_at`: the row existed with the audience's `updated_at` and
differs from the audience's row in another column. -/
theorem saved_audience_loads_back (a : Audience) (now : Nat) (s : Session)
    (hrow : ∀ row ∈ s.working.audiences, row.id = a.id →
      row.tenantId = a.tenantId ∧ row.audienceType = a.audienceType ∧ row.createdAt = a.createdAt) :
    getAudienceOr404 a.id a.tenantId (resultState (saveAudience a now s)) =
      .ok (if ∃ row ∈ s.working.audiences,
            row.id = a.id ∧ row.updatedAt = a.updatedAt ∧ row ≠ rowOf a
          then { a with updatedAt := now } else a)
        (resultState (saveAudience a now s)) := by
  generalize hb : (if ∃ row ∈ s.working.audiences,
      row.id = a.id ∧ row.updatedAt = a.updatedAt ∧ row ≠ rowOf a
    then { a with updatedAt := now } else a) = b
  have hid : b.id = a.id ∧ b.tenantId = a.tenantId := by rw [← hb]; split <;> exact ⟨rfl, rfl⟩
  have hmem : rowOf b ∈ (upsertAudience a now s.working).audiences := by
    rw [mem_upsertAudience, ← hb]
    by_cases h : a.id ∈ s.working.audiences.map (·.id)
    · obtain ⟨x, hx, hxa⟩ := List.mem_map.1 h
      refine .inr (.inl ⟨x, hx, hxa, ?_⟩)
      rw [updatedRow_of_keeps a x now (hrow x hx hxa)]
      refine congrArg rowOf (if_congr ?_ rfl rfl)
      constructor
      · rintro ⟨y, hy, hya, hyu, hyne⟩
        rw [List.inj_on_of_nodup_map s.working.audienceIdsNodup hy hx (hya.trans hxa.symm)]
          at hyu hyne
        exact ⟨hyu, hyne⟩
      · exact fun hc => ⟨x, hx, hxa, hc⟩
    · rw [if_neg fun ⟨y, hy, hya, _⟩ => h (hya ▸ List.mem_map_of_mem _ hy)]
      exact .inr (.inr ⟨h, rfl⟩)
  show getAudienceOr404 a.id a.tenantId
    ⟨upsertAudience a now s.working, upsertAudience a now s.working⟩ = _
  rw [← hid.1, ← hid.2]
  show getAudienceOr404 (rowOf b).id (rowOf b).tenantId _ = _
  unfold getAudienceOr404
  dsimp only
  rw [filter_id_eq_singleton (upsertAudience a now s.working).audienceIdsNodup hmem]
  dsimp only
  rw [audienceOfRow_rowOf]
  rfl

/-- Renaming a stored audience without touching `updated_at`: the load gives back the new name,
and `updated_at` as `onupdate` stamped it at the save. -/
theorem saved_audience_loads_back_rename :
    let a : Audience := ⟨5, 2, "vip", .static, .active, [], 0, 0, 0, 0, 7, none, [], none, none⟩
    let db : Db := ⟨[], .nil,
      [⟨5, 2, "new", .static, .active, [], 0, 0, 0, 0, 7, none, [], none, none⟩],
      List.nodup_singleton 5⟩
    (∀ row ∈ (⟨db, db⟩ : Session).working.audiences, row.id = a.id →
      row.tenantId = a.tenantId ∧ row.audienceType = a.audienceType ∧ row.createdAt = a.createdAt) ∧
    getAudienceOr404 a.id a.tenantId (resultState (saveAudience a 9 ⟨db, db⟩)) =
      .ok (if ∃ row ∈ (⟨db, db⟩ : Session).working.audiences,
            row.id = a.id ∧ row.updatedAt = a.updatedAt ∧ row ≠ rowOf a
          then { a with updatedAt := 9 } else a)
        (resultState (saveAudience a 9 ⟨db, db⟩)) ∧
    (∃ row ∈ (⟨db, db⟩ : Session).working.audiences,
      row.id = a.id ∧ row.updatedAt = a.updatedAt ∧ row ≠ rowOf a) := by
  intro a db
  have hrow : ∀ row ∈ (⟨db, db⟩ : Session).working.audiences, row.id = a.id →
      row.tenantId = a.tenantId ∧ row.audienceType = a.audienceType ∧ row.createdAt = a.createdAt :=
    by decide
  exact ⟨hrow, saved_audience_loads_back a 9 ⟨db, db⟩ hrow, by decide⟩

/-- The rows of tenants other than `t` are the same in `db'` as in `db`. -/
def TenantFrame (t : Nat) (db db' : Db) : Prop :=
  ∀ row : AudienceRow, row.tenantId ≠ t → (row ∈ db'.audiences ↔ row ∈ db.audiences)

theorem frame_upsertAudience {t : Nat} {a : Audience} {now : Nat} {db : Db} (ht : a.tenantId = t)
    (hown : ∀ row ∈ db.audiences, row.id = a.id → row.tenantId = t) :
    TenantFrame t db (upsertAudience a now db) := by
  intro row hrow
  rw [mem_upsertAudience]
  constructor
  · rintro (⟨h, -⟩ | ⟨x, hx, hxa, rfl⟩ | ⟨-, rfl⟩)
    · exact h
    · exact absurd ((updatedRow_tenantId a x now).trans (hown x hx hxa)) hrow
    · exact absurd ht hrow
  · exact fun h => .inl ⟨h, fun he => hrow (hown row h he)⟩

theorem frame_deleteAudienceWhereId {t i : Nat} {db : Db}
    (hown : ∀ row ∈ db.audiences, row.id = i → row.tenantId = t) :
    TenantFrame t db (deleteAudienceWhereId i db) := by
  intro row hrow
  simp only [deleteAudienceWhereId, List.mem_filter, bne_iff_ne, ne_eq]
  exact ⟨fun h => h.1, fun h => ⟨h, fun he => hrow (hown row h he)⟩⟩

/-- A stored audience whose phone strings are distinct and whose two counters are its number of
contacts. -/
structure RowWellFormed (row : AudienceRow) : Prop where
  nodup : (row.contacts.map (·.1)).Nodup
  total : row.totalContacts = row.contacts.length
  valid : row.validContacts = row.contacts.length

/-- Every stored audience is well formed. -/
def DbWellFormed (db : Db) : Prop := ∀ row ∈ db.audiences, RowWellFormed row

theorem rowWellFormed_rowOf {a : Audience} : RowWellFormed (rowOf a) ↔ a.WellFormed := by
  have hm : (rowOf a).contacts.map (·.1) = a.contacts.map (·.phoneNumber) := List.map_map _ _ _
  have hl : (rowOf a).contacts.length = a.contacts.length := List.length_map _ _
  constructor
  · rintro ⟨n, t, v⟩
    exact ⟨hm ▸ n, hl ▸ t, hl ▸ v⟩
  · rintro ⟨n, t, v⟩
    exact ⟨hm ▸ n, hl ▸ t, hl ▸ v⟩

theorem wellFormed_upsertAudience {a : Audience} {now : Nat} {db : Db} (hdb : DbWellFormed db)
    (ha : a.WellFormed) : DbWellFormed (upsertAudience a now db) := by
  intro row hrow
  have h := rowWellFormed_rowOf.2 ha
  rcases mem_upsertAudience.1 hrow with ⟨h, -⟩ | ⟨x, -, -, rfl⟩ | ⟨-, rfl⟩
  · exact hdb row h
  · rw [updatedRow_eq]; exact ⟨h.nodup, h.total, h.valid⟩
  · exact h

theorem wellFormed_deleteAudienceWhereId {i : Nat} {db : Db} (hdb : DbWellFormed db) :
    DbWellFormed (deleteAudienceWhereId i db) :=
  fun row h => hdb row (List.mem_filter.1 h).1

theorem eq_of_id_eq {db : Db} {x y : AudienceRow} (hx : x ∈ db.audiences) (hy : y ∈ db.audiences)
    (h : y.id = x.id) : y = x :=
  List.inj_on_of_nodup_map db.audienceIdsNodup hy hx h

/-! ## What an endpoint commits -/

/-- What an audience endpoint run for tenant `t` on `db` may commit: nothing; an audience of `t`,
saved — provided `fresh`, which a new audience's id needs — where no row of another tenant has its
id; or the removal of the rows with an id only `t`'s rows carry. With `wf`, a saved audience is
well formed whenever the table is. -/
inductive Commits (t : Nat) (db : Db) (wf : Bool) (fresh : Prop) : Db → Prop
  | unchanged : Commits t db wf fresh db
  | save (a : Audience) (now : Nat) (ht : a.tenantId = t)
      (hown : fresh → ∀ row ∈ db.audiences, row.id = a.id → row.tenantId = t)
      (hwf : wf = true → DbWellFormed db → a.WellFormed)
      (htot : a.totalContacts = a.contacts.length) :
      Commits t db wf fresh (upsertAudience a now db)
  | delete (i : Nat) (hown : ∀ row ∈ db.audiences, row.id = i → row.tenantId = t) :
      Commits t db wf fresh (deleteAudienceWhereId i db)

theorem Commits.frame {t : Nat} {db db' : Db} {wf : Bool} {fresh : Prop}
    (h : Commits t db wf fresh db') (hf : fresh) : TenantFrame t db db' := by
  cases h with
  | unchanged => exact fun _ _ => Iff.rfl
  | save a now ht hown => exact frame_upsertAudience ht (hown hf)
  | delete i hown => exact frame_deleteAudienceWhereId hown

theorem Commits.wellFormed {t : Nat} {db db' : Db} {fresh : Prop} (h : Commits t db true fresh db')
    (hdb : DbWellFormed db) : DbWellFormed db' := by
  cases h with
  | unchanged => exact hdb
  | save a now _ _ hwf _ => exact wellFormed_upsertAudience hdb (hwf rfl hdb)
  | delete i _ => exact wellFormed_deleteAudienceWhereId hdb

/-- Saving `a'` in place of `a`, which was loaded from `db` for `t`, keeping its id and tenant. -/
theorem Commits.saveLoaded {t : Nat} {db : Db} {wf : Bool} {fresh : Prop} {a a' : Audience}
    (now : Nat) (hmem : rowOf a ∈ db.audiences) (ht : a.tenantId = t) (hid : a'.id = a.id)
    (hten : a'.tenantId = a.tenantId) (hwf : wf = true → a.WellFormed → a'.WellFormed)
    (htot : a'.totalContacts = a'.contacts.length) :
    Commits t db wf fresh (upsertAudience a' now db) :=
  .save a' now (hten.trans ht) (fun _ row hr he => by rw [eq_of_id_eq hmem hr (he.trans hid)]; exact ht)
    (fun hw hdb => hwf hw (rowWellFormed_rowOf.1 (hdb _ hmem))) htot

/-- Every stored audience's `total_contacts` is its number of contacts. -/
def TotalsExact (db : Db) : Prop := ∀ row ∈ db.audiences, row.totalContacts = row.contacts.length

theorem Commits.totalsExact {t : Nat} {db db' : Db} {wf : Bool} {fresh : Prop}
    (h : Commits t db wf fresh db') (hdb : TotalsExact db) : TotalsExact db' := by
  cases h with
  | unchanged => exact hdb
  | save a now _ _ _ htot =>
    intro row hrow
    rcases mem_upsertAudience.1 hrow with ⟨h, -⟩ | ⟨x, -, -, rfl⟩ | ⟨-, rfl⟩
    · exact hdb row h
    all_goals simpa [rowOf] using htot
  | delete i _ => exact fun row h => hdb row (List.mem_filter.1 h).1

/-- `get_audience_or_404` changes nothing, and returns only an audience of the tenant with the
id asked for, whose row is in the table. -/
theorem getAudienceOr404_apply (audienceId tenantId : Nat) (s : Session) :
    (∃ a, getAudienceOr404 audienceId tenantId s = .ok a s ∧ a.id = audienceId ∧
      a.tenantId = tenantId ∧ rowOf a ∈ s.working.audiences) ∨
    ∃ e, getAudienceOr404 audienceId tenantId s = .error e s := by
  unfold getAudienceOr404
  split
  · exact .inr ⟨_, rfl⟩
  · next row hsel =>
    have hrow := List.mem_filter.1 (hsel ▸ List.mem_singleton_self row : row ∈ _)
    simp only [Bool.and_eq_true, beq_iff_eq] at hrow
    cases ha : audienceOfRow row with
    | ok a =>
      have h := rowOf_of_audienceOfRow ha
      subst row
      exact .inl ⟨a, rfl, hrow.2.1, hrow.2.2, hrow.1⟩
    | error e => exact .inr ⟨_, rfl⟩
  · exact .inr ⟨_, rfl⟩

theorem Session.tryCatch_apply {α : Type} (x : SessionM α) (h : Raised → SessionM α) (s : Session) :
    tryCatch x h s = match x s with
      | .ok a s' => .ok a s'
      | .error e s' => h e s' := by
  cases hx : x s <;> simp [tryCatch, tryCatchThe, MonadExceptOf.tryCatch, EStateM.tryCatch, hx,
    EStateM.Backtrackable.restore, EStateM.dummyRestore]

theorem addContacts_keeps (a : Audience) (cs : List Contact) (now : Nat) :
    (resultState (Audience.addContacts cs now a)).id = a.id ∧
      (resultState (Audience.addContacts cs now a)).tenantId = a.tenantId := by
  unfold Audience.addContacts
  split <;> exact ⟨rfl, rfl⟩

theorem importFromCsv_keeps (a : Audience) (rows : List CsvRow) (now : Nat) :
    (resultState (Audience.importFromCsv rows now a)).id = a.id ∧
      (resultState (Audience.importFromCsv rows now a)).tenantId = a.tenantId := by
  unfold Audience.importFromCsv
  split <;> exact ⟨rfl, rfl⟩

theorem addContacts_total {a a' : Audience} {cs : List Contact} {now : Nat} {u : Unit}
    (h : Audience.addContacts cs now a = .ok u a') : a'.totalContacts = a'.contacts.length := by
  unfold Audience.addContacts at h
  split at h <;> cases h
  rfl

theorem importFromCsv_total {a a' : Audience} {rows : List CsvRow} {now : Nat} {st : ImportStats}
    (h : Audience.importFromCsv rows now a = .ok st a') : a'.totalContacts = a'.contacts.length := by
  unfold Audience.importFromCsv at h
  split at h <;> cases h
  rfl

section Endpoints

variable {db : Db} {t : Nat} {fresh : Prop}

/-- `create_audience` saves a new audience of the request's tenant, with no contacts; the row is
the tenant's own when `uuid4()` drew an id no row has. -/
theorem createAudience_commits (newId now : Nat) (body : CreateAudienceRequest) :
    Commits t db true (newId ∉ db.audiences.map (·.id))
      (resultState (createAudience newId now body t ⟨db, db⟩)).committed := by
  have hnew : newId ∉ db.audiences.map (·.id) → ∀ row ∈ db.audiences, row.id = newId → row.tenantId = t :=
    fun hfresh row hr he => absurd (he ▸ List.mem_map_of_mem _ hr) hfresh
  unfold createAudience
  split_ifs
  all_goals exact .save _ now rfl hnew (fun _ _ => ⟨List.nodup_nil, rfl, rfl⟩) rfl

theorem getAudience_commits (audienceId : Nat) :
    Commits t db true fresh (resultState (getAudience audienceId t ⟨db, db⟩)).committed := by
  unfold getAudience
  rw [Session.bind_apply]
  rcases getAudienceOr404_apply audienceId t ⟨db, db⟩ with ⟨a, h, -⟩ | ⟨e, h⟩ <;> rw [h] <;>
    exact .unchanged

theorem getStats_commits (audienceId : Nat) :
    Commits t db true fresh (resultState (getStats audienceId t ⟨db, db⟩)).committed := by
  unfold getStats
  rw [Session.bind_apply]
  rcases getAudienceOr404_apply audienceId t ⟨db, db⟩ with ⟨a, h, -⟩ | ⟨e, h⟩ <;> rw [h] <;>
    exact .unchanged

theorem getContacts_commits (limit offset : Int) (audienceId : Nat) :
    Commits t db true fresh (resultState (getContacts limit offset audienceId t ⟨db, db⟩)).committed := by
  unfold getContacts
  rw [Session.bind_apply]
  rcases getAudienceOr404_apply audienceId t ⟨db, db⟩ with ⟨a, h, -⟩ | ⟨e, h⟩ <;> rw [h] <;>
    exact .unchanged

theorem listAudiences_state (q : AudienceListQuery) (tenantId : Nat) (s : Session) :
    resultState (listAudiences q tenantId s) = s := by
  unfold listAudiences
  dsimp only
  split <;> rfl

theorem listAudiences_commits (q : AudienceListQuery) :
    Commits t db true fresh (resultState (listAudiences q t ⟨db, db⟩)).committed := by
  rw [listAudiences_state]
  exact .unchanged

/-- `delete_audience` deletes by the path's id only once `get_audience_or_404` has found that id
for the request's tenant. -/
theorem deleteAudience_commits (audienceId : Nat) :
    Commits t db true fresh (resultState (deleteAudience audienceId t ⟨db, db⟩)).committed := by
  unfold deleteAudience
  rw [Session.bind_apply]
  rcases getAudienceOr404_apply audienceId t ⟨db, db⟩ with ⟨a, h, hi, ht, hmem⟩ | ⟨e, h⟩ <;> rw [h]
  · exact .delete audienceId fun row hr he => by
      rw [eq_of_id_eq hmem hr (he.trans hi.symm)]
      exact ht
  · exact .unchanged

/-- `add_contacts` saves the audience it loaded, with the contacts `Audience.add_contacts`
appends, or commits nothing. -/
theorem addContacts_commits (now : Nat) (contacts : List (String × List (String × String)))
    (audienceId : Nat) :
    Commits t db true fresh (resultState (addContacts now contacts audienceId t ⟨db, db⟩)).committed := by
  unfold addContacts
  rw [Session.bind_apply]
  rcases getAudienceOr404_apply audienceId t ⟨db, db⟩ with ⟨a, h, -, ht, hmem⟩ | ⟨e, h⟩ <;> rw [h]
  · dsimp only
    cases contacts.mapM fun c => Contact.new c.1 c.2 with
    | error e => exact .unchanged
    | ok cs =>
      dsimp only
      rw [pure_bind, Session.bind_apply]
      unfold onAudience
      have hk := addContacts_keeps a cs now
      have hw := fun (_ : true = true) (ha : a.WellFormed) => Audience.addContacts_wellFormed ha cs now
      cases hadd : Audience.addContacts cs now a with
      | ok u a' =>
        rw [hadd] at hk hw
        exact Commits.saveLoaded now hmem ht hk.1 hk.2 hw (addContacts_total hadd)
      | error e a' => exact .unchanged
  · exact .unchanged

/-- `upload_csv` saves the audience it loaded, with the rows `import_from_csv` appends, or commits
nothing; nothing is known of the contacts it appends. -/
theorem uploadCsv_commits (now : Nat) (upload : UploadRead) (audienceId : Nat) :
    Commits t db false fresh (resultState (uploadCsv now upload audienceId t ⟨db, db⟩)).committed := by
  unfold uploadCsv
  rw [Session.bind_apply]
  rcases getAudienceOr404_apply audienceId t ⟨db, db⟩ with ⟨a, h, -, ht, hmem⟩ | ⟨e, h⟩ <;> rw [h]
  · dsimp only
    split_ifs
    · exact .unchanged
    · cases upload with
      | notUtf8 => exact .unchanged
      | csvError text => exact .unchanged
      | rows rows =>
        rw [pure_bind]
        dsimp only
        rw [Session.tryCatch_apply]
        split_ifs
        · exact .unchanged
        · rw [pure_bind, Session.bind_apply]
          unfold onAudience
          have hk := importFromCsv_keeps a rows now
          cases himp : Audience.importFromCsv rows now a with
          | ok st a' =>
            rw [himp] at hk
            exact Commits.saveLoaded now hmem ht hk.1 hk.2 (fun h => nomatch h)
              (importFromCsv_total himp)
          | error e a' => exact .unchanged
  · exact .unchanged

end Endpoints

/-! ## The router -/

/-- The requests the router hands to `upload_csv`. -/
def IsUpload (method path : String) : Prop :=
  method = "POST" ∧ (matchPathParam "/api/v1/audiences/" "/upload" path).isSome

/-- What a request commits through `runEndpoint` on `db`: nothing, or what `Commits` allows for the
tenant `get_current_tenant` gives it. -/
def RunCommits (req : Request) (db : Db) (wf : Bool) (fresh : Prop) (db' : Db) : Prop :=
  db' = db ∨ ∃ t, AuthMiddleware.getCurrentTenant req = .ok t ∧ Commits t db wf fresh db'

theorem runEndpoint_commits {β : Type} {endpoint : β → Nat → SessionM Response} {db : Db}
    {wf : Bool} {fresh : Prop}
    (h : ∀ q t, Commits t db wf fresh (resultState (endpoint q t ⟨db, db⟩)).committed)
    (params : Option β) (req : Request) :
    RunCommits req db wf fresh (runEndpoint params endpoint req db).2 := by
  unfold runEndpoint
  split
  · exact .inl rfl
  · next t ht =>
    cases params with
    | none => exact .inl rfl
    | some q =>
      dsimp only
      rw [endpoint_db]
      exact .inr ⟨t, ht, h q t⟩

/-- **What the audience routes commit.** The database `other` leaves, or what `Commits` allows for
the request's tenant — well formed unless the request is a CSV upload, and the tenant's own if
`uuid4()` drew an unused id. -/
theorem audiencesRoute_commits (p : Parsers) (newId : Request → RouteCtx → Nat) (other : Route)
    (r : Request) (c : RouteCtx) :
    (audiencesRoute p newId other r c).2 = (other r c).2 ∨
      ∃ wf, (wf = false → IsUpload r.method r.path) ∧
        RunCommits r c.db wf (newId r c ∉ c.db.audiences.map (·.id))
          (audiencesRoute p newId other r c).2 := by
  unfold audiencesRoute
  dsimp only
  by_cases hc : r.path = "/api/v1/audiences" ∧ r.method = "POST"
  · rw [if_pos hc]
    exact .inr ⟨true, nofun, runEndpoint_commits (fun _ _ => createAudience_commits _ _ _) _ _⟩
  rw [if_neg hc]
  by_cases hl : r.path = "/api/v1/audiences" ∧ r.method = "GET"
  · rw [if_pos hl]
    exact .inr ⟨true, nofun, runEndpoint_commits (fun q _ => listAudiences_commits q) _ _⟩
  rw [if_neg hl]
  split
  · split
    · exact .inr ⟨true, nofun, runEndpoint_commits (fun q _ => getAudience_commits q) _ _⟩
    split
    · exact .inr ⟨true, nofun, runEndpoint_commits (fun q _ => deleteAudience_commits q) _ _⟩
    · exact .inl rfl
  split
  · next id hid =>
    split
    · next hm =>
      exact .inr ⟨false, fun _ => ⟨hm, by rw [hid]; rfl⟩,
        runEndpoint_commits (fun (q : Nat × UploadRead) _ => uploadCsv_commits _ q.2 q.1) _ _⟩
    · exact .inl rfl
  split
  · split
    · exact .inr ⟨true, nofun, runEndpoint_commits
        (fun (q : Nat × List (String × List (String × String))) _ => addContacts_commits _ q.2 q.1) _ _⟩
    split
    · exact .inr ⟨true, nofun, runEndpoint_commits
        (fun (q : Nat × Int × Int) _ => getContacts_commits q.2.1 q.2.2 q.1) _ _⟩
    · exact .inl rfl
  split
  · split
    · exact .inr ⟨true, nofun, runEndpoint_commits (fun q _ => getStats_commits q) _ _⟩
    · exact .inl rfl
  · exact .inl rfl

/-! ## What a request reads

The read side of tenant isolation: the audience endpoints run for tenant `t` on two databases
with the same rows of `t` answer alike and leave the same rows of `t`. -/

/-- The rows of tenant `t`, in table order. -/
def tenantRows (t : Nat) (db : Db) : List AudienceRow := db.audiences.filter (·.tenantId == t)

theorem mem_tenantRows {t : Nat} {db : Db} {row : AudienceRow} :
    row ∈ tenantRows t db ↔ row ∈ db.audiences ∧ row.tenantId = t := by
  simp [tenantRows]

/-- The query of `get_audience_or_404` reads the tenant's rows only. -/
theorem select_tenantRows (i t : Nat) (db : Db) :
    db.audiences.filter (fun row => row.id == i && row.tenantId == t) =
      (tenantRows t db).filter (·.id == i) := by
  rw [tenantRows, List.filter_filter]

theorem getAudienceOr404_congr (i t : Nat) (s₁ s₂ : Session)
    (h : tenantRows t s₁.working = tenantRows t s₂.working) :
    (∃ a, getAudienceOr404 i t s₁ = .ok a s₁ ∧ getAudienceOr404 i t s₂ = .ok a s₂) ∨
      ∃ e, getAudienceOr404 i t s₁ = .error e s₁ ∧ getAudienceOr404 i t s₂ = .error e s₂ := by
  unfold getAudienceOr404
  rw [select_tenantRows, select_tenantRows, h]
  split
  · exact .inr ⟨_, rfl, rfl⟩
  · split
    · exact .inl ⟨_, rfl, rfl⟩
    · exact .inr ⟨_, rfl, rfl⟩
  · exact .inr ⟨_, rfl, rfl⟩

/-- The audience `get_audience_or_404` loads is one of the tenant's rows. -/
theorem getAudienceOr404_tenantRows {i t : Nat} {s s' : Session} {a : Audience}
    (h : getAudienceOr404 i t s = .ok a s') :
    a.tenantId = t ∧ a.id ∈ (tenantRows t s.working).map (·.id) := by
  rcases getAudienceOr404_apply i t s with ⟨a', h', -, ht, hmem⟩ | ⟨e, h'⟩ <;> rw [h'] at h
  · cases h
    exact ⟨ht, List.mem_map_of_mem _ (mem_tenantRows.2 ⟨hmem, ht⟩)⟩
  · cases h

theorem tenantRows_upsertAudience_mem {t : Nat} {a : Audience} {now : Nat} {db : Db}
    (hm : a.id ∈ db.audiences.map (·.id)) :
    tenantRows t (upsertAudience a now db) =
      (tenantRows t db).map fun row => if row.id = a.id then updatedRow a row now else row := by
  unfold upsertAudience tenantRows
  rw [dif_pos hm]
  refine (List.filter_map _ _).trans (congrArg _ (List.filter_congr fun row _ => ?_))
  simp only [Function.comp_apply]
  split
  · rw [updatedRow_tenantId]
  · rfl

theorem tenantRows_upsertAudience_fresh {t : Nat} {a : Audience} {now : Nat} {db : Db}
    (hm : a.id ∉ db.audiences.map (·.id)) (ht : a.tenantId = t) :
    tenantRows t (upsertAudience a now db) = tenantRows t db ++ [rowOf a] := by
  unfold upsertAudience tenantRows
  rw [dif_neg hm, List.filter_append]
  simp [rowOf, ht]

/-- `save_audience` of an audience of `t` keeps two databases' rows of `t` equal, when the id is
already one of `t`'s rows or is in neither table. -/
theorem tenantRows_upsertAudience {t : Nat} {a : Audience} {now : Nat} {db₁ db₂ : Db}
    (h : tenantRows t db₁ = tenantRows t db₂) (ht : a.tenantId = t)
    (hid : a.id ∈ (tenantRows t db₁).map (·.id) ∨
      a.id ∉ db₁.audiences.map (·.id) ∧ a.id ∉ db₂.audiences.map (·.id)) :
    tenantRows t (upsertAudience a now db₁) = tenantRows t (upsertAudience a now db₂) := by
  have sub : ∀ {db : Db} {i : Nat}, i ∈ (tenantRows t db).map (·.id) → i ∈ db.audiences.map (·.id) :=
    fun hi => List.map_subset _ (List.filter_subset' _) hi
  rcases hid with hid | ⟨hf₁, hf₂⟩
  · rw [tenantRows_upsertAudience_mem (sub hid), tenantRows_upsertAudience_mem (sub (h ▸ hid)), h]
  · rw [tenantRows_upsertAudience_fresh hf₁ ht, tenantRows_upsertAudience_fresh hf₂ ht, h]

theorem tenantRows_deleteAudienceWhereId (t i : Nat) (db : Db) :
    tenantRows t (deleteAudienceWhereId i db) = (tenantRows t db).filter (·.id != i) := by
  simp only [tenantRows, deleteAudienceWhereId, List.filter_filter, Bool.and_comm]

/-- Two runs of an endpoint agree for tenant `t`: they answer alike or raise alike, and commit the
same rows of `t`. -/
def Agree (t : Nat) : EStateM.Result Raised Session Response → EStateM.Result Raised Session Response → Prop
  | .ok r₁ s₁, .ok r₂ s₂ => r₁ = r₂ ∧ tenantRows t s₁.committed = tenantRows t s₂.committed
  | .error e₁ s₁, .error e₂ s₂ => e₁ = e₂ ∧ tenantRows t s₁.committed = tenantRows t s₂.committed
  | _, _ => False

section Reads

variable {t : Nat} {db₁ db₂ : Db}

theorem createAudience_agree (h : tenantRows t db₁ = tenantRows t db₂) {newId : Nat}
    (hf₁ : newId ∉ db₁.audiences.map (·.id)) (hf₂ : newId ∉ db₂.audiences.map (·.id))
    (now : Nat) (body : CreateAudienceRequest) :
    Agree t (createAudience newId now body t ⟨db₁, db₁⟩) (createAudience newId now body t ⟨db₂, db₂⟩) := by
  unfold createAudience
  split_ifs <;> exact ⟨rfl, tenantRows_upsertAudience h rfl (.inr ⟨hf₁, hf₂⟩)⟩

/-- An endpoint that reads one audience and answers from it alone. -/
theorem read_agree (h : tenantRows t db₁ = tenantRows t db₂) (i : Nat) (f : Audience → Response) :
    Agree t ((getAudienceOr404 i t >>= fun a => pure (f a)) ⟨db₁, db₁⟩)
      ((getAudienceOr404 i t >>= fun a => pure (f a)) ⟨db₂, db₂⟩) := by
  rw [Session.bind_apply, Session.bind_apply]
  rcases getAudienceOr404_congr i t ⟨db₁, db₁⟩ ⟨db₂, db₂⟩ h with ⟨a, h₁, h₂⟩ | ⟨e, h₁, h₂⟩ <;> rw [h₁, h₂] <;>
    exact ⟨rfl, h⟩

theorem listAudiences_agree (h : tenantRows t db₁ = tenantRows t db₂) (q : AudienceListQuery) :
    Agree t (listAudiences q t ⟨db₁, db₁⟩) (listAudiences q t ⟨db₂, db₂⟩) := by
  have hsel : ∀ db, selectAudiences q t db = (tenantRows t db).filter fun row =>
      (!truthy q.status || some row.status.value == q.status) &&
        (!truthy q.audienceType || some row.audienceType.value == q.audienceType) := by
    intro db
    simp only [selectAudiences, tenantRows, List.filter_filter, Bool.and_assoc, Bool.and_comm]
  unfold listAudiences
  dsimp only
  rw [hsel, hsel, h]
  split <;> exact ⟨rfl, h⟩

theorem deleteAudience_agree (h : tenantRows t db₁ = tenantRows t db₂) (i : Nat) :
    Agree t (deleteAudience i t ⟨db₁, db₁⟩) (deleteAudience i t ⟨db₂, db₂⟩) := by
  unfold deleteAudience
  rw [Session.bind_apply, Session.bind_apply]
  rcases getAudienceOr404_congr i t ⟨db₁, db₁⟩ ⟨db₂, db₂⟩ h with ⟨a, h₁, h₂⟩ | ⟨e, h₁, h₂⟩ <;> rw [h₁, h₂]
  · exact ⟨rfl, by simp only [tenantRows_deleteAudienceWhereId, h]⟩
  · exact ⟨rfl, h⟩

theorem addContacts_agree (h : tenantRows t db₁ = tenantRows t db₂) (now : Nat)
    (contacts : List (String × List (String × String))) (i : Nat) :
    Agree t (addContacts now contacts i t ⟨db₁, db₁⟩) (addContacts now contacts i t ⟨db₂, db₂⟩) := by
  unfold addContacts
  rw [Session.bind_apply, Session.bind_apply]
  rcases getAudienceOr404_congr i t ⟨db₁, db₁⟩ ⟨db₂, db₂⟩ h with ⟨a, h₁, h₂⟩ | ⟨e, h₁, h₂⟩ <;> rw [h₁, h₂]
  · obtain ⟨ht, hid⟩ := getAudienceOr404_tenantRows h₁
    dsimp only
    cases contacts.mapM fun c => Contact.new c.1 c.2 with
    | error e => exact ⟨rfl, h⟩
    | ok cs =>
      dsimp only
      rw [pure_bind, Session.bind_apply, Session.bind_apply]
      unfold onAudience
      have hk := addContacts_keeps a cs now
      cases hadd : Audience.addContacts cs now a with
      | ok u a' =>
        rw [hadd] at hk
        exact ⟨rfl, tenantRows_upsertAudience h (hk.2.trans ht) (.inl (hk.1 ▸ hid))⟩
      | error e a' => exact ⟨rfl, h⟩
  · exact ⟨rfl, h⟩

theorem uploadCsv_agree (h : tenantRows t db₁ = tenantRows t db₂) (now : Nat) (upload : UploadRead)
    (i : Nat) :
    Agree t (uploadCsv now upload i t ⟨db₁, db₁⟩) (uploadCsv now upload i t ⟨db₂, db₂⟩) := by
  unfold uploadCsv
  rw [Session.bind_apply, Session.bind_apply]
  rcases getAudienceOr404_congr i t ⟨db₁, db₁⟩ ⟨db₂, db₂⟩ h with ⟨a, h₁, h₂⟩ | ⟨e, h₁, h₂⟩ <;> rw [h₁, h₂]
  · obtain ⟨ht, hid⟩ := getAudienceOr404_tenantRows h₁
    dsimp only
    split_ifs
    · exact ⟨rfl, h⟩
    · cases upload with
      | notUtf8 => exact ⟨rfl, h⟩
      | csvError text => exact ⟨rfl, h⟩
      | rows rows =>
        rw [pure_bind]
        dsimp only
        rw [Session.tryCatch_apply, Session.tryCatch_apply]
        split_ifs
        · exact ⟨rfl, h⟩
        · rw [pure_bind, Session.bind_apply, Session.bind_apply]
          unfold onAudience
          have hk := importFromCsv_keeps a rows now
          cases himp : Audience.importFromCsv rows now a with
          | ok st a' =>
            rw [himp] at hk
            exact ⟨rfl, tenantRows_upsertAudience h (hk.2.trans ht) (.inl (hk.1 ▸ hid))⟩
          | error e a' => exact ⟨rfl, h⟩
  · exact ⟨rfl, h⟩

end Reads

theorem runEndpoint_agree {β : Type} {params : Option β} {endpoint : β → Nat → SessionM Response}
    {r : Request} {t : Nat} {db₁ db₂ : Db} (ht : AuthMiddleware.getCurrentTenant r = .ok t)
    (h : tenantRows t db₁ = tenantRows t db₂)
    (hq : ∀ q, Agree t (endpoint q t ⟨db₁, db₁⟩) (endpoint q t ⟨db₂, db₂⟩)) :
    (runEndpoint params endpoint r db₁).1 = (runEndpoint params endpoint r db₂).1 ∧
      tenantRows t (runEndpoint params endpoint r db₁).2 =
        tenantRows t (runEndpoint params endpoint r db₂).2 := by
  unfold runEndpoint
  rw [ht]
  cases params with
  | none => exact ⟨rfl, h⟩
  | some q =>
    dsimp only
    have hq := hq q
    revert hq
    cases endpoint q t ⟨db₁, db₁⟩ <;> cases endpoint q t ⟨db₂, db₂⟩ <;> intro hq
    · obtain ⟨rfl, hr⟩ := hq
      exact ⟨rfl, hr⟩
    · exact hq.elim
    · exact hq.elim
    · obtain ⟨rfl, hr⟩ := hq
      exact ⟨rfl, hr⟩

/-- **Read isolation of the audience routes.** A request authenticated for tenant `t`, served at the
same time on two databases with the same rows of `t` (and the same unused id drawn by `uuid4()`),
gets the same answer in both and leaves the same rows of `t` in both, unless `other` serves it:
nothing another tenant stores reaches the answer, nor what the request writes. -/
theorem audience_routes_read_only_own_rows (p : Parsers) (newId : Request → RouteCtx → Nat)
    (other : Route) (r : Request) (c₁ c₂ : RouteCtx) {t : Nat}
    (ht : AuthMiddleware.getCurrentTenant r = .ok t) (hnow : c₁.now = c₂.now)
    (hrows : tenantRows t c₁.db = tenantRows t c₂.db) (hid : newId r c₁ = newId r c₂)
    (hfresh₁ : newId r c₁ ∉ c₁.db.audiences.map (·.id))
    (hfresh₂ : newId r c₂ ∉ c₂.db.audiences.map (·.id)) :
    (audiencesRoute p newId other r c₁ = other r c₁ ∧ audiencesRoute p newId other r c₂ = other r c₂) ∨
      (audiencesRoute p newId other r c₁).1 = (audiencesRoute p newId other r c₂).1 ∧
        tenantRows t (audiencesRoute p newId other r c₁).2 =
          tenantRows t (audiencesRoute p newId other r c₂).2 := by
  unfold audiencesRoute
  dsimp only
  rw [hnow, ← hid]
  by_cases hc : r.path = "/api/v1/audiences" ∧ r.method = "POST"
  · rw [if_pos hc, if_pos hc]
    exact .inr (runEndpoint_agree ht hrows fun body =>
      createAudience_agree hrows hfresh₁ (hid ▸ hfresh₂) _ body)
  rw [if_neg hc, if_neg hc]
  by_cases hl : r.path = "/api/v1/audiences" ∧ r.method = "GET"
  · rw [if_pos hl, if_pos hl]
    exact .inr (runEndpoint_agree ht hrows fun q => listAudiences_agree hrows q)
  rw [if_neg hl, if_neg hl]
  split
  · split
    · exact .inr (runEndpoint_agree ht hrows fun q => read_agree hrows q _)
    split
    · exact .inr (runEndpoint_agree ht hrows fun q => deleteAudience_agree hrows q)
    · exact .inl ⟨rfl, rfl⟩
  split
  · split
    · exact .inr (runEndpoint_agree ht hrows fun (q : Nat × UploadRead) => uploadCsv_agree hrows _ q.2 q.1)
    · exact .inl ⟨rfl, rfl⟩
  split
  · split
    · exact .inr (runEndpoint_agree ht hrows
        fun (q : Nat × List (String × List (String × String))) => addContacts_agree hrows _ q.2 q.1)
    split
    · exact .inr (runEndpoint_agree ht hrows fun (q : Nat × Int × Int) => read_agree hrows q.1 _)
    · exact .inl ⟨rfl, rfl⟩
  split
  · split
    · exact .inr (runEndpoint_agree ht hrows fun q => read_agree hrows q _)
    · exact .inl ⟨rfl, rfl⟩
  · exact .inl ⟨rfl, rfl⟩

theorem audience_routes_read_only_own_rows_list :
    let p : Parsers :=
      ⟨PyUuid.ofHex, fun _ => none, fun _ => some {}, fun _ => none, fun _ => none, fun _ => none⟩
    let newId : Request → RouteCtx → Nat := fun _ _ => 7
    let other : Route := fun _ c => (.ok ⟨404, [], []⟩, c.db)
    let r : Request := ⟨"GET", "/api/v1/audiences", [], { tenantId := some 2, authenticated := some true }⟩
    let c₁ : RouteCtx :=
      ⟨0, 0, ⟨[], .nil, [⟨3, 2, "vip", .static, .draft, [], 0, 0, 0, 0, 0, none, [], none, none⟩], List.nodup_singleton 3⟩⟩
    let c₂ : RouteCtx := ⟨1, 0, ⟨[], .nil, [⟨3, 2, "vip", .static, .draft, [], 0, 0, 0, 0, 0, none, [], none, none⟩,
      ⟨4, 9, "other", .static, .active, [], 0, 0, 0, 0, 0, none, [], none, none⟩], by decide⟩⟩
    AuthMiddleware.getCurrentTenant r = .ok 2 ∧ c₁.now = c₂.now ∧
      tenantRows 2 c₁.db = tenantRows 2 c₂.db ∧ newId r c₁ = newId r c₂ ∧
      newId r c₁ ∉ c₁.db.audiences.map (·.id) ∧ newId r c₂ ∉ c₂.db.audiences.map (·.id) ∧
      ((audiencesRoute p newId other r c₁ = other r c₁ ∧
          audiencesRoute p newId other r c₂ = other r c₂) ∨
        (audiencesRoute p newId other r c₁).1 = (audiencesRoute p newId other r c₂).1 ∧
          tenantRows 2 (audiencesRoute p newId other r c₁).2 =
            tenantRows 2 (audiencesRoute p newId other r c₂).2) := by
  intro p newId other r c₁ c₂
  have hrows : tenantRows 2 c₁.db = tenantRows 2 c₂.db := by decide
  have hfresh₁ : newId r c₁ ∉ c₁.db.audiences.map (·.id) := by decide
  have hfresh₂ : newId r c₂ ∉ c₂.db.audiences.map (·.id) := by decide
  exact ⟨rfl, rfl, hrows, rfl, hfresh₁, hfresh₂,
    audience_routes_read_only_own_rows p newId other r c₁ c₂ rfl rfl hrows rfl hfresh₁ hfresh₂⟩

end Audiences

/-! ## Over the whole stack -/

open Audiences

/-- Rows of `audiences` come, go or change only for the tenants of the requests the routes were
handed meanwhile. -/
def tenantDrift : Drift where
  rel a b := ∃ handed, b.routeCalls = a.routeCalls ++ handed ∧ ∀ row : AudienceRow,
    (∀ r ∈ handed, AuthMiddleware.getCurrentTenant r ≠ .ok row.tenantId) →
      (row ∈ b.db.audiences ↔ row ∈ a.db.audiences)
  refl _ := ⟨[], (List.append_nil _).symm, fun _ _ => Iff.rfl⟩
  trans := fun ⟨n₁, e₁, j₁⟩ ⟨n₂, e₂, j₂⟩ =>
    ⟨n₁ ++ n₂, by rw [e₂, e₁, List.append_assoc], fun row h =>
      (j₂ row fun r hr => h r (List.mem_append_right _ hr)).trans
        (j₁ row fun r hr => h r (List.mem_append_left _ hr))⟩

theorem tenantDrift_checkRateLimitAt (cfg : RateLimitMiddleware.Config) (key : String) :
    Moves tenantDrift (RateLimitMiddleware.checkRateLimitAt cfg key) := fun env => by
  obtain ⟨ans, store, h⟩ := RateLimitMiddleware.checkRateLimitAt_apply cfg key env
  rw [h]
  exact tenantDrift.refl env

/-- A property of the tables that holds on, once it holds. -/
def dbInvDrift (P : Db → Prop) : Drift where
  rel a b := P a.db → P b.db
  refl _ := id
  trans h₁ h₂ := h₂ ∘ h₁

theorem dbInvDrift_checkRateLimitAt (P : Db → Prop) (cfg : RateLimitMiddleware.Config) (key : String) :
    Moves (dbInvDrift P) (RateLimitMiddleware.checkRateLimitAt cfg key) := fun env => by
  obtain ⟨ans, store, h⟩ := RateLimitMiddleware.checkRateLimitAt_apply cfg key env
  rw [h]
  exact (dbInvDrift P).refl env

section Routes

variable {p : Audiences.Parsers} {newId : Request → RouteCtx → Nat} {other : Route}

theorem tenantDrift_callRoute (hfresh : ∀ r c, newId r c ∉ c.db.audiences.map (·.id))
    (hother : ∀ r c, (other r c).2.audiences = c.db.audiences) (r : Request) :
    Moves tenantDrift (callRoute (audiencesRoute p newId other) r) := fun env => by
  rw [callRoute_state]
  refine ⟨[r], rfl, fun row hrow => ?_⟩
  dsimp only
  rcases audiencesRoute_commits p newId other r ⟨env.routeCalls.length, env.now, env.db⟩ with
    h | ⟨wf, -, h | ⟨t, ht, hc⟩⟩
  · rw [h, hother]
  · rw [h]
  · exact hc.frame (hfresh r _) row fun he => hrow r (List.mem_singleton_self r) (he ▸ ht)

theorem wfDrift_callRoute (hother : ∀ r c, (other r c).2.audiences = c.db.audiences) {r : Request}
    (hr : ¬ IsUpload r.method r.path) :
    Moves (dbInvDrift DbWellFormed) (callRoute (audiencesRoute p newId other) r) :=
  fun env hdb => by
  rw [callRoute_state]
  dsimp only
  rcases audiencesRoute_commits p newId other r ⟨env.routeCalls.length, env.now, env.db⟩ with
    h | ⟨wf, hwf, h | ⟨t, -, hc⟩⟩
  · rw [h]
    exact fun row hrow => hdb row (by rw [hother] at hrow; exact hrow)
  · rw [h]
    exact hdb
  · cases wf with
    | false => exact absurd (hwf rfl) hr
    | true => exact hc.wellFormed hdb

theorem totalsDrift_callRoute (hother : ∀ r c, (other r c).2.audiences = c.db.audiences)
    (r : Request) : Moves (dbInvDrift TotalsExact) (callRoute (audiencesRoute p newId other) r) :=
  fun env hdb => by
  rw [callRoute_state]
  dsimp only
  rcases audiencesRoute_commits p newId other r ⟨env.routeCalls.length, env.now, env.db⟩ with
    h | ⟨wf, -, h | ⟨t, -, hc⟩⟩
  · rw [h]
    exact fun row hrow => hdb row (by rw [hother] at hrow; exact hrow)
  · rw [h]
    exact hdb
  · exact hc.totalsExact hdb

end Routes

/-- **Audiences are isolated by tenant.** Over every run of requests through the whole stack, a
row of the `audiences` table is added, removed or rewritten only if some request the routes were
handed during the run is one `get_current_tenant` authenticates as the row's tenant — provided
`uuid4()` never draws an id a row already has (`save_audience` selects by id alone, so a new
audience with another tenant's id would overwrite that tenant's row) and the other routes leave
the table alone. -/
theorem audience_rows_tenant_scoped (s : Settings)
    (decodeJwt : String → Except String AuthMiddleware.JwtPayload) (p : Audiences.Parsers)
    (newId : Request → RouteCtx → Nat) (other : Route)
    (hfresh : ∀ r c, newId r c ∉ c.db.audiences.map (·.id))
    (hother : ∀ r c, (other r c).2.audiences = c.db.audiences) (arrivals : List Arrival) (env : Env) :
    let env' := resultState (serveAll (createApp s decodeJwt (audiencesRoute p newId other)) arrivals env)
    ∃ handed, env'.routeCalls = env.routeCalls ++ handed ∧ ∀ row : AudienceRow,
      (∀ r ∈ handed, AuthMiddleware.getCurrentTenant r ≠ .ok row.tenantId) →
        (row ∈ env'.db.audiences ↔ row ∈ env.db.audiences) :=
  moves_serveAll (D := tenantDrift) (fun env _ => tenantDrift.refl env)
    (fun _ => moves_createApp (D := tenantDrift) rfl tenantDrift.refl tenantDrift_checkRateLimitAt
      fun r _ => tenantDrift_callRoute hfresh hother r) arrivals env

theorem audience_rows_tenant_scoped_delete :
    let decodeJwt : String → Except String AuthMiddleware.JwtPayload := fun _ =>
      .ok ⟨some (.str "00000000-0000-0000-0000-000000000001"),
        some (.str "00000000-0000-0000-0000-000000000002"), none⟩
    let p : Audiences.Parsers :=
      ⟨PyUuid.ofHex, fun _ => none, fun _ => none, fun _ => none, fun _ => none, fun _ => none⟩
    let newId : Request → RouteCtx → Nat := fun _ c => (c.db.audiences.map (·.id)).sum + 1
    let other : Route := fun _ c => (.ok ⟨404, [], []⟩, c.db)
    let arrivals : List Arrival := [⟨"DELETE", "/api/v1/audiences/00000000-0000-0000-0000-000000000003",
      [("authorization", "Bearer token")], 0, 0, true⟩]
    let env : Env := ⟨[], true, 0, 0, 0, [],
      ⟨[], .nil, [⟨3, 9, "vip", .static, .draft, [], 0, 0, 0, 0, 0, none, [], none, none⟩], List.nodup_singleton 3⟩⟩
    (∀ r c, newId r c ∉ c.db.audiences.map (·.id)) ∧ (∀ r c, (other r c).2.audiences = c.db.audiences) ∧
    let env' := resultState (serveAll (createApp {} decodeJwt (audiencesRoute p newId other)) arrivals env)
    ∃ handed, env'.routeCalls = env.routeCalls ++ handed ∧ ∀ row : AudienceRow,
      (∀ r ∈ handed, AuthMiddleware.getCurrentTenant r ≠ .ok row.tenantId) →
        (row ∈ env'.db.audiences ↔ row ∈ env.db.audiences) := by
  intro decodeJwt p newId other arrivals env
  have hfresh : ∀ r c, newId r c ∉ c.db.audiences.map (·.id) :=
    fun _ _ h => absurd (List.le_sum_of_mem h) (Nat.not_succ_le_self _)
  have hother : ∀ r c, (other r c).2.audiences = c.db.audiences := fun _ _ => rfl
  exact ⟨hfresh, hother, audience_rows_tenant_scoped {} decodeJwt p newId other hfresh hother arrivals env⟩

/-- **Stored audiences keep distinct contacts.** Over every run of requests through the whole
stack with no CSV upload, every stored audience that had distinct phone strings, and both
counters equal to its number of contacts, still has them, provided the other routes leave the
table alone. -/
theorem audience_contacts_stay_distinct (s : Settings)
    (decodeJwt : String → Except String AuthMiddleware.JwtPayload) (p : Audiences.Parsers)
    (newId : Request → RouteCtx → Nat) (other : Route)
    (hother : ∀ r c, (other r c).2.audiences = c.db.audiences) (arrivals : List Arrival)
    (hu : ∀ a ∈ arrivals, ¬ IsUpload a.method a.path) (env : Env) (hwf : DbWellFormed env.db) :
    DbWellFormed
      (resultState (serveAll (createApp s decodeJwt (audiencesRoute p newId other)) arrivals env)).db :=
  moves_serveAll_of_mem (D := dbInvDrift DbWellFormed) (fun env _ => (dbInvDrift _).refl env)
    (fun a ha => moves_createApp (D := dbInvDrift _) rfl (dbInvDrift _).refl
      (dbInvDrift_checkRateLimitAt _) fun r hh =>
      wfDrift_callRoute hother (by rw [hh.method, hh.path]; exact hu a ha)) env hwf


theorem audience_contacts_stay_distinct_add :
    let decodeJwt : String → Except String AuthMiddleware.JwtPayload := fun _ =>
      .ok ⟨some (.str "00000000-0000-0000-0000-000000000001"),
        some (.str "00000000-0000-0000-0000-000000000002"), none⟩
    let p : Audiences.Parsers := ⟨PyUuid.ofHex, fun _ => none, fun _ => none, fun _ => none,
      fun _ => some [("+15550001", [])], fun _ => none⟩
    let other : Route := fun _ c => (.ok ⟨404, [], []⟩, c.db)
    let arrivals : List Arrival := [⟨"POST",
      "/api/v1/audiences/00000000-0000-0000-0000-000000000003/contacts",
      [("authorization", "Bearer token")], 0, 0, true⟩]
    let env : Env := ⟨[], true, 0, 0, 0, [], ⟨[], .nil,
      [⟨3, 2, "vip", .static, .draft, [("+15550001", [])], 1, 1, 0, 0, 0, none, [], none, none⟩], List.nodup_singleton 3⟩⟩
    (∀ r c, (other r c).2.audiences = c.db.audiences) ∧ (∀ a ∈ arrivals, ¬ IsUpload a.method a.path) ∧
      DbWellFormed env.db ∧
      DbWellFormed (resultState (serveAll (createApp {} decodeJwt (audiencesRoute p (fun _ _ => 0) other))
        arrivals env)).db := by
  intro decodeJwt p other arrivals env
  have hother : ∀ r c, (other r c).2.audiences = c.db.audiences := fun _ _ => rfl
  have hu : ∀ a ∈ arrivals, ¬ IsUpload a.method a.path := by
    simp only [arrivals, List.mem_singleton, forall_eq]
    exact fun h => absurd h.2 (by decide)
  have hwf : DbWellFormed env.db := fun row h => by
    rw [List.mem_singleton.1 h]
    exact ⟨List.nodup_singleton _, rfl, rfl⟩
  exact ⟨hother, hu, hwf,
    audience_contacts_stay_distinct {} decodeJwt p (fun _ _ => 0) other hother arrivals hu env hwf⟩

/-- **Paging through an audience's contacts returns each once.** Over every run of requests
through the whole stack, CSV uploads included, every stored audience keeps `total_contacts` equal
to its number of contacts, if it did so at the start and the other routes leave the table alone.
So a client paging `GET /audiences/{id}/contacts` through a static audience with a positive
`limit`, at the offsets `0, limit, 2 * limit, …`, until its pages cover the `total` the answers
report, receives every stored contact exactly once, in stored order. -/
theorem contact_pages_cover_audience (s : Settings)
    (decodeJwt : String → Except String AuthMiddleware.JwtPayload) (p : Audiences.Parsers)
    (newId : Request → RouteCtx → Nat) (other : Route)
    (hother : ∀ r c, (other r c).2.audiences = c.db.audiences) (arrivals : List Arrival) (env : Env)
    (htot : Audiences.TotalsExact env.db) :
    let db := (resultState (serveAll (createApp s decodeJwt (audiencesRoute p newId other)) arrivals env)).db
    ∀ (i t : Nat) (a : Audience), Audiences.getAudienceOr404 i t ⟨db, db⟩ = .ok a ⟨db, db⟩ →
      a.audienceType = .static → ∀ l n : Nat, 0 < l → a.totalContacts ≤ n * l →
      ∃ pages : Nat → List Contact,
        (∀ k : Nat, Audiences.getContacts l ((k * l : Nat) : Int) i t ⟨db, db⟩ =
          .ok (jsonResponse 200 [("items", .json (.list ((pages k).map Audiences.contactItem))),
            ("total", .int a.totalContacts), ("limit", .int l), ("offset", .int ((k * l : Nat) : Int))]
            []) ⟨db, db⟩) ∧
        (List.range n).flatMap pages = a.contacts := by
  intro db i t a ha hs l n hl hn
  have hdb : Audiences.TotalsExact db :=
    moves_serveAll (D := dbInvDrift Audiences.TotalsExact) (fun env _ => (dbInvDrift _).refl env)
      (fun _ => moves_createApp (D := dbInvDrift _) rfl (dbInvDrift _).refl
        (dbInvDrift_checkRateLimitAt _) fun r _ => totalsDrift_callRoute hother r) arrivals env htot
  have hmem : Audiences.rowOf a ∈ db.audiences := by
    rcases Audiences.getAudienceOr404_apply i t ⟨db, db⟩ with ⟨a', h', -, -, hm⟩ | ⟨e, h'⟩ <;>
      rw [h'] at ha <;> cases ha
    exact hm
  have hta : a.totalContacts = a.contacts.length := by
    simpa [Audiences.rowOf] using hdb _ hmem
  refine ⟨fun k => a.getContacts (some l) ((k * l : Nat) : Int), fun k => ?_, ?_⟩
  · unfold Audiences.getContacts
    rw [Session.bind_apply, ha]
    rfl
  · rw [Audience.getContacts_pages hs hl, List.take_of_length_le (hta ▸ hn)]

theorem contact_pages_cover_audience_upload :
    let decodeJwt : String → Except String AuthMiddleware.JwtPayload := fun _ =>
      .ok ⟨some (.str "00000000-0000-0000-0000-000000000001"),
        some (.str "00000000-0000-0000-0000-000000000002"), none⟩
    let p : Audiences.Parsers := ⟨PyUuid.ofHex, fun _ => none, fun _ => none, fun _ => none,
      fun _ => none, fun _ => some (.rows [[("phone", "5550002")], [("phone", "5550002")]])⟩
    let other : Route := fun _ c => (.ok ⟨404, [], []⟩, c.db)
    let arrivals : List Arrival := [⟨"POST",
      "/api/v1/audiences/00000000-0000-0000-0000-000000000003/upload",
      [("authorization", "Bearer token")], 0, 0, true⟩]
    let env : Env := ⟨[], true, 0, 0, 0, [], ⟨[], .nil,
      [⟨3, 2, "vip", .static, .draft, [("+15550001", [])], 1, 1, 0, 0, 0, none, [], none, none⟩], List.nodup_singleton 3⟩⟩
    (∀ r c, (other r c).2.audiences = c.db.audiences) ∧ Audiences.TotalsExact env.db ∧
    let db := (resultState (serveAll (createApp {} decodeJwt (audiencesRoute p (fun _ _ => 0) other))
      arrivals env)).db
    ∀ (i t : Nat) (a : Audience), Audiences.getAudienceOr404 i t ⟨db, db⟩ = .ok a ⟨db, db⟩ →
      a.audienceType = .static → ∀ l n : Nat, 0 < l → a.totalContacts ≤ n * l →
      ∃ pages : Nat → List Contact,
        (∀ k : Nat, Audiences.getContacts l ((k * l : Nat) : Int) i t ⟨db, db⟩ =
          .ok (jsonResponse 200 [("items", .json (.list ((pages k).map Audiences.contactItem))),
            ("total", .int a.totalContacts), ("limit", .int l), ("offset", .int ((k * l : Nat) : Int))]
            []) ⟨db, db⟩) ∧
        (List.range n).flatMap pages = a.contacts := by
  intro decodeJwt p other arrivals env
  have hother : ∀ r c, (other r c).2.audiences = c.db.audiences := fun _ _ => rfl
  have htot : Audiences.TotalsExact env.db := fun row h => by
    rw [List.mem_singleton.1 h]
    rfl
  exact ⟨hother, htot, contact_pages_cover_audience {} decodeJwt p (fun _ _ => 0) other hother arrivals env htot⟩

end Api

end RcsMessaging
