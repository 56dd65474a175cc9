import RcsMessaging.Python.Hmac
import RcsMessaging.Python.JsonRoundTrip

/-!
# `Pipeline.Webhook` — a Gupshup delivery-status webhook from the HTTP body to the status update

The ingestion path of one webhook:

* `gupshup_webhook` reads the body with `request.json()` and the headers with
  `dict(request.headers)`. It reads `eventType` and `messageId` off the payload and schedules
  `queue_webhook_for_processing`. It also reads the raw body into `body` "for signature
  verification", and never uses it.
* `queue_webhook_for_processing` wraps payload and headers in a job, and `RabbitMQAdapter.enqueue`
  writes the job with `json.dumps`.
* `subscribe` reads the job back with `json.loads`, and `WebhookProcessor.process_webhook_job`
  hands its payload and headers to `GupshupAdapter.handle_webhook`.
* `handle_webhook` signs `json.dumps(payload).encode()`. That is the payload parsed and encoded
  again, not the body that came in. `validate_webhook_signature` compares the signature with the
  `x-gupshup-signature` header.

So the header is checked against the HMAC of the payload's re-encoding, whatever the raw bytes
were (`ingest_signedRequest`). A body already in `json.dumps`'s formatting verifies under its own
HMAC (`ingest_canonical_body`); `{"a":1}` does not (`webhook_signed_over_reencoded_body`).
-/

namespace RcsMessaging

namespace Webhook

open Codecs Json

/-- A request to `POST /webhooks/gupshup`: the raw body, and the raw header list with lowercase
names, as the ASGI server hands them over. -/
structure Request where
  body : List UInt8
  headers : List (List UInt8 × List UInt8)
  deriving DecidableEq, Repr

/-- `dict(request.headers)`: each name once, with its first value, Latin-1 decoded. -/
def headersDict (raw : List (List UInt8 × List UInt8)) : List (List Nat × PyJson) :=
  raw.foldl (fun d kv =>
    if (PyJson.get? d (latin1 kv.1)).isSome then d else d ++ [(latin1 kv.1, .str (latin1 kv.2))]) []

/-- `gupshup_webhook`: `request.json()`, then `payload.get(...)`, which needs a `dict`. Any exception
becomes an HTTP 500. -/
def gupshupWebhook (req : Request) :
    Except PyError (List (List Nat × PyJson) × List (List Nat × PyJson)) :=
  match loadsBytes req.body with
  | .error e => .error e
  | .ok (.dict payload) => .ok (payload, headersDict req.headers)
  | .ok _ => .error (.attributeError "object has no attribute 'get'")

/-- The payload of the job `queue_webhook_for_processing` enqueues. -/
def jobPayload (webhookId : List Nat) (payload headers : List (List Nat × PyJson)) : PyJson :=
  .dict [(text "webhook_id", .str webhookId), (text "aggregator", .str (text "gupshup")),
    (text "payload", .dict payload), (text "headers", .dict headers)]

/-- The AMQP body `RabbitMQAdapter.enqueue` writes for a job:
`json.dumps({"id", "payload", "metadata", "enqueued_at", "max_retries", "retry_backoff"}).encode()`,
with the defaults of `QueueMessage`. -/
def enqueueBody (webhookId enqueuedAt : List Nat) (job : PyJson) : Except PyError (List UInt8) :=
  match dumps (.dict [(text "id", .str webhookId), (text "payload", job), (text "metadata", .dict []),
      (text "enqueued_at", .str enqueuedAt), (text "max_retries", .int 3),
      (text "retry_backoff", .int 60)]) with
  | .ok s => .ok (asciiBytes s)
  | .error e => .error e

/-- `subscribe`'s `json.loads(message.body.decode())` and `data["payload"]`: the job payload the
handler gets. -/
def consume (body : List UInt8) : Except PyError PyJson :=
  match utf8Decode false body with
  | .error e => .error e
  | .ok s =>
    match loads s with
    | .error e => .error e
    | .ok (.dict data) =>
      match PyJson.get? data (text "payload") with
      | some job => .ok job
      | none => .error (.valueError "KeyError: 'payload'")
    | .ok _ => .error (.typeError "object is not subscriptable")

/-- What `_parse_delivery_status` reads off a payload. -/
structure DeliveryStatus where
  messageId : Option PyJson
  externalId : Option PyJson
  status : String
  errorCode : Option PyJson
  errorMessage : Option PyJson
  deriving DecidableEq, Repr

/-- Python's truth value of a JSON value. -/
def truthy : PyJson → Bool
  | .null => false
  | .bool b => b
  | .int n => n ≠ 0
  | .str s => s ≠ []
  | .list items => items ≠ []
  | .dict fields => fields ≠ []

/-- `x or y` of two `dict.get` results, `None` standing for a missing key. -/
def orGet (x y : Option PyJson) : Option PyJson :=
  match x with
  | some v => if truthy v then some v else y
  | none => y

/-- `status_mapping.get(gupshup_status, "unknown")`: `none` when the status is a `list` or a
`dict`, which cannot be hashed. -/
def mapStatus : Option PyJson → Option String
  | some (.str s) =>
    if s = text "sent" then some "sent"
    else if s = text "delivered" then some "delivered"
    else if s = text "read" then some "read"
    else if s = text "failed" ∨ s = text "error" then some "failed"
    else some "unknown"
  | some (.list _) | some (.dict _) => none
  | _ => some "unknown"

/-- `GupshupAdapter._parse_delivery_status(data)`; any exception gives `None`. -/
def parseDeliveryStatus : PyJson → Option DeliveryStatus
  | .dict d =>
    (mapStatus (orGet (PyJson.get? d (text "eventType")) (PyJson.get? d (text "status")))).map
      fun status =>
        { messageId := PyJson.get? d (text "messageId")
          externalId := orGet (PyJson.get? d (text "externalId")) (PyJson.get? d (text "messageId"))
          status
          errorCode := PyJson.get? d (text "errorCode")
          errorMessage := PyJson.get? d (text "errorMessage") }
  | _ => none

/-- `self.webhook_secret.encode()`. -/
def secretBytes (secret : String) : List UInt8 := secret.toList.flatMap String.utf8EncodeChar

/-- The hex HMAC-SHA256 of a message under a secret, as `validate_webhook_signature` computes it. -/
def signature (secret : String) (msg : List UInt8) : List Nat :=
  hexdigest (hmacSha256 (secretBytes secret) msg)

/-- `validate_webhook_signature(payload, signature)`: `compare_digest` of the expected hex HMAC
and the header value, which must be a `str`. -/
def validateWebhookSignature (secret : String) (payload : List UInt8) (sig : PyJson) :
    Except PyError Bool :=
  match sig with
  | .str s => compareDigest (signature secret payload) s
  | _ => .error (.typeError "unsupported operand types(s) or combination of types")

/-- `GupshupAdapter.handle_webhook(payload, headers)`. -/
def handleWebhook (secret : String) (payload headers : PyJson) :
    Except PyError (Option DeliveryStatus) :=
  match headers with
  | .dict h =>
    match dumps payload with
    | .error e => .error e
    | .ok out =>
      match validateWebhookSignature secret (asciiBytes out)
          ((PyJson.get? h (text "x-gupshup-signature")).getD (.str [])) with
      | .error e => .error e
      | .ok false => .error (.webhookValidation "Invalid webhook signature")
      | .ok true => .ok (parseDeliveryStatus payload)
  | _ => .error (.attributeError "object has no attribute 'get'")

/-- Where one webhook ends. -/
inductive Outcome
  /-- `gupshup_webhook` answered HTTP 500. -/
  | rejected (e : PyError)
  /-- `queue_webhook_for_processing` could not enqueue; it logs and drops the webhook. -/
  | lost (e : PyError)
  /-- An exception left `process_webhook_job`; `subscribe` requeues the job. -/
  | raised (e : PyError)
  /-- `WebhookValidationException`: the job is dropped. -/
  | dropped
  /-- `_parse_delivery_status` gave `None`: the job is dropped. -/
  | unparsed
  /-- Accepted: the delivery status goes on to `handle_delivery_status_update`. -/
  | accepted (s : DeliveryStatus)
  deriving DecidableEq, Repr

/-- `WebhookProcessor.process_webhook_job` up to the status update. -/
def processWebhookJob (secret : String) : PyJson → Outcome
  | .dict job =>
    match handleWebhook secret ((PyJson.get? job (text "payload")).getD (.dict []))
        ((PyJson.get? job (text "headers")).getD (.dict [])) with
    | .error (.webhookValidation _) => .dropped
    | .error e => .raised e
    | .ok none => .unparsed
    | .ok (some s) => .accepted s
  | _ => .raised (.attributeError "object has no attribute 'get'")

/-- One webhook through the pipeline, with the values `uuid4()` and `utcnow().isoformat()` gave. -/
def ingest (secret : String) (webhookId enqueuedAt : List Nat) (req : Request) : Outcome :=
  match gupshupWebhook req with
  | .error e => .rejected e
  | .ok (payload, headers) =>
    match enqueueBody webhookId enqueuedAt (jobPayload webhookId payload headers) with
    | .error e => .lost e
    | .ok amqp =>
      match consume amqp with
      | .error e => .raised e
      | .ok job => processWebhookJob secret job

/-- A request with the body `body` and the signature header `sig`. -/
def signedRequest (body : List UInt8) (sig : List Nat) : Request :=
  ⟨body, [(asciiBytes (text "x-gupshup-signature"), asciiBytes sig)]⟩

/-! ## The check the pipeline makes

The queue hands the worker the job the route built (`ingest_eq_processWebhookJob`), and the worker
compares the header with the HMAC of `json.dumps(payload)` (`processWebhookJob_jobPayload`). So for
every body that `json.loads` reads as a well-formed `dict`, the raw bytes matter only through the
payload they parse to (`ingest_signedRequest`). On a body already in `json.dumps`'s formatting that
is the raw-body check (`ingest_canonical_body`); on any other body it is not
(`webhook_signed_over_reencoded_body`). -/

/-- `dict(request.headers)` is a well-formed `dict`: each name once, Latin-1 text. -/
theorem headersDict_wf (raw : List (List UInt8 × List UInt8)) : fieldsWf (headersDict raw) := by
  suffices h : ∀ (raw : List (List UInt8 × List UInt8)) d, fieldsWf d → fieldsWf (raw.foldl (fun d kv =>
      if (PyJson.get? d (latin1 kv.1)).isSome then d else d ++ [(latin1 kv.1, .str (latin1 kv.2))]) d) from
    h raw [] rfl
  intro raw
  induction raw with
  | nil => exact fun _ h => h
  | cons kv raw ih =>
    intro d hd
    rw [List.foldl_cons]
    apply ih
    split
    · exact hd
    · next hn =>
      have hn' : ∀ v, (latin1 kv.1, v) ∉ d := by simpa [PyJson.get?] using hn
      exact fieldsWf_append hd (strWf_latin1 _) (strWf_latin1 _) fun ⟨_, v⟩ hf he => hn' v (he ▸ hf)

theorem jobPayload_wf {webhookId : List Nat} (hid : strWf webhookId)
    {payload headers : List (List Nat × PyJson)} (hp : fieldsWf payload) (hh : fieldsWf headers) :
    wf (jobPayload webhookId payload headers) := by
  simp only [jobPayload, wf, fieldsWf, hid, hp, hh, Bool.and_true]
  rfl

/-- The queue hands the worker the job the route enqueued: `subscribe` reads back the `payload` of
the body `RabbitMQAdapter.enqueue` wrote. -/
theorem consume_enqueueBody {webhookId enqueuedAt : List Nat} (hid : strWf webhookId)
    (hat : strWf enqueuedAt) {job : PyJson} (hj : wf job) :
    ∃ amqp, enqueueBody webhookId enqueuedAt job = .ok amqp ∧ consume amqp = .ok job := by
  have hw : wf (.dict [(text "id", .str webhookId), (text "payload", job), (text "metadata", .dict []),
      (text "enqueued_at", .str enqueuedAt), (text "max_retries", .int 3),
      (text "retry_backoff", .int 60)]) := by
    simp only [wf, fieldsWf, hid, hj, hat, Bool.and_true]
    rfl
  refine ⟨_, by rw [enqueueBody, dumps_of_wf hw], ?_⟩
  rw [consume, utf8Decode_asciiBytes false _ fun c hc => by have := render_printable _ c hc; omega]
  dsimp only
  rw [loads_render hw]
  rfl

/-- For a body `json.loads` reads as a well-formed `dict`, the webhook ends as
`process_webhook_job` ends on the job `queue_webhook_for_processing` built. -/
theorem ingest_eq_processWebhookJob (secret : String) {webhookId enqueuedAt : List Nat}
    (hid : strWf webhookId) (hat : strWf enqueuedAt) {req : Request}
    {payload : List (List Nat × PyJson)} (hb : loadsBytes req.body = .ok (.dict payload))
    (hp : fieldsWf payload) :
    ingest secret webhookId enqueuedAt req =
      processWebhookJob secret (jobPayload webhookId payload (headersDict req.headers)) := by
  obtain ⟨amqp, he, hc⟩ :=
    consume_enqueueBody hid hat (jobPayload_wf hid hp (headersDict_wf req.headers))
  rw [ingest, gupshupWebhook, hb]
  dsimp only
  rw [he]
  dsimp only
  rw [hc]

/-- The worker compares the header with the hex HMAC of `json.dumps(payload)`. An ASCII header equal
to it lets the delivery status through, any other ASCII header is refused, and a non-ASCII one makes
`compare_digest` raise. -/
theorem processWebhookJob_jobPayload (secret : String) (webhookId : List Nat)
    {payload : List (List Nat × PyJson)} (hp : fieldsWf payload) {headers : List (List Nat × PyJson)}
    {sig : List Nat} (hs : (PyJson.get? headers (text "x-gupshup-signature")).getD (.str []) = .str sig) :
    processWebhookJob secret (jobPayload webhookId payload headers) =
      if sig.all (· < 0x80) then
        if signature secret (asciiBytes (render (.dict payload))) = sig then
          (parseDeliveryStatus (.dict payload)).elim .unparsed .accepted
        else .dropped
      else .raised (.typeError "comparing strings with non-ASCII characters is not supported") := by
  have ha : (signature secret (asciiBytes (render (.dict payload)))).all (· < 0x80) := by
    simpa using hexdigest_ascii _
  show (match handleWebhook secret (.dict payload) (.dict headers) with
    | .error (.webhookValidation _) => Outcome.dropped
    | .error e => .raised e
    | .ok none => .unparsed
    | .ok (some s) => .accepted s) = _
  rw [handleWebhook, dumps_of_wf (show wf (.dict payload) from hp)]
  dsimp only
  rw [hs, validateWebhookSignature, compareDigest, ha, Bool.true_and]
  by_cases hsig : sig.all (· < 0x80)
  · rw [if_pos hsig, if_pos hsig]
    by_cases he : signature secret (asciiBytes (render (.dict payload))) = sig
    · rw [if_pos he, decide_eq_true he]
      cases parseDeliveryStatus (.dict payload) <;> rfl
    · rw [if_neg he, decide_eq_false he]
  · rw [if_neg hsig, if_neg hsig]

/-- A request with an ASCII signature header `sig`, over any body `json.loads` reads as a
well-formed `dict`: it goes through when `sig` is the HMAC of `json.dumps(payload)` and is refused
otherwise, whichever HMAC of the raw body `sig` may be. -/
theorem ingest_signedRequest (secret : String) {webhookId enqueuedAt : List Nat}
    (hid : strWf webhookId) (hat : strWf enqueuedAt) {body : List UInt8}
    {payload : List (List Nat × PyJson)} (hb : loadsBytes body = .ok (.dict payload))
    (hp : fieldsWf payload) {sig : List Nat} (hs : ∀ c ∈ sig, c < 0x80) :
    ingest secret webhookId enqueuedAt (signedRequest body sig) =
      if signature secret (asciiBytes (render (.dict payload))) = sig then
        (parseDeliveryStatus (.dict payload)).elim .unparsed .accepted
      else .dropped := by
  have hh : (PyJson.get? (headersDict (signedRequest body sig).headers)
      (text "x-gupshup-signature")).getD (.str []) = .str sig := by
    show (PyJson.get? [(latin1 (asciiBytes (text "x-gupshup-signature")), .str (latin1 (asciiBytes sig)))]
      (text "x-gupshup-signature")).getD (.str []) = _
    rw [latin1_asciiBytes fun c hc => Nat.lt_trans (hs c hc) (by decide)]
    rfl
  rw [ingest_eq_processWebhookJob secret hid hat hb hp, processWebhookJob_jobPayload secret webhookId hp hh,
    if_pos (List.all_eq_true.2 fun c hc => decide_eq_true (hs c hc))]

/-- On a body already in `json.dumps`'s formatting the check is the raw-body check: the header
`hex(HMAC(secret, body))` goes through, and every other ASCII header is refused. -/
theorem ingest_canonical_body (secret : String) {webhookId enqueuedAt : List Nat}
    (hid : strWf webhookId) (hat : strWf enqueuedAt) {payload : List (List Nat × PyJson)}
    (hp : fieldsWf payload) {sig : List Nat} (hs : ∀ c ∈ sig, c < 0x80) :
    ingest secret webhookId enqueuedAt (signedRequest (asciiBytes (render (.dict payload))) sig) =
      if signature secret (asciiBytes (render (.dict payload))) = sig then
        (parseDeliveryStatus (.dict payload)).elim .unparsed .accepted
      else .dropped :=
  ingest_signedRequest secret hid hat (loadsBytes_render hp) hp hs

set_option maxRecDepth 100000 in
/-- The body `{"a":1}` signed with the secret `secret` over its own bytes is dropped as invalid.
The same body is accepted when signed over `{"a": 1}`, the text `json.dumps` writes for it. -/
theorem webhook_signed_over_reencoded_body :
    let webhook : List Nat → Outcome := fun sig =>
      ingest "secret" (text "0b7c6f5e-3d1a-4c2b-9e8f-7a6b5c4d3e2f") (text "2024-01-15T10:30:00")
        (signedRequest (asciiBytes (text "\x7b\"a\":1\x7d")) sig)
    webhook (signature "secret" (asciiBytes (text "\x7b\"a\":1\x7d"))) = .dropped ∧
    webhook (signature "secret" (asciiBytes (text "\x7b\"a\": 1\x7d"))) =
      .accepted ⟨none, none, "unknown", none, none⟩ := by
  intro webhook
  have hr : render (.dict [(text "a", .int 1)]) = text "\x7b\"a\": 1\x7d" := by decide
  have hv : ∀ m, webhook (signature "secret" m) =
      if signature "secret" (asciiBytes (text "\x7b\"a\": 1\x7d")) = signature "secret" m then
        (parseDeliveryStatus (.dict [(text "a", .int 1)])).elim .unparsed .accepted
      else .dropped := fun m => hr ▸ ingest_signedRequest "secret" (by decide) (by decide)
    (by decide : loadsBytes (asciiBytes (text "\x7b\"a\":1\x7d")) = .ok (.dict [(text "a", .int 1)]))
    (by decide) (hexdigest_ascii _)
  exact ⟨(hv _).trans (if_neg (by decide)), (hv _).trans (if_pos rfl)⟩

end Webhook

end RcsMessaging
