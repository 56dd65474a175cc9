import RcsMessaging.Ports

/-!
# `Adapters.Gupshup` — `GupshupAdapter`'s sends, from the HTTP exchange to the answer

Shallow embedding of `send_rcs_message` and `send_sms_message` of
`adapters/aggregators/gupshup_adapter.py`. What the Gupshup API answers to the POST is an input
(`GupshupPost`); the adapter turns it into the `SendOutcome` the dispatcher sees.

The `try` block of each send raises `RateLimitException` on HTTP 429. The `except Exception` at
its end catches that exception too and raises a plain `AggregatorException` instead, with no
`retry_after`. So a 429 never reaches the dispatcher's `except RateLimitException`.

`check_rcs_capability` posts one request per number inside one `try`. Its `except` appends a
not-capable result for every number to the results already collected, so a request that fails
after `k` answered ones leaves the first `k` numbers answered twice
(`checkRcsCapability_phones`). With one number, as `DeliveryService._check_rcs_capability`
asks, there is always exactly one result.
-/

namespace RcsMessaging

/-- An HTTP response of the Gupshup API: the status code, the `Retry-After` header, the text of
`raise_for_status()`'s `HTTPStatusError`, and the JSON body's fields the adapter reads. -/
structure GupshupResponse where
  statusCode : Nat
  retryAfter : Option String := none
  statusErrorText : String := ""
  status : Option String := none
  messageId : Option String := none
  errorCode : Option String := none
  message : Option String := none
  deriving DecidableEq, Repr

/-- What one `client.post(url, json=payload)` gives: a transport exception, or a response. -/
inductive GupshupPost
  | failed (text : String)
  | answered (r : GupshupResponse)
  deriving DecidableEq, Repr

namespace GupshupAdapter

/-- `int(...)` on a `Retry-After` value: a decimal numeral. Python's `int` also accepts a sign,
surrounding blanks and underscores; headers carrying them are left out. -/
def parseRetryAfter (s : String) : Option Nat :=
  if s.toList ≠ [] ∧ s.toList.all Char.isDigit then
    some (s.toList.foldl (fun n c => 10 * n + (c.toNat - '0'.toNat)) 0)
  else none

/-- `_build_rcs_payload(request)`, as far as it can raise: reading `title` of a card or `type` of
a suggestion that is a JSON dict. -/
def buildRcsPayload (request : SendMessageRequest) : Except Exn Unit :=
  match request.richCard with
  | some (.dict _) => .error (.attributeError "'dict' object has no attribute 'title'")
  | _ =>
    if request.suggestions.any (fun | .dict _ => true | .action _ => false) then
      .error (.attributeError "'dict' object has no attribute 'type'")
    else .ok ()

/-- The `try` block after the payload: 429 raises `RateLimitException` (or `ValueError` from
`int(...)`); a status outside 2xx is `raise_for_status()`'s `HTTPStatusError`, whose own `except`
returns an unsuccessful response; otherwise the body decides. -/
def sendAttempt : GupshupPost → Except Exn SendMessageResponse
  | .failed text => .error (.other text)
  | .answered r =>
    if r.statusCode = 429 then
      match parseRetryAfter (r.retryAfter.getD "60") with
      | some d => .error (.rateLimit "Rate limit exceeded" (some d))
      | none => .error (.valueError
          ("invalid literal for int() with base 10: '" ++ r.retryAfter.getD "60" ++ "'"))
    else if r.statusCode < 200 ∨ 300 ≤ r.statusCode then
      .ok { success := false, errorCode := some (r.errorCode.getD (toString r.statusCode)),
            errorMessage := some (r.message.getD r.statusErrorText) }
    else if r.status = some "submitted" then .ok { success := true, externalId := r.messageId }
    else .ok { success := false, errorCode := r.errorCode, errorMessage := r.message }

/-- `except Exception as e: raise AggregatorException(f"Failed to send {kind} message: {e}")`. -/
def rewrap (kind : String) : Except Exn SendMessageResponse → SendOutcome
  | .ok r => .returns r
  | .error e => .raises (.aggregator ("Failed to send " ++ kind ++ " message: " ++ e.text) none none)

/-- `send_rcs_message(request)`. -/
def sendRcsMessage (request : SendMessageRequest) (post : GupshupPost) : SendOutcome :=
  rewrap "RCS" (buildRcsPayload request >>= fun _ => sendAttempt post)

/-- `send_sms_message(request)`: a text payload, which cannot raise. -/
def sendSmsMessage (post : GupshupPost) : SendOutcome := rewrap "SMS" (sendAttempt post)

/-- No answer of the API makes a send raise `RateLimitException`: every exception of the `try`
block, the 429's included, leaves as a plain `AggregatorException` without `retry_after`. -/
theorem sends_never_rate_limited (request : SendMessageRequest) (post : GupshupPost) :
    (∀ t d, sendRcsMessage request post ≠ .raises (.rateLimit t d)) ∧
      ∀ t d, sendSmsMessage post ≠ .raises (.rateLimit t d) := by
  refine ⟨fun t d => ?_, fun t d => ?_⟩ <;>
  · simp only [sendRcsMessage, sendSmsMessage, rewrap]
    split <;> simp

end GupshupAdapter

/-! ## Capability checks -/

/-- `CapabilityCheckResult` (`core/ports/aggregator.py`); `last_checked` is the clock reading of
the check. -/
structure CapabilityCheckResult where
  phoneNumber : String
  rcsEnabled : Bool
  lastChecked : Nat
  features : Option (List String) := none
  deriving DecidableEq, Repr

/-- What one capability `client.post(url, json=payload)` gives: an exception (of the post, or of
`response.json()` on a body that is not JSON), or the status code and the body's `rcsEnabled` and
`features`, `none` where the key is absent. -/
inductive CapabilityPost
  | failed (text : String)
  | answered (statusCode : Nat) (rcsEnabled : Option Bool) (features : Option (List String))
  deriving DecidableEq, Repr

namespace GupshupAdapter

/-- The `try` loop of `check_rcs_capability` from the `i`-th request on: the results appended
before the first exception, and whether one was raised. `post i` answers the `i`-th request;
`raise_for_status()` raises outside 2xx. -/
def capabilityLoop (post : Nat → CapabilityPost) (now : Nat) :
    Nat → List String → List CapabilityCheckResult × Bool
  | _, [] => ([], false)
  | i, phone :: phones =>
    match post i with
    | .answered code enabled features =>
      if 200 ≤ code ∧ code < 300 then
        let r := capabilityLoop post now (i + 1) phones
        (⟨phone, enabled.getD false, now, some (features.getD [])⟩ :: r.1, r.2)
      else ([], true)
    | .failed _ => ([], true)

/-- `check_rcs_capability(phone_numbers)`: after an exception, one not-capable result per number
is appended to the results the loop collected. -/
def checkRcsCapability (post : Nat → CapabilityPost) (now : Nat) (phoneNumbers : List String) :
    List CapabilityCheckResult :=
  let r := capabilityLoop post now 0 phoneNumbers
  if r.2 then r.1 ++ phoneNumbers.map fun phone => ⟨phone, false, now, none⟩ else r.1

/-- The loop answers a prefix of the numbers, all of them unless it raised. -/
theorem capabilityLoop_prefix (post : Nat → CapabilityPost) (now : Nat) :
    ∀ i phones, ((capabilityLoop post now i phones).1.map (·.phoneNumber) =
        phones.take (capabilityLoop post now i phones).1.length) ∧
      ((capabilityLoop post now i phones).2 = false →
        (capabilityLoop post now i phones).1.length = phones.length) ∧
      ((capabilityLoop post now i phones).2 = true →
        (capabilityLoop post now i phones).1.length < phones.length)
  | _, [] => ⟨rfl, fun _ => rfl, fun h => absurd h Bool.false_ne_true⟩
  | i, phone :: phones => by
    have ih := capabilityLoop_prefix post now (i + 1) phones
    unfold capabilityLoop
    split
    · split
      · dsimp only
        refine ⟨?_, fun h => ?_, fun h => ?_⟩
        · rw [List.map_cons, List.length_cons, List.take_succ_cons, ih.1]
        · simp [ih.2.1 h]
        · simp [ih.2.2 h]
      · exact ⟨rfl, fun h => Bool.noConfusion h, fun _ => Nat.succ_pos _⟩
    · exact ⟨rfl, fun h => Bool.noConfusion h, fun _ => Nat.succ_pos _⟩

/-- **Which numbers a capability check answers.** Either one result per number, in order, or,
when a request raised after `k` answered ones, the first `k` numbers and then every number
again. -/
theorem checkRcsCapability_phones (post : Nat → CapabilityPost) (now : Nat)
    (phones : List String) :
    (checkRcsCapability post now phones).map (·.phoneNumber) = phones ∨
      ∃ k < phones.length,
        (checkRcsCapability post now phones).map (·.phoneNumber) = phones.take k ++ phones := by
  obtain ⟨hp, hok, hraise⟩ := capabilityLoop_prefix post now 0 phones
  unfold checkRcsCapability
  dsimp only
  cases h : (capabilityLoop post now 0 phones).2
  · left
    rw [if_neg Bool.false_ne_true, hp, hok h, List.take_length]
  · right
    refine ⟨_, hraise h, ?_⟩
    rw [if_pos rfl, List.map_append, hp, List.map_map]
    exact congrArg _ (List.map_id _)

/-- One number, as `DeliveryService` asks, gets exactly one result. -/
theorem checkRcsCapability_single (post : Nat → CapabilityPost) (now : Nat) (phone : String) :
    (checkRcsCapability post now [phone]).map (·.phoneNumber) = [phone] := by
  rcases checkRcsCapability_phones post now [phone] with h | ⟨k, hk, h⟩
  · exact h
  · rw [h, Nat.lt_one_iff.1 hk]; rfl

/-- **A failure after an answer.** Two numbers; the first request answers "capable", the
second times out. The result has three entries: the first number twice, once capable and once
not, then the second. -/
theorem capability_check_duplicates :
    let post : Nat → CapabilityPost :=
      fun i => if i = 0 then .answered 200 (some true) none else .failed "timed out"
    checkRcsCapability post 5 ["+919876543210", "+919876543211"] =
      [⟨"+919876543210", true, 5, some []⟩, ⟨"+919876543210", false, 5, none⟩,
        ⟨"+919876543211", false, 5, none⟩] := by
  decide

end GupshupAdapter

end RcsMessaging
