import Mathlib.Data.List.Nodup
import RcsMessaging.Domain.Phone
import RcsMessaging.Python.Json

/-!
# `Domain.Audience` — the contacts of a static audience

Shallow embedding of the contact-list half of `core/domain/audience.py`. A method that mutates
`self` is an `EStateM Exn Audience` program, as for `Campaign` and `Message`.

* `add_contacts` skips a contact whose phone string is already in the list, and adds one to
  `valid_contacts` for every contact it appends;
* `remove_contact` drops every contact with that exact string and, if one went, sets both
  counters to the new length;
* `import_from_csv` normalises each row's phone with `Audience._normalize_phone` and appends a
  contact for it, whatever the list already holds; it then sets `valid_contacts` to the rows of
  this call.

So the first two keep the phone strings distinct and both counters equal to the length
(`AddRemove.run_wellFormed`), but comparing exact strings misses two spellings of one number, and
an import can append a number twice and resets `valid_contacts`.
-/

namespace RcsMessaging

/-- Type of audience (`AudienceType`). -/
inductive AudienceType
  | static | dynamic | suppression
  deriving DecidableEq, Repr

/-- Audience status (`AudienceStatus`). -/
inductive AudienceStatus
  | draft | processing | active | archived
  deriving DecidableEq, Repr

/-- A contact (`Contact`). `__post_init__` refuses a phone number without a leading `+`, so
every contact carries one. -/
structure Contact where
  phoneNumber : String
  metadata : List (String × String)
  plus : ['+'].isPrefixOf phoneNumber.toList = true
  deriving DecidableEq

/-- `Contact(phone_number, metadata)`. -/
def Contact.new (phoneNumber : String) (metadata : List (String × String)) : Except Exn Contact :=
  if h : ['+'].isPrefixOf phoneNumber.toList = true then .ok ⟨phoneNumber, metadata, h⟩
  else .error (.valueError ("Phone number must be in E.164 format: " ++ phoneNumber))

/-- The audience aggregate (`Audience`). `description`, `tags`, `query` and `last_used_at` are
carried from the request or the row to the row and the responses; no modelled method changes
them (`mark_used`, the one that sets `last_used_at`, has no caller). -/
structure Audience where
  id : Nat
  tenantId : Nat
  name : String
  audienceType : AudienceType
  status : AudienceStatus
  contacts : List Contact
  totalContacts : Nat
  validContacts : Nat
  invalidContacts : Nat
  createdAt : Nat
  updatedAt : Nat
  description : Option String
  tags : List String
  /-- The dict of a dynamic audience. -/
  query : Option PyJson
  lastUsedAt : Option Nat
  deriving DecidableEq

/-- `Audience.create(tenant_id, name, audience_type)` (`id` stands for `uuid4()`). -/
def Audience.create (id tenantId : Nat) (name : String) (audienceType : AudienceType) (now : Nat) :
    Audience :=
  ⟨id, tenantId, name, audienceType, .draft, [], 0, 0, 0, now, now, none, [], none, none⟩

/-- A CSV row: column name to cell text. -/
abbrev CsvRow := List (String × String)

/-- The statistics `import_from_csv` returns. -/
structure ImportStats where
  imported : Nat
  skipped : Nat
  totalContacts : Nat
  errors : List String
  deriving DecidableEq, Repr

namespace Audience

/-- The loop of `add_contacts`: a contact whose phone string is in `phoneSet` is skipped, any
other is appended and its phone added to the set. -/
def newContacts (phoneSet : List String) : List Contact → List Contact
  | [] => []
  | c :: cs =>
    if c.phoneNumber ∈ phoneSet then newContacts phoneSet cs
    else c :: newContacts (c.phoneNumber :: phoneSet) cs

/-- `add_contacts(contacts)`. -/
def addContacts (contacts : List Contact) (now : Nat) : EStateM Exn Audience Unit := fun a =>
  if a.audienceType ≠ .static then .error (.valueError "Can only add contacts to static audiences") a
  else
    let added := newContacts (a.contacts.map (·.phoneNumber)) contacts
    .ok () { a with
      contacts := a.contacts ++ added, validContacts := a.validContacts + added.length,
      totalContacts := (a.contacts ++ added).length, updatedAt := now }

/-- `remove_contact(phone_number)`: whether a contact went. -/
def removeContact (phoneNumber : String) (now : Nat) : EStateM Exn Audience Bool := fun a =>
  let cs := a.contacts.filter (·.phoneNumber != phoneNumber)
  if cs.length < a.contacts.length then
    .ok true { a with
      contacts := cs, totalContacts := cs.length, validContacts := cs.length, updatedAt := now }
  else .ok false { a with contacts := cs }

/-- `row.get('phone') or row.get('phone_number')`. -/
def rowPhone (row : CsvRow) : Option String :=
  if truthy (row.lookup "phone") then row.lookup "phone" else row.lookup "phone_number"

/-- The loop of `import_from_csv`: the contacts it appends, `imported`, `skipped` and `errors`. -/
def importLoop : List CsvRow → List Contact × Nat × Nat × List String
  | [] => ([], 0, 0, [])
  | row :: rows =>
    let r := importLoop rows
    match rowPhone row with
    | some phone =>
      if phone.isEmpty then (r.1, r.2.1, r.2.2.1 + 1, r.2.2.2)
      else
        match Contact.new (Audience.normalizePhone phone)
            (row.filter fun kv => kv.1 ∉ ["phone", "phone_number"]) with
        | .ok c => (c :: r.1, r.2.1 + 1, r.2.2.1, r.2.2.2)
        | .error e => (r.1, r.2.1, r.2.2.1 + 1, e.text :: r.2.2.2)
    | none => (r.1, r.2.1, r.2.2.1 + 1, r.2.2.2)

/-- `import_from_csv(rows)`: the status passes through PROCESSING to ACTIVE. -/
def importFromCsv (rows : List CsvRow) (now : Nat) : EStateM Exn Audience ImportStats := fun a =>
  if a.audienceType ≠ .static then
    .error (.valueError "Can only import CSV to static audiences") a
  else
    let r := importLoop rows
    .ok ⟨r.2.1, r.2.2.1, (a.contacts ++ r.1).length, r.2.2.2.take 10⟩ { a with
      contacts := a.contacts ++ r.1, totalContacts := (a.contacts ++ r.1).length,
      validContacts := r.2.1, invalidContacts := r.2.2.1, status := .active, updatedAt := now }

end Audience

/-- One call on an audience's contact list. -/
inductive AudienceOp
  | addContacts (contacts : List Contact)
  | importFromCsv (rows : List CsvRow)
  | removeContact (phoneNumber : String)
  deriving DecidableEq

/-- The audience after a call, whether it returned or raised. -/
def AudienceOp.apply (a : Audience) : AudienceOp × Nat → Audience
  | (.addContacts cs, now) => resultState (Audience.addContacts cs now a)
  | (.importFromCsv rows, now) => resultState (Audience.importFromCsv rows now a)
  | (.removeContact p, now) => resultState (Audience.removeContact p now a)

/-- The audience after a sequence of calls. -/
def Audience.runOps (a : Audience) (ops : List (AudienceOp × Nat)) : Audience :=
  ops.foldl AudienceOp.apply a

/-! ## `add_contacts` and `remove_contact` -/

/-- The contact list has distinct phone strings, and both counters are its length. -/
structure Audience.WellFormed (a : Audience) : Prop where
  nodup : (a.contacts.map (·.phoneNumber)).Nodup
  total : a.totalContacts = a.contacts.length
  valid : a.validContacts = a.contacts.length

namespace Audience

theorem newContacts_fresh :
    ∀ (s : List String) (cs : List Contact), ∀ c ∈ newContacts s cs, c.phoneNumber ∉ s
  | _, [], _, h => absurd h (List.not_mem_nil _)
  | s, c :: cs, x, h => by
    unfold newContacts at h
    split at h
    · exact newContacts_fresh s cs x h
    · rcases List.mem_cons.1 h with rfl | h
      · assumption
      · exact fun hx => newContacts_fresh _ cs x h (List.mem_cons_of_mem _ hx)

theorem newContacts_nodup :
    ∀ (s : List String) (cs : List Contact), ((newContacts s cs).map (·.phoneNumber)).Nodup
  | _, [] => List.nodup_nil
  | s, c :: cs => by
    unfold newContacts
    split
    · exact newContacts_nodup s cs
    · rw [List.map_cons, List.nodup_cons]
      refine ⟨fun hm => ?_, newContacts_nodup _ cs⟩
      obtain ⟨x, hx, he⟩ := List.mem_map.1 hm
      exact newContacts_fresh _ cs x hx (he ▸ List.mem_cons_self _ _)

theorem addContacts_wellFormed {a : Audience} (h : a.WellFormed) (cs : List Contact) (now : Nat) :
    (resultState (addContacts cs now a)).WellFormed := by
  unfold addContacts
  split
  · exact h
  · dsimp only [resultState]
    refine ⟨?_, rfl, ?_⟩
    · rw [List.map_append, List.nodup_append]
      refine ⟨h.nodup, newContacts_nodup _ cs, fun p hp hq => ?_⟩
      obtain ⟨x, hx, rfl⟩ := List.mem_map.1 hq
      exact newContacts_fresh _ cs x hx hp
    · simp [h.valid]

theorem removeContact_wellFormed {a : Audience} (h : a.WellFormed) (p : String) (now : Nat) :
    (resultState (removeContact p now a)).WellFormed := by
  have hn : ((a.contacts.filter (·.phoneNumber != p)).map (·.phoneNumber)).Nodup :=
    (h.nodup.sublist ((List.filter_sublist _).map _))
  unfold removeContact
  dsimp only
  split <;> dsimp only [resultState]
  · exact ⟨hn, rfl, rfl⟩
  · rename_i hlt
    have hlen : (a.contacts.filter (·.phoneNumber != p)).length ≤ a.contacts.length :=
      List.length_filter_le _ _
    exact ⟨hn, by simp only [h.total]; omega, by simp only [h.valid]; omega⟩

end Audience

/-- A call that is not an import. -/
def AudienceOp.AddRemove : AudienceOp → Prop
  | .importFromCsv _ => False
  | _ => True

/-- **`add_contacts` and `remove_contact` keep the list well formed.** From a well-formed
audience, any sequence of them leaves distinct phone strings and both counters equal to the
length. -/
theorem AddRemove.run_wellFormed :
    ∀ {a : Audience} (ops : List (AudienceOp × Nat)), a.WellFormed →
      (∀ op ∈ ops, op.1.AddRemove) → (a.runOps ops).WellFormed
  | _, [], h, _ => h
  | a, (op, now) :: ops, h, hops => by
    have h' : (AudienceOp.apply a (op, now)).WellFormed := by
      cases op with
      | addContacts cs => exact Audience.addContacts_wellFormed h cs now
      | removeContact p => exact Audience.removeContact_wellFormed h p now
      | importFromCsv _ => exact (hops _ (List.mem_cons_self _ _)).elim
    exact AddRemove.run_wellFormed ops h' fun o ho => hops o (List.mem_cons_of_mem _ ho)

/-! ## `import_from_csv` -/

/-- **Two spellings of one number, and an import.** On a new static audience, `add_contacts`
keeps `+91 98765 43210` and `+919876543210`, two strings for one number; importing the row
`98765-43210` then appends `+919876543210` once more and sets `valid_contacts` to 1, while
`total_contacts` is 3. -/
theorem audience_contacts_duplicated :
    let a : Audience := (Audience.create 1 2 "Customers" .static 0).runOps
      [(.addContacts [⟨"+91 98765 43210", [], by decide⟩, ⟨"+919876543210", [], by decide⟩], 1),
       (.importFromCsv [[("phone", "98765-43210")]], 2)]
    a.contacts.map (Audience.normalizePhone ∘ Contact.phoneNumber) =
        ["+919876543210", "+919876543210", "+919876543210"] ∧
      a.contacts.map Contact.phoneNumber = ["+91 98765 43210", "+919876543210", "+919876543210"] ∧
      a.totalContacts = 3 ∧ a.validContacts = 1 := by
  decide

end RcsMessaging
