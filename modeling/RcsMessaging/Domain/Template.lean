import Mathlib.Data.List.Nodup
import RcsMessaging.Domain.Message
import RcsMessaging.Python.Str

/-!
# `Domain.Template` — templates, their lifecycle, and rendering

Shallow embedding of `core/domain/template.py`. A method that mutates `self` is an
`EStateM Exn Template` program, as for `Campaign` and `Message`; `re.match` is the parameter
`reMatch`, since the regular-expression engine is not modelled.

`render` checks the required variables, then runs `str.replace` once per declared variable, in
declared order, on the text the previous round left; a value is the given one or the default.
`_render_rich_card` and `_render_suggestions` instead run `str.replace` once per entry of the
caller's dict, with no default and no check.

## Contents
- The value object: `TemplateVariable`, `VariableValues` (a `Dict[str, str]`: distinct keys in
  insertion order), and `Template`, which carries `_validate_template` as a field, so only what
  the constructor accepts can be built; every method keeps it (`validateTemplate_append`).
- `extract_variables` (`findPlaceholders`, the matches of `\{\{(\w+)\}\}`), `_validate_template`
  with its characterisation `validateTemplate_isOk_iff`, and `_validate_variables`.
- `render`: the loop over the declared variables (`substituteVariables`), and the card and
  suggestion paths (`substituteItems`), which are that loop over the dict's own keys
  (`substituteVariables_items`).
- The lifecycle: once a template leaves DRAFT no operation brings it back or changes what it
  renders (`Template.frozen_runOps`).
- Content cut into literal text and placeholders (`Piece`): one `str.replace` round acts piece by
  piece (`replace_flatten`), and so does `singlePass`, a single left-to-right pass that never
  rescans what it inserts (`singlePass_flatten`). They meet in `render_single_pass`.
-/

namespace RcsMessaging

/-- Two results of an `Except` are equal when the constructors and the values are. -/
instance exceptDecidableEq {ε α : Type} [DecidableEq ε] [DecidableEq α] :
    DecidableEq (Except ε α)
  | .ok x, .ok y => decidable_of_iff (x = y) ⟨fun h => h ▸ rfl, fun h => by cases h; rfl⟩
  | .error x, .error y => decidable_of_iff (x = y) ⟨fun h => h ▸ rfl, fun h => by cases h; rfl⟩
  | .ok _, .error _ => isFalse fun h => Except.noConfusion h
  | .error _, .ok _ => isFalse fun h => Except.noConfusion h

/-- Template approval status (`TemplateStatus`). -/
inductive TemplateStatus
  | draft | pendingApproval | approved | rejected | archived
  deriving DecidableEq, Repr

/-- A declared template variable (`TemplateVariable`). -/
structure TemplateVariable where
  name : String
  description : String
  required : Bool := true
  defaultValue : Option String := none
  validationRegex : Option String := none
  deriving DecidableEq, Repr

/-- `variable_values: Dict[str, str]`: its entries in insertion order, the keys distinct. -/
structure VariableValues where
  entries : List (String × String)
  keys_nodup : (entries.map (·.1)).Nodup

/-- `variable_values.get(key)`. -/
def VariableValues.get (d : VariableValues) (key : String) : Option String := d.entries.lookup key

/-- `f"{{{{{name}}}}}"`: two opening braces, the name, two closing braces. -/
def placeholder (name : String) : List Char := '{' :: '{' :: (name.toList ++ ['}', '}'])

/-! ## Extracting and validating -/

/-- `\w`, on the code points the model covers: an ASCII letter or digit, or `_`. -/
def isWordChar (c : Char) : Bool := c.isAlphanum || c == '_'

/-- The match of `\{\{(\w+)\}\}` at the front of `s`, as its group. `\w+` is greedy and `}` is
not a word character, so the group is the whole run of word characters after the braces. -/
def matchPlaceholder (s : List Char) : Option (List Char) :=
  if ['{', '{'].isPrefixOf s then
    let w := (s.drop 2).takeWhile isWordChar
    if !w.isEmpty && ['}', '}'].isPrefixOf ((s.drop 2).drop w.length) then some w else none
  else none

/-- `re.findall(r'\{\{(\w+)\}\}', content)`: the groups of the non-overlapping matches, left to
right; `skip` counts the code points of the last match still to pass. -/
def findPlaceholders : Nat → List Char → List String
  | _, [] => []
  | skip + 1, _ :: s => findPlaceholders skip s
  | 0, c :: s =>
    match matchPlaceholder (c :: s) with
    | some w => String.mk w :: findPlaceholders (w.length + 3) s
    | none => findPlaceholders 0 s

/-- `_validate_template()` on the content and the declared variables. The undeclared names are
joined in the order they first occur; the source joins a `set`, whose order Python does not fix. -/
def validateTemplate (content : String) (vars : List TemplateVariable) : Except Exn Unit :=
  if content.length > 1024 then .error (.valueError "Template content exceeds 1024 characters")
  else
    let undeclared := (findPlaceholders 0 content.toList).filter (· ∉ vars.map (·.name))
    if undeclared.isEmpty then .ok ()
    else .error (.valueError ("Undeclared variables in content: " ++
      ", ".intercalate undeclared.eraseDups))

/-- `_validate_template()` passes exactly when the content has at most 1024 code points and every
name `extract_variables` finds is declared. -/
theorem validateTemplate_isOk_iff (content : String) (vars : List TemplateVariable) :
    (validateTemplate content vars).isOk = true ↔ content.length ≤ 1024 ∧
      ∀ n ∈ findPlaceholders 0 content.toList, n ∈ vars.map (·.name) := by
  unfold validateTemplate
  by_cases hl : content.length > 1024
  · simp only [if_pos hl]
    exact ⟨Bool.noConfusion, fun h => absurd h.1 (Nat.not_le.2 hl)⟩
  · simp only [if_neg hl, List.isEmpty_iff, List.filter_eq_nil_iff, decide_eq_true_eq, not_not]
    split
    · exact ⟨fun _ => ⟨Nat.le_of_not_gt hl, ‹_›⟩, fun _ => rfl⟩
    · exact ⟨Bool.noConfusion, fun h => absurd h.2 ‹_›⟩

/-- Declaring more variables keeps a template valid. -/
theorem validateTemplate_append {content : String} {vars : List TemplateVariable}
    (h : (validateTemplate content vars).isOk = true) (more : List TemplateVariable) :
    (validateTemplate content (vars ++ more)).isOk = true := by
  rw [validateTemplate_isOk_iff] at h ⊢
  refine ⟨h.1, fun n hn => ?_⟩
  rw [List.map_append]
  exact List.mem_append_left _ (h.2 n hn)

/-- A message template (`Template`), with the attributes its methods read and write. A value
exists only once `_validate_template()` has passed on its content and variables, as in
`__init__`. -/
structure Template where
  id : Nat
  tenantId : Nat
  name : String
  content : String
  status : TemplateStatus
  /-- `self.variables` (`variables` is a keyword of Lean). -/
  vars : List TemplateVariable
  richCardTemplate : Option (List (String × Option String))
  suggestionsTemplate : List (List (String × String))
  usageCount : Nat
  lastUsedAt : Option Nat
  updatedAt : Nat
  accepted : (validateTemplate content vars).isOk = true

/-- `Template(id, tenant_id, name, content, status, variables, rich_card_template,
suggestions_template)` at `now`; a `None` list is given as `[]`. -/
def Template.init (id tenantId : Nat) (name content : String) (status : TemplateStatus)
    (vars : List TemplateVariable) (richCardTemplate : Option (List (String × Option String)))
    (suggestionsTemplate : List (List (String × String))) (now : Nat) : Except Exn Template :=
  match h : validateTemplate content vars with
  | .ok () =>
    .ok ⟨id, tenantId, name, content, status, vars, richCardTemplate, suggestionsTemplate,
      0, none, now, by rw [h]; rfl⟩
  | .error e => .error e

/-- `Template.create(tenant_id, name, content, variables)` at `now` (`id` stands for `uuid4()`):
every named variable is required, with no default and no pattern. -/
def Template.create (id tenantId : Nat) (name content : String) (vars : List String)
    (now : Nat) : Except Exn Template :=
  Template.init id tenantId name.trim content.trim .draft
    (vars.map fun n => { name := n, description := "Variable: " ++ n }) none [] now

/-- `_validate_variables(variable_values)`. -/
def validateVariables (values : VariableValues) : List TemplateVariable → Except Exn Unit
  | [] => .ok ()
  | v :: vs =>
    if v.required && (values.get v.name).isNone && v.defaultValue.isNone then
      .error (.valueError ("Required variable '" ++ v.name ++ "' not provided"))
    else validateVariables values vs

/-! ## Rendering -/

/-- The value the loop of `render` uses for `v`:
`variable_values.get(var.name, var.default_value or "")`. -/
def usedValue (values : VariableValues) (v : TemplateVariable) : String :=
  (values.get v.name).getD (v.defaultValue.getD "")

/-- The names and values the loop of `render` uses, in declared order. -/
def usedValues (values : VariableValues) (vars : List TemplateVariable) :
    List (String × List Char) :=
  vars.map fun v => (v.name, (usedValue values v).toList)

/-- The loop `for var_name, value in variable_values.items(): result = result.replace(...)` of
`_render_rich_card` and `_render_suggestions`. -/
def substituteItems (items : List (String × String)) (text : List Char) : List Char :=
  items.foldl (fun r kv => PyStr.replace r (placeholder kv.1) kv.2.toList) text

/-- `SuggestedAction(**suggestion_data)`: the dataclass takes `type` and `text`, and
`postback_data`, `url` and `phone_number` with default `None`; any other keyword is refused
first. -/
def SuggestedAction.ofKwargs (data : List (String × String)) : Except Exn SuggestedAction :=
  match data.find? (·.1 ∉ ["type", "text", "postback_data", "url", "phone_number"]) with
  | some kv => .error (.other
    ("SuggestedAction.__init__() got an unexpected keyword argument '" ++ kv.1 ++ "'"))
  | none =>
    match data.lookup "type", data.lookup "text" with
    | some ty, some tx =>
      .ok ⟨ty, tx, data.lookup "postback_data", data.lookup "url", data.lookup "phone_number"⟩
    | none, some _ =>
      .error (.other "SuggestedAction.__init__() missing 1 required positional argument: 'type'")
    | some _, none =>
      .error (.other "SuggestedAction.__init__() missing 1 required positional argument: 'text'")
    | none, none => .error (.other
      "SuggestedAction.__init__() missing 2 required positional arguments: 'type' and 'text'")

namespace Template

/-- The nested `substitute(text)` of `_render_rich_card`: `None` for a missing, `None` or empty
field. -/
def substitute (values : VariableValues) (text : Option String) : Option String :=
  if truthy text then some (String.mk (substituteItems values.entries (text.getD "").toList))
  else none

/-- `_render_rich_card(variable_values)`, also the `if self.rich_card_template:` before it. -/
def renderRichCard (t : Template) (values : VariableValues) : Option RichCard :=
  match t.richCardTemplate with
  | some card@(_ :: _) =>
    some
      { title := substitute values (card.lookup "title").join
        description := substitute values (card.lookup "description").join
        mediaUrl := substitute values (card.lookup "media_url").join }
  | _ => none

/-- `_render_suggestions(variable_values)`: every string field of every suggestion goes through
the loop over the dict's entries. -/
def renderSuggestions (t : Template) (values : VariableValues) :
    Except Exn (List SuggestedAction) :=
  t.suggestionsTemplate.mapM fun d =>
    SuggestedAction.ofKwargs (d.map fun kv => (kv.1, String.mk (substituteItems values.entries
      kv.2.toList)))

end Template

section Regex

variable (reMatch : String → String → Bool)

/-- `TemplateVariable.validate(value)`: a set, non-empty pattern must match at the start. -/
def TemplateVariable.validate (v : TemplateVariable) (value : String) : Bool :=
  if truthy v.validationRegex then reMatch (v.validationRegex.getD "") value else true

/-- The loop of `render` over the declared variables, in order: the value is checked, then every
placeholder of the variable in the text so far is replaced by it. -/
def substituteVariables (values : VariableValues) (text : List Char) :
    List TemplateVariable → Except Exn (List Char)
  | [] => .ok text
  | v :: vs =>
    if v.validate reMatch (usedValue values v) then
      substituteVariables values
        (PyStr.replace text (placeholder v.name) (usedValue values v).toList) vs
    else .error (.valueError
      ("Invalid value for variable '" ++ v.name ++ "': " ++ usedValue values v))

namespace Template

/-- What `render` returns: everything it computes before it records the use. -/
def renderContent (t : Template) (values : VariableValues) : Except Exn MessageContent := do
  validateVariables values t.vars
  let text ← substituteVariables reMatch values t.content.toList t.vars
  let suggestions ← t.renderSuggestions values
  pure
    { text := String.mk text
      richCard := (t.renderRichCard values).map .card
      suggestions := suggestions.map .action }

/-- `render(variable_values)` at `now`: a use is recorded only when it returns. -/
def render (values : VariableValues) (now : Nat) : EStateM Exn Template MessageContent := fun t =>
  match t.renderContent reMatch values with
  | .ok c => .ok c { t with usageCount := t.usageCount + 1, lastUsedAt := some now }
  | .error e => .error e t

end Template

end Regex

/-! ## The lifecycle -/

namespace Template

/-- `add_variable(name, description, required, default_value)`. -/
def addVariable (name description : String) (required : Bool) (defaultValue : Option String)
    (now : Nat) : EStateM Exn Template Unit := fun t =>
  if t.status ≠ .draft then .error (.valueError "Cannot modify approved template") t
  else if t.vars.any (·.name == name) then
    .error (.valueError ("Variable '" ++ name ++ "' already exists")) t
  else .ok () { t with
    vars := t.vars ++ [⟨name, description, required, defaultValue, none⟩]
    updatedAt := now
    accepted := validateTemplate_append t.accepted _ }

/-- `set_rich_card(title, description, media_url)`. -/
def setRichCard (title description mediaUrl : Option String) (now : Nat) :
    EStateM Exn Template Unit := fun t =>
  if t.status ≠ .draft then .error (.valueError "Cannot modify approved template") t
  else .ok () { t with
    richCardTemplate :=
      some [("title", title), ("description", description), ("media_url", mediaUrl)]
    updatedAt := now }

/-- `add_suggestion(suggestion_type, text, **kwargs)`: the dict
`{"type": suggestion_type, "text": text, **kwargs}` (a keyword `type` moves to the end). -/
def addSuggestion (suggestionType text : String) (kwargs : List (String × String)) (now : Nat) :
    EStateM Exn Template Unit := fun t =>
  if t.status ≠ .draft then .error (.valueError "Cannot modify approved template") t
  else .ok () { t with
    suggestionsTemplate := t.suggestionsTemplate ++
      [kwargs.foldl (fun d kv => setKey d kv.1 kv.2) [("type", suggestionType), ("text", text)]]
    updatedAt := now }

/-- `submit_for_approval()`: `_validate_template()` runs again. -/
def submitForApproval (now : Nat) : EStateM Exn Template Unit := fun t =>
  if t.status ≠ .draft then .error (.valueError "Template is not in draft status") t
  else
    match validateTemplate t.content t.vars with
    | .error e => .error e t
    | .ok () => .ok () { t with status := .pendingApproval, updatedAt := now }

/-- `approve()`. -/
def approve (now : Nat) : EStateM Exn Template Unit := fun t =>
  if t.status ≠ .pendingApproval then .error (.valueError "Template is not pending approval") t
  else .ok () { t with status := .approved, updatedAt := now }

/-- `reject(reason)`; the reason is not stored. -/
def reject (_reason : String) (now : Nat) : EStateM Exn Template Unit := fun t =>
  if t.status ≠ .pendingApproval then .error (.valueError "Template is not pending approval") t
  else .ok () { t with status := .rejected, updatedAt := now }

/-- `archive()`, from any status. -/
def archive (now : Nat) : EStateM Exn Template Unit := fun t =>
  .ok () { t with status := .archived, updatedAt := now }

/-- `is_approved()`. -/
def isApproved (t : Template) : Bool := t.status == .approved

end Template

/-! ## Content as literal text and placeholders -/

/-- No brace in a name. -/
def braceFree (n : List Char) : Prop := '{' ∉ n ∧ '}' ∉ n

instance (n : List Char) : Decidable (braceFree n) := inferInstanceAs (Decidable (_ ∧ _))

/-- A stretch of template text: literal code points, or the placeholder of a name. -/
inductive Piece
  | text (s : List Char)
  | var (name : String)
  deriving DecidableEq, Repr

namespace Piece

/-- Its code points. -/
def flat : Piece → List Char
  | text s => s
  | var n => placeholder n

/-- A literal text holds no `{`, a placeholder's name no brace. -/
def Clean : Piece → Prop
  | text s => '{' ∉ s
  | var n => braceFree n.toList

instance : DecidablePred Clean
  | text s => inferInstanceAs (Decidable ('{' ∉ s))
  | var n => inferInstanceAs (Decidable (braceFree n.toList))

/-- One round of the loop of `render`: the placeholders of `p` become the text `v`. -/
def subst (p : String) (v : List Char) : Piece → Piece
  | text s => text s
  | var n => if n = p then text v else var n

/-- A placeholder of a name of `env` becomes that name's first value in `env`. -/
def resolve (env : List (String × List Char)) : Piece → Piece
  | text s => text s
  | var n =>
    match env.find? (·.1 == n) with
    | some e => text e.2
    | none => var n

theorem resolve_nil : resolve [] = id := funext fun q => by cases q <;> rfl

/-- Resolving with one more name in front is substituting it first. -/
theorem resolve_cons (n : String) (v : List Char) (env : List (String × List Char)) :
    ∀ q : Piece, q.resolve ((n, v) :: env) = (q.subst n v).resolve env
  | text _ => rfl
  | var m => by
    by_cases h : m = n
    · subst h; simp [resolve, subst]
    · simp [resolve, subst, h, Ne.symm h]

theorem clean_subst {p : String} {v : List Char} (hv : '{' ∉ v) :
    ∀ q : Piece, q.Clean → (q.subst p v).Clean
  | text _, h => h
  | var n, h => by
    by_cases hn : n = p
    · rw [subst, if_pos hn]; exact hv
    · rw [subst, if_neg hn]; exact h

end Piece

section Placeholders

variable {p n : String} {rest : List Char}

theorem placeholder_ne_nil : placeholder n ≠ [] := List.cons_ne_nil _ _

theorem placeholder_append :
    placeholder n ++ rest = '{' :: '{' :: (n.toList ++ '}' :: '}' :: rest) := by
  simp [placeholder]

/-- A name without `}`, then `}`, begins another such name, then `}`, only if they are equal. -/
theorem eq_of_prefix_close : ∀ {p n : List Char}, '}' ∉ p → '}' ∉ n →
    p ++ ['}'] <+: n ++ '}' :: rest → p = n
  | [], [], _, _, _ => rfl
  | [], c :: n, _, hn, h => absurd ((List.cons_prefix_cons.1 h).1 ▸ List.mem_cons_self c n) hn
  | c :: p, [], hp, _, h => absurd ((List.cons_prefix_cons.1 h).1 ▸ List.mem_cons_self c p) hp
  | a :: p, b :: n, hp, hn, h => by
    obtain ⟨rfl, ht⟩ := List.cons_prefix_cons.1 h
    rw [eq_of_prefix_close (fun hm => hp (List.mem_cons_of_mem a hm))
      (fun hm => hn (List.mem_cons_of_mem a hm)) ht]

/-- Among brace-free names, a placeholder begins only a placeholder of its own name. -/
theorem placeholder_isPrefixOf_iff (hp : braceFree p.toList) (hn : braceFree n.toList) :
    (placeholder p).isPrefixOf (placeholder n ++ rest) = true ↔ p = n := by
  rw [List.isPrefixOf_iff_prefix]
  refine ⟨fun h => String.ext (@eq_of_prefix_close ('}' :: rest) _ _ hp.2 hn.2 ?_),
    fun h => h ▸ List.prefix_append _ _⟩
  rw [placeholder, placeholder_append, List.cons_prefix_cons, List.cons_prefix_cons] at h
  exact (List.prefix_append (p.toList ++ ['}']) ['}']).trans (by simpa using h.2.2)

/-- One code point into a placeholder of a name without `{`, no placeholder begins. -/
theorem placeholder_isPrefixOf_tail (hn : '{' ∉ n.toList) (m : String) :
    (placeholder m).isPrefixOf ('{' :: (n.toList ++ '}' :: '}' :: rest)) = false := by
  cases h : n.toList with
  | nil => simp [placeholder, List.isPrefixOf_cons₂]
  | cons c s =>
    have hc : c ≠ '{' := fun hc => hn (h ▸ hc ▸ List.mem_cons_self _ _)
    simp [placeholder, List.isPrefixOf_cons₂, Ne.symm hc]

theorem lbrace_not_mem_close (hn : '{' ∉ n.toList) : '{' ∉ n.toList ++ ['}', '}'] := by
  simpa using hn

end Placeholders

/-! ## One round of `str.replace` -/

section Replace

variable {p n : String} {rest : List Char}

/-- The placeholders of `p` pass over a placeholder of another brace-free name. -/
theorem replace_placeholder_other (hp : braceFree p.toList) (hn : braceFree n.toList)
    (hne : n ≠ p) (v : List Char) :
    PyStr.replace (placeholder n ++ rest) (placeholder p) v =
      placeholder n ++ PyStr.replace rest (placeholder p) v := by
  have h0 : (placeholder p).isPrefixOf (placeholder n ++ rest) = false :=
    Bool.eq_false_iff.2 fun h => hne ((placeholder_isPrefixOf_iff hp hn).1 h).symm
  have hs : ∀ c ∈ n.toList ++ ['}', '}'], (placeholder p).head? ≠ some c :=
    fun c hc he => lbrace_not_mem_close hn.1 (Option.some.inj he ▸ hc)
  rw [placeholder_append] at h0 ⊢
  rw [PyStr.replace_cons placeholder_ne_nil h0,
    PyStr.replace_cons placeholder_ne_nil (placeholder_isPrefixOf_tail hn.1 p),
    show n.toList ++ '}' :: '}' :: rest = (n.toList ++ ['}', '}']) ++ rest by simp,
    PyStr.replace_append_of_not_mem placeholder_ne_nil hs]
  simp [placeholder]

/-- One round of the loop on content cut into clean pieces: the placeholders of `p` become `v`,
and nothing else changes. -/
theorem replace_flatten (hp : braceFree p.toList) (v : List Char) :
    ∀ ps : List Piece, (∀ q ∈ ps, q.Clean) →
      PyStr.replace (ps.flatMap Piece.flat) (placeholder p) v =
        (ps.map (Piece.subst p v)).flatMap Piece.flat
  | [], _ => PyStr.replace_nil_left placeholder_ne_nil
  | q :: ps, h => by
    have ih := replace_flatten hp v ps fun q hq => h q (List.mem_cons_of_mem _ hq)
    simp only [List.flatMap_cons, List.map_cons]
    cases q with
    | text s =>
      have hs : ∀ c ∈ s, (placeholder p).head? ≠ some c :=
        fun c hc he => h _ (List.mem_cons_self _ _) (Option.some.inj he ▸ hc)
      rw [Piece.flat, PyStr.replace_append_of_not_mem placeholder_ne_nil hs, ih]; rfl
    | var n =>
      by_cases hn : n = p
      · subst hn
        rw [Piece.flat, PyStr.replace_append_of_ne_nil placeholder_ne_nil, ih, Piece.subst,
          if_pos rfl]; rfl
      · rw [Piece.flat, replace_placeholder_other hp (h _ (List.mem_cons_self _ _)) hn, ih,
          Piece.subst, if_neg hn]; rfl

end Replace

/-! ## A single pass -/

/-- A single left-to-right pass over `s`: where the placeholder of a name of `env` begins, the
name's first value in `env` is put and the pass resumes after the placeholder, never scanning what
it put; any other code point is kept. `skip` counts the code points still to pass. -/
def singlePass (env : List (String × List Char)) : Nat → List Char → List Char
  | _, [] => []
  | skip + 1, _ :: s => singlePass env skip s
  | 0, c :: s =>
    match env.find? fun e => (placeholder e.1).isPrefixOf (c :: s) with
    | some e => e.2 ++ singlePass env (e.1.length + 3) s
    | none => c :: singlePass env 0 s

section SinglePass

variable {env : List (String × List Char)}

theorem find?_congr_mem {α : Type} {p q : α → Bool} :
    ∀ {l : List α}, (∀ a ∈ l, p a = q a) → l.find? p = l.find? q
  | [], _ => rfl
  | a :: l, h => by
    rw [List.find?_cons, List.find?_cons, h a (List.mem_cons_self a l),
      find?_congr_mem fun b hb => h b (List.mem_cons_of_mem a hb)]

theorem singlePass_skip (env : List (String × List Char)) :
    ∀ k s, singlePass env k s = singlePass env 0 (s.drop k)
  | 0, _ => rfl
  | _ + 1, [] => rfl
  | k + 1, _ :: s => singlePass_skip env k s

theorem singlePass_cons_of_none {c : Char} {s : List Char}
    (h : env.find? (fun e => (placeholder e.1).isPrefixOf (c :: s)) = none) :
    singlePass env 0 (c :: s) = c :: singlePass env 0 s := by
  rw [singlePass, h]

/-- Text without `{` is kept. -/
theorem singlePass_append_of_not_mem {s : List Char} (hs : '{' ∉ s) (rest : List Char) :
    singlePass env 0 (s ++ rest) = s ++ singlePass env 0 rest := by
  induction s with
  | nil => rfl
  | cons c s ih =>
    have hc : c ≠ '{' := fun hc => hs (hc ▸ List.mem_cons_self _ _)
    rw [List.cons_append, singlePass_cons_of_none, ih fun h => hs (List.mem_cons_of_mem c h)]; rfl
    exact List.find?_eq_none.2 fun e _ => by simp [placeholder, Ne.symm hc]

/-- A placeholder of a brace-free name is resolved, and the pass resumes after it. -/
theorem singlePass_placeholder (henv : ∀ e ∈ env, braceFree e.1.toList) {n : String}
    (hn : braceFree n.toList) (rest : List Char) :
    singlePass env 0 (placeholder n ++ rest) =
      ((Piece.var n).resolve env).flat ++ singlePass env 0 rest := by
  have hfind : env.find? (fun e => (placeholder e.1).isPrefixOf (placeholder n ++ rest)) =
      env.find? (·.1 == n) := by
    refine find?_congr_mem fun e he => ?_
    rw [Bool.eq_iff_iff, placeholder_isPrefixOf_iff (henv e he) hn, beq_iff_eq]
  rw [placeholder_append] at hfind ⊢
  rw [singlePass, hfind, Piece.resolve]
  cases hf : env.find? (·.1 == n) with
  | some e =>
    obtain rfl : e.1 = n := by simpa using List.find?_some hf
    have hlen : ('{' :: e.1.toList ++ ['}', '}']).length = e.1.length + 3 := by
      simp only [List.length_cons, List.length_append, List.length_nil]; rfl
    dsimp only
    rw [singlePass_skip, show '{' :: (e.1.toList ++ '}' :: '}' :: rest) =
      ('{' :: e.1.toList ++ ['}', '}']) ++ rest by simp, List.drop_left' hlen]
    rfl
  | none =>
    rw [singlePass_cons_of_none (List.find?_eq_none.2 fun e _ => by
        rw [placeholder_isPrefixOf_tail hn.1]; exact Bool.false_ne_true),
      show n.toList ++ '}' :: '}' :: rest = (n.toList ++ ['}', '}']) ++ rest by simp,
      singlePass_append_of_not_mem (lbrace_not_mem_close hn.1)]
    simp [Piece.flat, placeholder]

/-- On content cut into clean pieces, the pass resolves every placeholder. -/
theorem singlePass_flatten (henv : ∀ e ∈ env, braceFree e.1.toList) :
    ∀ ps : List Piece, (∀ q ∈ ps, q.Clean) →
      singlePass env 0 (ps.flatMap Piece.flat) = (ps.map (Piece.resolve env)).flatMap Piece.flat
  | [], _ => rfl
  | q :: ps, h => by
    have ih := singlePass_flatten henv ps fun q hq => h q (List.mem_cons_of_mem _ hq)
    simp only [List.flatMap_cons, List.map_cons]
    cases q with
    | text s => rw [Piece.flat, singlePass_append_of_not_mem (h _ (List.mem_cons_self _ _)), ih]; rfl
    | var n => rw [Piece.flat, singlePass_placeholder henv (h _ (List.mem_cons_self _ _)), ih]

end SinglePass

/-! ## The loop of `render` and the single pass -/

theorem lookup_of_mem_nodup :
    ∀ {l : List (String × String)} {kv : String × String}, (l.map (·.1)).Nodup → kv ∈ l →
      l.lookup kv.1 = some kv.2
  | [], _, _, h => absurd h (List.not_mem_nil _)
  | (k, v) :: l, kv, hn, h => by
    simp only [List.map_cons, List.nodup_cons] at hn
    rcases List.mem_cons.1 h with rfl | h
    · simp [List.lookup_cons]
    · have hk : kv.1 ≠ k := fun he => hn.1 (he ▸ List.mem_map_of_mem (·.1) h)
      rw [List.lookup_cons, beq_false_of_ne hk, lookup_of_mem_nodup hn.2 h]

/-- `variable_values[key]` for an entry of the dict. -/
theorem VariableValues.get_of_mem (d : VariableValues) {kv : String × String}
    (h : kv ∈ d.entries) : d.get kv.1 = some kv.2 :=
  lookup_of_mem_nodup d.keys_nodup h

section Loop

variable (reMatch : String → String → Bool) {values : VariableValues}

/-- The loop of `render` on content cut into clean pieces, for brace-free names and values
without `{`: every placeholder of a declared name becomes the value of its first declaration. -/
theorem substituteVariables_flatten :
    ∀ (vs : List TemplateVariable) (ps : List Piece) {text : List Char},
      (∀ q ∈ ps, q.Clean) → (∀ v ∈ vs, braceFree v.name.toList) →
      (∀ v ∈ vs, '{' ∉ (usedValue values v).toList) →
      substituteVariables reMatch values (ps.flatMap Piece.flat) vs = .ok text →
      text = (ps.map (Piece.resolve (usedValues values vs))).flatMap Piece.flat
  | [], ps, _, _, _, _, h => by
    cases h
    simp [usedValues, Piece.resolve_nil]
  | v :: vs, ps, _, hc, hn, hv, h => by
    rw [substituteVariables] at h
    split at h
    · have hv₀ := hv v (List.mem_cons_self v vs)
      rw [replace_flatten (hn v (List.mem_cons_self v vs)) _ ps hc] at h
      rw [substituteVariables_flatten vs _ (fun q' hq' => ?_)
          (fun w hw => hn w (List.mem_cons_of_mem v hw))
          (fun w hw => hv w (List.mem_cons_of_mem v hw)) h, List.map_map,
        show Piece.resolve (usedValues values vs) ∘ Piece.subst v.name (usedValue values v).toList =
          Piece.resolve (usedValues values (v :: vs)) from
          funext fun q => (Piece.resolve_cons _ _ _ q).symm]
      obtain ⟨q, hq, rfl⟩ := List.mem_map.1 hq'
      exact Piece.clean_subst hv₀ q (hc q hq)
    · cases h

/-- The loop of the card and suggestion paths is the loop of `render` run over the dict's own
keys, as variables that are required and have no default and no pattern. -/
theorem substituteVariables_items (values : VariableValues) :
    ∀ (l : List (String × String)), (∀ kv ∈ l, kv ∈ values.entries) → ∀ s : List Char,
      substituteVariables reMatch values s (l.map fun kv => { name := kv.1, description := "" }) =
        .ok (substituteItems l s)
  | [], _, _ => rfl
  | kv :: l, h, s => by
    have hv : usedValue values { name := kv.1, description := "" } = kv.2 := by
      rw [usedValue, values.get_of_mem (h kv (List.mem_cons_self kv l))]; rfl
    have hval : TemplateVariable.validate reMatch { name := kv.1, description := "" } kv.2 = true :=
      rfl
    rw [List.map_cons, substituteVariables, hv, if_pos hval,
      substituteVariables_items values l (fun kv hkv => h kv (List.mem_cons_of_mem _ hkv))]
    rfl

end Loop

namespace Template

variable {reMatch : String → String → Bool} {values : VariableValues} {now : Nat} {t t' : Template}

/-- A `render` that returns records one use. -/
theorem render_ok {c : MessageContent} (h : render reMatch values now t = .ok c t') :
    t.renderContent reMatch values = .ok c ∧
      t' = { t with usageCount := t.usageCount + 1, lastUsedAt := some now } := by
  unfold render at h
  split at h <;> cases h
  exact ⟨‹_›, rfl⟩

/-- A `render` that raises changes nothing. -/
theorem render_error {e : Exn} (h : render reMatch values now t = .error e t') : t' = t := by
  unfold render at h
  split at h <;> cases h
  rfl

theorem render_of_renderContent {c : MessageContent} (h : t.renderContent reMatch values = .ok c) :
    render reMatch values now t =
      .ok c { t with usageCount := t.usageCount + 1, lastUsedAt := some now } := by
  rw [render, h]

/-- The text `render` returns is what its loop over the declared variables made of the content. -/
theorem renderContent_text {c : MessageContent} (h : t.renderContent reMatch values = .ok c) :
    ∃ text, substituteVariables reMatch values t.content.toList t.vars = .ok text ∧
      c.text = String.mk text := by
  unfold renderContent at h
  cases hv : validateVariables values t.vars with
  | error e => rw [hv] at h; cases h
  | ok u =>
    cases hs : substituteVariables reMatch values t.content.toList t.vars with
    | error e => rw [hv, hs] at h; cases h
    | ok text =>
      cases hg : t.renderSuggestions values with
      | error e => rw [hv, hs, hg] at h; cases h
      | ok sg => rw [hv, hs, hg] at h; cases h; exact ⟨text, rfl, rfl⟩

end Template

/-- **Where `render` is a single pass.** For content made of literal text without `{` and
placeholders of brace-free names, brace-free declared names, and values without `{`: the text a
returning `render` gives is a single left-to-right pass over the content that puts, for each
placeholder of a declared name, the value the loop uses for it, and never scans what it put. -/
theorem render_single_pass (reMatch : String → String → Bool) {t t' : Template}
    {values : VariableValues} {now : Nat} {c : MessageContent} (ps : List Piece)
    (hps : t.content.toList = ps.flatMap Piece.flat) (hclean : ∀ q ∈ ps, q.Clean)
    (hnames : ∀ v ∈ t.vars, braceFree v.name.toList)
    (hvals : ∀ v ∈ t.vars, '{' ∉ (usedValue values v).toList)
    (h : Template.render reMatch values now t = .ok c t') :
    c.text = String.mk (singlePass (usedValues values t.vars) 0 t.content.toList) := by
  obtain ⟨text, hs, hc⟩ := Template.renderContent_text (Template.render_ok h).1
  have henv : ∀ e ∈ usedValues values t.vars, braceFree e.1.toList := by
    simp only [usedValues, List.mem_map]
    rintro _ ⟨v, hv, rfl⟩
    exact hnames v hv
  rw [hps] at hs ⊢
  rw [hc, singlePass_flatten henv ps hclean,
    substituteVariables_flatten reMatch t.vars ps hclean hnames hvals hs]

/-- The example of the source's docstring, rendered for John and order `#1234`. -/
theorem render_single_pass_order_shipped :
    let t : Template := ⟨1, 2, "Order Shipped",
      "Hi {{customer_name}}, your order {{order_id}} has shipped!", .draft,
      [{ name := "customer_name", description := "Variable: customer_name" },
        { name := "order_id", description := "Variable: order_id" }], none, [], 0, none, 0,
      by decide⟩
    let values : VariableValues := ⟨[("customer_name", "John"), ("order_id", "#1234")], by decide⟩
    let ps : List Piece := [.text "Hi ".toList, .var "customer_name", .text ", your order ".toList,
      .var "order_id", .text " has shipped!".toList]
    let c : MessageContent := { text := "Hi John, your order #1234 has shipped!" }
    t.content.toList = ps.flatMap Piece.flat ∧ (∀ q ∈ ps, q.Clean) ∧
      (∀ v ∈ t.vars, braceFree v.name.toList) ∧
      (∀ v ∈ t.vars, '{' ∉ (usedValue values v).toList) ∧
      Template.render (fun _ _ => true) values 0 t =
        .ok c { t with usageCount := 1, lastUsedAt := some 0 } ∧
      c.text = String.mk (singlePass (usedValues values t.vars) 0 t.content.toList) := by
  intro t values ps c
  have h : Template.render (fun _ _ => true) values 0 t = .ok c _ :=
    Template.render_of_renderContent (by decide)
  exact ⟨by decide, by decide, by decide, by decide, h,
    render_single_pass _ ps (by decide) (by decide) (by decide) (by decide) h⟩

/-- **The loop scans what it put.** A value that holds a later variable's placeholder is
replaced again (`{{a}}` with `a = {{b}}`), and the braces around a placeholder close around its
value into a new one (`{{{{a}}}}` with `a = b`): `render` gives `x` for both accepted templates,
where a single pass gives `{{b}}`. -/
theorem render_rescans_inserted_values :
    let vars : List TemplateVariable :=
      [{ name := "a", description := "Variable: a" }, { name := "b", description := "Variable: b" }]
    let t₁ : Template := ⟨1, 2, "Chain", "{{a}}", .draft, vars, none, [], 0, none, 0, by decide⟩
    let v₁ : VariableValues := ⟨[("a", "{{b}}"), ("b", "x")], by decide⟩
    let t₂ : Template := ⟨1, 2, "Braces", "{{{{a}}}}", .draft, vars, none, [], 0, none, 0, by decide⟩
    let v₂ : VariableValues := ⟨[("a", "b"), ("b", "x")], by decide⟩
    Template.render (fun _ _ => true) v₁ 0 t₁ =
        .ok { text := "x" } { t₁ with usageCount := 1, lastUsedAt := some 0 } ∧
      String.mk (singlePass (usedValues v₁ vars) 0 t₁.content.toList) = "{{b}}" ∧
      Template.render (fun _ _ => true) v₂ 0 t₂ =
        .ok { text := "x" } { t₂ with usageCount := 1, lastUsedAt := some 0 } ∧
      String.mk (singlePass (usedValues v₂ vars) 0 t₂.content.toList) = "{{b}}" :=
  ⟨Template.render_of_renderContent (by decide), by decide,
    Template.render_of_renderContent (by decide), by decide⟩

/-- **The card and suggestions skip the declarations.** With `name` required, `greeting`
optional with default `Hi`, and a dict giving `name` and an undeclared `code`: the card title and
the suggestion text keep `{{greeting}}` and put `X` for `{{code}}`, where the loop of `render`
over the same strings puts `Hi` and keeps `{{code}}`. -/
theorem rich_content_skips_declarations :
    let t : Template := ⟨1, 2, "Greeting", "{{greeting}} {{name}}", .draft,
      [{ name := "name", description := "Variable: name" },
        { name := "greeting", description := "Greeting", required := false,
          defaultValue := some "Hi" }],
      some [("title", some "{{greeting}} {{name}}, use {{code}}")],
      [[("type", "reply"), ("text", "{{greeting}}, {{name}}")]], 0, none, 0, by decide⟩
    let values : VariableValues := ⟨[("name", "Ann"), ("code", "X")], by decide⟩
    Template.render (fun _ _ => true) values 0 t =
        .ok
          { text := "Hi Ann"
            richCard := some (.card { title := some "{{greeting}} Ann, use X" })
            suggestions := [.action { type := "reply", text := "{{greeting}}, Ann" }] }
          { t with usageCount := 1, lastUsedAt := some 0 } ∧
      substituteVariables (fun _ _ => true) values "{{greeting}} {{name}}, use {{code}}".toList
        t.vars = .ok "Hi Ann, use {{code}}".toList ∧
      substituteVariables (fun _ _ => true) values "{{greeting}}, {{name}}".toList t.vars =
        .ok "Hi, Ann".toList :=
  ⟨Template.render_of_renderContent (by decide), by decide, by decide⟩

/-! ## Over a whole lifecycle -/

/-- One call on a template. -/
inductive TemplateOp
  | addVariable (name description : String) (required : Bool) (defaultValue : Option String)
  | setRichCard (title description mediaUrl : Option String)
  | addSuggestion (suggestionType text : String) (kwargs : List (String × String))
  | submitForApproval
  | approve
  | reject (reason : String)
  | archive
  | render (values : VariableValues)

section Lifecycle

variable (reMatch : String → String → Bool)

/-- The call at `now`; what `render` returns is dropped. -/
def TemplateOp.run (now : Nat) : TemplateOp → EStateM Exn Template Unit
  | .addVariable n d r dv => Template.addVariable n d r dv now
  | .setRichCard ti d m => Template.setRichCard ti d m now
  | .addSuggestion ty tx kw => Template.addSuggestion ty tx kw now
  | .submitForApproval => Template.submitForApproval now
  | .approve => Template.approve now
  | .reject r => Template.reject r now
  | .archive => Template.archive now
  | .render values => fun t =>
    match Template.render reMatch values now t with
    | .ok _ t' => .ok () t'
    | .error e t' => .error e t'

/-- The template after a call at `now`, whether it returned or raised. -/
def TemplateOp.apply (t : Template) (op : TemplateOp × Nat) : Template :=
  resultState (op.1.run reMatch op.2 t)

/-- The template after a sequence of calls. -/
def Template.runOps (t : Template) (ops : List (TemplateOp × Nat)) : Template :=
  ops.foldl (TemplateOp.apply reMatch) t

end Lifecycle

namespace Template

/-- Two templates agree on what rendering reads. -/
structure SameRender (t t' : Template) : Prop where
  content : t'.content = t.content
  vars : t'.vars = t.vars
  richCardTemplate : t'.richCardTemplate = t.richCardTemplate
  suggestionsTemplate : t'.suggestionsTemplate = t.suggestionsTemplate

theorem SameRender.refl (t : Template) : SameRender t t := ⟨rfl, rfl, rfl, rfl⟩

theorem SameRender.trans {t t' t'' : Template} (h : SameRender t t') (h' : SameRender t' t'') :
    SameRender t t'' :=
  ⟨h'.content.trans h.content, h'.vars.trans h.vars,
    h'.richCardTemplate.trans h.richCardTemplate, h'.suggestionsTemplate.trans h.suggestionsTemplate⟩

variable {reMatch : String → String → Bool} {t t' : Template}

theorem renderContent_congr (h : SameRender t t') (values : VariableValues) :
    t'.renderContent reMatch values = t.renderContent reMatch values := by
  simp only [renderContent, renderRichCard, renderSuggestions, h.content, h.vars,
    h.richCardTemplate, h.suggestionsTemplate]

/-- A call on a template that has left DRAFT keeps it out of DRAFT and keeps what it renders. -/
theorem apply_of_ne_draft (h : t.status ≠ .draft) (op : TemplateOp × Nat) :
    (TemplateOp.apply reMatch t op).status ≠ .draft ∧
      SameRender t (TemplateOp.apply reMatch t op) := by
  obtain ⟨op, now⟩ := op
  cases op with
  | addVariable | setRichCard | addSuggestion | submitForApproval =>
    simp only [TemplateOp.apply, TemplateOp.run, addVariable, setRichCard, addSuggestion,
      submitForApproval, if_pos h]
    exact ⟨h, .refl t⟩
  | approve | reject =>
    simp only [TemplateOp.apply, TemplateOp.run, approve, reject]
    split
    · exact ⟨h, .refl t⟩
    · exact ⟨TemplateStatus.noConfusion, rfl, rfl, rfl, rfl⟩
  | archive => exact ⟨TemplateStatus.noConfusion, rfl, rfl, rfl, rfl⟩
  | render values =>
    simp only [TemplateOp.apply, TemplateOp.run]
    cases hr : render reMatch values now t with
    | ok c t' => obtain ⟨-, rfl⟩ := render_ok hr; exact ⟨h, rfl, rfl, rfl, rfl⟩
    | error e t' => obtain rfl := render_error hr; exact ⟨h, .refl _⟩

/-- **A template that has left DRAFT is frozen.** After any sequence of calls it is still out of
DRAFT, and it renders every dict as it did: the methods that change content, variables, card or
suggestions raise outside DRAFT, and no call leads back into it. -/
theorem frozen_runOps : ∀ {t : Template} (ops : List (TemplateOp × Nat)), t.status ≠ .draft →
    (t.runOps reMatch ops).status ≠ .draft ∧
      ∀ values, (t.runOps reMatch ops).renderContent reMatch values = t.renderContent reMatch values
  | _, [], h => ⟨h, fun _ => rfl⟩
  | t, op :: ops, h => by
    obtain ⟨h₁, hs₁⟩ := apply_of_ne_draft h op
    obtain ⟨h₂, hr₂⟩ := frozen_runOps ops h₁
    exact ⟨h₂, fun values => (hr₂ values).trans (renderContent_congr hs₁ values)⟩

end Template

end RcsMessaging
