import RcsMessaging.Domain.Message
import RcsMessaging.Python.Str

/-!
# `Domain.Phone` — the three `_normalize_phone` methods

`Message`, `OptIn` and `Audience` each normalise phone numbers with their own private method.
The first two have the same body (`normalizePhone`, `Domain.Message`): keep the digits, and
without a leading `+` prefix `+91` to ten of them or `+` to any other count; a number that starts
with `+` is returned as it was given, spaces and dashes included. `Audience._normalize_phone`
instead removes spaces, dashes and parentheses first, in both branches, and keeps every other
code point.

What holds of all three (`normalizePhone_idem`, `Audience.normalizePhone_idem`): each output
starts with `+` and is its own normal form. They agree, and give `+` followed by digits, on
numbers written with digits and the four separators only
(`normalizePhone_eq_audience_of_formatted`). They part on a number given with its `+` and
separators.
-/

namespace RcsMessaging

/-- `OptIn._normalize_phone` (`core/domain/opt_in.py`): the body of `Message._normalize_phone`,
line for line. -/
def OptIn.normalizePhone (phone : String) : String := RcsMessaging.normalizePhone phone

/-- The code points `Audience._normalize_phone` removes: `' '`, `'-'`, `'('` and `')'`. -/
def isSeparator (c : Char) : Bool := c == ' ' || c == '-' || c == '(' || c == ')'

/-- `Audience._normalize_phone`: remove spaces, dashes and parentheses; then, without a leading
`+`, a 10-code-point number gets `+91` and any other gets `+`. -/
def Audience.normalizePhone (phone : String) : String :=
  let p := PyStr.replace (PyStr.replace (PyStr.replace (PyStr.replace phone.toList
    [' '] []) ['-'] []) ['('] []) [')'] []
  if ['+'].isPrefixOf p then String.mk p
  else if p.length = 10 then "+91" ++ String.mk p
  else "+" ++ String.mk p

/-- A `+` followed by digits only. -/
def plusDigits (s : String) : Bool :=
  match s.toList with
  | '+' :: ds => ds.all Char.isDigit
  | _ => false

/-! ## Each normaliser is idempotent -/

theorem plus_isPrefixOf_cons (l : List Char) : ['+'].isPrefixOf ('+' :: l) = true := by simp

/-- A separator is not a digit. -/
theorem isDigit_of_isSeparator {c : Char} (h : isSeparator c = true) : c.isDigit = false := by
  revert h; simp only [isSeparator, Bool.or_eq_true, beq_iff_eq]
  rintro (((rfl | rfl) | rfl) | rfl) <;> rfl

theorem normalizePhone_of_plus {p : String} (h : ['+'].isPrefixOf p.toList = true) :
    normalizePhone p = p := by
  simp only [normalizePhone, h, if_true]

theorem plus_isPrefixOf_normalizePhone (p : String) :
    ['+'].isPrefixOf (normalizePhone p).toList = true := by
  unfold normalizePhone
  dsimp only
  split
  · assumption
  · split <;> exact plus_isPrefixOf_cons _

theorem normalizePhone_idem (p : String) : normalizePhone (normalizePhone p) = normalizePhone p :=
  normalizePhone_of_plus (plus_isPrefixOf_normalizePhone p)

/-- Without a leading `+`, the output is `+` and digits. -/
theorem plusDigits_normalizePhone {p : String} (h : ['+'].isPrefixOf p.toList = false) :
    plusDigits (normalizePhone p) = true := by
  have hd : (p.toList.filter Char.isDigit).all Char.isDigit = true := by simp
  unfold normalizePhone
  dsimp only
  rw [if_neg (by rw [h]; exact Bool.false_ne_true)]
  split
  · show ('9' :: '1' :: p.toList.filter Char.isDigit).all Char.isDigit = true
    simp
  · exact hd

/-- The four `replace` calls delete the separators. -/
theorem audience_strip (s : List Char) :
    PyStr.replace (PyStr.replace (PyStr.replace (PyStr.replace s [' '] []) ['-'] []) ['('] [])
      [')'] [] = s.filter (! isSeparator ·) := by
  simp only [PyStr.replace_single_nil, List.filter_filter]
  congr 1; funext c
  simp only [isSeparator, bne]
  cases c == ' ' <;> cases c == '-' <;> cases c == '(' <;> cases c == ')' <;> rfl

theorem Audience.normalizePhone_eq (phone : String) :
    Audience.normalizePhone phone =
      let p := phone.toList.filter (! isSeparator ·)
      if ['+'].isPrefixOf p then String.mk p
      else if p.length = 10 then "+91" ++ String.mk p
      else "+" ++ String.mk p := by
  rw [Audience.normalizePhone, audience_strip]

theorem Audience.plus_isPrefixOf_normalizePhone (p : String) :
    ['+'].isPrefixOf (Audience.normalizePhone p).toList = true := by
  rw [Audience.normalizePhone_eq]
  dsimp only
  split
  · assumption
  · split <;> exact plus_isPrefixOf_cons _

theorem Audience.normalizePhone_idem (p : String) :
    Audience.normalizePhone (Audience.normalizePhone p) = Audience.normalizePhone p := by
  have hsep : ∀ c ∈ (Audience.normalizePhone p).toList, isSeparator c = false := by
    rw [Audience.normalizePhone_eq]
    dsimp only
    split
    · simp
    · split <;> simp [String.toList, String.append, isSeparator]
  have hf : (Audience.normalizePhone p).toList.filter (! isSeparator ·) =
      (Audience.normalizePhone p).toList :=
    List.filter_eq_self.2 fun c hc => by simp [hsep c hc]
  rw [Audience.normalizePhone_eq (Audience.normalizePhone p)]
  dsimp only
  rw [hf, if_pos (Audience.plus_isPrefixOf_normalizePhone p)]
  rfl

/-! ## Where the normalisers agree -/

/-- A list whose first code point is not `+` does not start with `+`. -/
theorem plus_isPrefixOf_eq_false {l : List Char} (h : ∀ c ∈ l.head?, c ≠ '+') :
    ['+'].isPrefixOf l = false := by
  cases l with
  | nil => rfl
  | cons c s => rw [List.isPrefixOf_cons₂, beq_false_of_ne (Ne.symm (h c rfl)), Bool.false_and]

/-- On a number written with digits and separators only, the audience's normaliser gives what
`Message` and `OptIn` give, and that is `+` followed by digits. -/
theorem normalizePhone_eq_audience_of_formatted {p : String}
    (hp : ∀ c ∈ p.toList, c.isDigit ∨ isSeparator c) :
    Audience.normalizePhone p = normalizePhone p ∧ plusDigits (normalizePhone p) = true := by
  have hnp : ∀ c ∈ p.toList, c ≠ '+' := fun c hc he => by
    subst he; rcases hp _ hc with h | h <;> exact absurd h (by decide)
  have hf : p.toList.filter (! isSeparator ·) = p.toList.filter Char.isDigit := by
    refine List.filter_congr fun c hc => ?_
    rcases hp c hc with hd | hs
    · have : isSeparator c = false :=
        Bool.eq_false_iff.2 fun hs => by simp [isDigit_of_isSeparator hs] at hd
      simp [this, hd]
    · simp [isDigit_of_isSeparator hs, hs]
  have hplus := plus_isPrefixOf_eq_false fun c hc => hnp c (List.mem_of_mem_head? hc)
  have hplus' : ['+'].isPrefixOf (p.toList.filter Char.isDigit) = false :=
    plus_isPrefixOf_eq_false fun c hc => hnp c (List.mem_filter.1 (List.mem_of_mem_head? hc)).1
  refine ⟨?_, plusDigits_normalizePhone hplus⟩
  rw [Audience.normalizePhone_eq, hf]
  simp only [normalizePhone, hplus, hplus']
  rfl

/-- **The three normalisers on one formatted number.** `Message` and `OptIn` return
`+91 98765-43210` unchanged, which is not `+` followed by digits; `Audience` strips it to
`+919876543210`. -/
theorem phone_normalizers_disagree :
    normalizePhone "+91 98765-43210" = "+91 98765-43210" ∧
      OptIn.normalizePhone "+91 98765-43210" = "+91 98765-43210" ∧
      plusDigits (normalizePhone "+91 98765-43210") = false ∧
      Audience.normalizePhone "+91 98765-43210" = "+919876543210" := by
  decide

end RcsMessaging
