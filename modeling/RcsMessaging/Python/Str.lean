import Mathlib.Data.List.Basic

/-!
# `Python.Str` — `str.replace` on code points

A Python `str` is a sequence of code points, as a `String` is; the model works on its `List Char`.
`s.replace(old, new)` scans `s` left to right and replaces every occurrence of `old` that starts
after the end of the previous replaced one; the replaced text is not scanned again. An empty `old`
matches before every code point and at the end.

Template rendering (`Domain.Template`), the audience's phone normaliser (`Domain.Phone`) and the
orchestrator's substitution loop all call `str.replace`; the API middlewares also call
`str.strip(chars)` and `in` (`stripBy`, `contains`). The lemmas here are the two steps of the
scan (`replace_append_of_ne_nil`, `replace_cons`), and what a one-character `old` removed by
`''` amounts to (`replace_single_nil`).
-/

namespace RcsMessaging

namespace PyStr

/-- The scan of `str.replace(old, new)` for a non-empty `old`; `skip` counts the code points of
the occurrence just replaced that are still to be passed. -/
def replaceScan (old new : List Char) : Nat → List Char → List Char
  | _, [] => []
  | skip + 1, _ :: s => replaceScan old new skip s
  | 0, c :: s =>
    if old.isPrefixOf (c :: s) then new ++ replaceScan old new (old.length - 1) s
    else c :: replaceScan old new 0 s

/-- `s.replace(old, new)`. -/
def replace (s old new : List Char) : List Char :=
  if old = [] then new ++ s.flatMap (· :: new) else replaceScan old new 0 s

theorem replaceScan_skip (old new : List Char) :
    ∀ k s, replaceScan old new k s = replaceScan old new 0 (s.drop k)
  | 0, _ => rfl
  | _ + 1, [] => rfl
  | k + 1, _ :: s => replaceScan_skip old new k s

section Steps

variable {old new : List Char}

@[simp] theorem replace_nil_left (h : old ≠ []) : replace [] old new = [] := by
  simp only [replace, if_neg h]; rfl

/-- An occurrence of `old` at the front is replaced, and the scan resumes after it. -/
theorem replace_append_of_ne_nil (h : old ≠ []) (s : List Char) :
    replace (old ++ s) old new = new ++ replace s old new := by
  obtain ⟨o, os, rfl⟩ := List.exists_cons_of_ne_nil h
  have hp : (o :: os).isPrefixOf (o :: (os ++ s)) = true :=
    List.isPrefixOf_iff_prefix.2 (List.prefix_append _ s)
  rw [replace, if_neg h, replace, if_neg h, List.cons_append]
  simp only [replaceScan, hp, if_true, List.length_cons, Nat.add_sub_cancel,
    replaceScan_skip (o :: os) new os.length, List.drop_left]

/-- A code point where no occurrence starts is copied. -/
theorem replace_cons (h : old ≠ []) {c : Char} {s : List Char}
    (hc : old.isPrefixOf (c :: s) = false) :
    replace (c :: s) old new = c :: replace s old new := by
  simp only [replace, if_neg h, replaceScan, hc]; rfl

/-- A text with no code point `old` starts with passes through unchanged. -/
theorem replace_append_of_not_mem (h : old ≠ []) {s : List Char}
    (hs : ∀ c ∈ s, old.head? ≠ some c) (rest : List Char) :
    replace (s ++ rest) old new = s ++ replace rest old new := by
  induction s with
  | nil => rfl
  | cons c s ih =>
    obtain ⟨o, os, rfl⟩ := List.exists_cons_of_ne_nil h
    have hc : (o :: os).isPrefixOf (c :: (s ++ rest)) = false := by
      rw [List.isPrefixOf_cons₂, Bool.and_eq_false_iff]
      exact .inl (beq_eq_false_iff_ne.2 fun he => hs c (List.mem_cons_self c s) (he ▸ rfl))
    rw [List.cons_append, replace_cons h hc,
      ih fun c' hc' => hs c' (List.mem_cons_of_mem c hc'), List.cons_append]

/-- A text lacking one of `old`'s code points holds no occurrence of it, and passes through. -/
theorem replace_of_not_mem (h : old ≠ []) {x : Char} (hx : x ∈ old) :
    ∀ {s : List Char}, x ∉ s → replace s old new = s
  | [], _ => replace_nil_left h
  | c :: s, hs => by
    have hc : old.isPrefixOf (c :: s) = false :=
      Bool.eq_false_iff.2 fun hp => hs ((List.isPrefixOf_iff_prefix.1 hp).subset hx)
    rw [replace_cons h hc, replace_of_not_mem h hx fun hm => hs (List.mem_cons_of_mem c hm)]

end Steps

/-- Replacing one code point by nothing deletes it. -/
theorem replace_single_nil (c : Char) : ∀ s, replace s [c] [] = s.filter (· != c)
  | [] => rfl
  | x :: s => by
    by_cases hx : x = c
    · have hr := @replace_append_of_ne_nil [c] [] (List.cons_ne_nil c []) s
      rw [List.singleton_append, List.nil_append, replace_single_nil c s] at hr
      rw [hx, hr, List.filter_cons_of_neg (by simp)]
    · have hp : [c].isPrefixOf (x :: s) = false := by
        rw [List.isPrefixOf_cons₂, beq_false_of_ne (Ne.symm hx), Bool.false_and]
      rw [replace_cons (List.cons_ne_nil _ _) hp, replace_single_nil c s,
        List.filter_cons_of_pos (by simpa using hx)]

/-- `s.strip(chars)`, the set of `chars` given by `p`: its code points go from both ends. -/
def stripBy (p : Char → Bool) (s : List Char) : List Char :=
  ((s.dropWhile p).reverse.dropWhile p).reverse

/-- `sub in s`: `sub` occurs in `s` as a run of code points. -/
def contains (s sub : List Char) : Bool := s.tails.any sub.isPrefixOf

theorem stripBy_of_forall {p : Char → Bool} {s : List Char} (h : ∀ c ∈ s, p c = false) :
    stripBy p s = s := by
  have hd : ∀ l : List Char, (∀ c ∈ l, p c = false) → l.dropWhile p = l := fun l hl => by
    cases l with
    | nil => rfl
    | cons c l => rw [List.dropWhile_cons, if_neg (by simp [hl c (List.mem_cons_self c l)])]
  rw [stripBy, hd s h, hd s.reverse (fun c hc => h c (List.mem_reverse.1 hc)), List.reverse_reverse]

/-- What stands before a separator `c` that it does not contain is read back unchanged. -/
theorem eq_of_append_cons_eq {c : Char} : ∀ {a b x y : List Char}, c ∉ a → c ∉ b →
    a ++ c :: x = b ++ c :: y → a = b
  | [], [], _, _, _, _, _ => rfl
  | [], _ :: _, _, _, _, hb, h => absurd (List.cons.inj h).1 fun he => hb (he ▸ List.mem_cons_self _ _)
  | _ :: _, [], _, _, ha, _, h =>
    absurd (List.cons.inj h).1.symm fun he => ha (he ▸ List.mem_cons_self _ _)
  | _ :: _, _ :: _, _, _, ha, hb, h => by
    simp only [List.cons_append, List.cons.injEq] at h
    obtain ⟨rfl, h⟩ := h
    rw [eq_of_append_cons_eq (fun h' => ha (List.mem_cons_of_mem _ h'))
      (fun h' => hb (List.mem_cons_of_mem _ h')) h]

end PyStr

end RcsMessaging
