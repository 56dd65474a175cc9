import RcsMessaging.Services.Handler

/-!
# `Services.Hoare` — triples that tell a return from a raise

A `Triple` bounds a job's end state whatever the outcome, which suits facts that every path keeps.
Some facts hold only on one side. `trigger_fallback()` can raise after it has switched the message
to a PENDING SMS message. No path saves that state: every `except` that catches it calls
`mark_failed` first, and every other path rolls back. `Hoare P x Q E` keeps the two outcomes apart,
with `Q a` after a return of `a` and `E e` after a raise of `e`.
-/

namespace RcsMessaging

/-- From a context satisfying `P`, `x` returns `a` in a context satisfying `Q a`, or raises `e` in
one satisfying `E e`. -/
def Hoare {α : Type} (P : Ctx → Prop) (x : Handler α) (Q : α → Ctx → Prop)
    (E : Exn → Ctx → Prop) : Prop :=
  ∀ c, P c → match x c with
    | .ok a c' => Q a c'
    | .error e c' => E e c'

section Hoare

variable {α β : Type} {P P' R : Ctx → Prop} {Q Q' : α → Ctx → Prop} {E E' F : Exn → Ctx → Prop}

theorem Hoare.triple {x : Handler α} (h : Hoare P x (fun _ => R) (fun _ => R)) : Triple P x R := by
  intro c hc
  have := h c hc
  cases hx : x c <;> rw [hx] at this <;> exact this

theorem Hoare.conseq {x : Handler α} (h : Hoare P x Q E) (hP : ∀ c, P' c → P c)
    (hQ : ∀ a c, Q a c → Q' a c) (hE : ∀ e c, E e c → E' e c) : Hoare P' x Q' E' := by
  intro c hc
  have := h c (hP c hc)
  cases hx : x c with
  | ok a s => rw [hx] at this; exact hQ a s this
  | error e s => rw [hx] at this; exact hE e s this

theorem Hoare.pre {x : Handler α} (h : Hoare P x Q E) (hP : ∀ c, P' c → P c) : Hoare P' x Q E :=
  h.conseq hP (fun _ _ h => h) fun _ _ h => h

theorem Hoare.post {x : Handler α} (h : Hoare P x Q E) (hQ : ∀ a c, Q a c → Q' a c) :
    Hoare P x Q' E :=
  h.conseq (fun _ h => h) hQ fun _ _ h => h

theorem Hoare.err {x : Handler α} (h : Hoare P x Q E) (hE : ∀ e c, E e c → E' e c) :
    Hoare P x Q E' :=
  h.conseq (fun _ h => h) (fun _ _ h => h) hE

/-- A fact that does not depend on the context may be assumed. -/
theorem Hoare.of_const {φ : Prop} {x : Handler α} (h : φ → Hoare P x Q E) :
    Hoare (fun c => P c ∧ φ) x Q E :=
  fun c ⟨hc, hφ⟩ => h hφ c hc

theorem hoare_pure (a : α) : Hoare (Q a) (pure a) Q E := fun _ h => h

theorem Hoare.bind {Q : β → Ctx → Prop} {S : α → Ctx → Prop} {x : Handler α}
    {f : α → Handler β} (hx : Hoare P x S E) (hf : ∀ a, Hoare (S a) (f a) Q E) :
    Hoare P (x >>= f) Q E := by
  intro c hc
  have := hx c hc
  rw [bind_apply]
  cases hxc : x c with
  | ok a s => rw [hxc] at this; exact hf a s this
  | error e s => rw [hxc] at this; exact this

/-- An `except` clause: a raise of `x` in `F e` is handled by `h e` from there. -/
theorem Hoare.tryCatch {x : Handler α} {h : Exn → Handler α} (hx : Hoare P x Q F)
    (hh : ∀ e, Hoare (F e) (h e) Q E) : Hoare P (tryCatch x h) Q E := by
  intro c hc
  have := hx c hc
  rw [tryCatch_apply]
  cases hxc : x c with
  | ok a s => rw [hxc] at this; exact this
  | error e s => rw [hxc] at this; exact hh e s this

theorem Hoare.ite {p : Prop} [Decidable p] {x y : Handler α} (hx : p → Hoare P x Q E)
    (hy : ¬ p → Hoare P y Q E) : Hoare P (if p then x else y) Q E := by
  split
  · exact hx ‹_›
  · exact hy ‹_›

/-- Reading the message: the continuation may use that the value read is the context's. -/
theorem Hoare.getMsg_bind {Q : β → Ctx → Prop} {f : Message → Handler β}
    (hf : ∀ m, Hoare (fun c => P c ∧ c.msg = m) (f m) Q E) : Hoare P (getMsg >>= f) Q E :=
  fun c hc => hf c.msg c ⟨hc, rfl⟩

/-- Reading the message when the continuation does not depend on it. -/
theorem Hoare.getMsg_then {Q : β → Ctx → Prop} {f : Message → Handler β}
    (hf : ∀ m, Hoare P (f m) Q E) : Hoare P (getMsg >>= f) Q E :=
  fun c hc => hf c.msg c hc

/-- A method call: each outcome of the method on the context's message. -/
theorem Hoare.onMsg {Q : Unit → Ctx → Prop} {op : EStateM Exn Message Unit}
    (h : ∀ c, P c → match op c.msg with
      | .ok _ m => Q () { c with msg := m }
      | .error e m => E e { c with msg := m }) : Hoare P (onMsg op) Q E := by
  intro c hc
  have := h c hc
  rw [onMsg_apply]
  cases hop : op c.msg <;> rw [hop] at this <;> exact this

/-- `async with uow:`: the body's return goes through the commit, its raise through the
rollback, and the raise is passed on. -/
theorem Hoare.transaction {body : Handler Unit} {Q Q' : Unit → Ctx → Prop}
    (hb : Hoare P body Q F) (hc : Hoare (Q ()) commit Q' E) (hr : ∀ e c, F e c → E e c.rollback) :
    Hoare P (transaction body) Q' E := by
  intro c h
  have := hb c h
  rw [transaction_apply]
  cases hbc : body c with
  | ok _ s => rw [hbc] at this; exact hc s this
  | error e s => rw [hbc] at this; exact hr e s this

end Hoare

end RcsMessaging
