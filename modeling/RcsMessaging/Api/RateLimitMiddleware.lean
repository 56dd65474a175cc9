import Mathlib.Data.List.Nodup
import Mathlib.Data.List.Perm.Subperm

/-!
# `Api.RateLimitMiddleware` — the sliding-window limiter over every interleaving of calls

`RateLimitMiddleware._check_rate_limit` keeps, under one Redis key, a sorted set of the requests
it let through, scored by their `time.time()`. A call removes the members older than the window
(`ZREMRANGEBYSCORE`), counts what is left (`ZCARD`), and either refuses (`ZRANGE` for the oldest
score, to tell when the window frees) or adds its own member `f"{now}:{id(key)}"` (`ZADD`) and
sets the key's expiry (`EXPIRE`). Each command is awaited, so the calls of one process and of
other processes interleave between any two of them.

Here every call is its own small state machine (`Stage`), the shared set is a `ZSet`, and a
schedule is any list of `Event`s: a call begins, a call's next command runs, or that command
raises and the call fails open.

## Contents
- The sorted set and its four commands, with membership lemmas.
- `Call.advance` (one command of one call), `World.step`, `World.run`.
- `checkRateLimit`, a call run with no other command in between, and `run_seqEvents`: a schedule
  that runs the calls one after the other is `runSequential`.
- **`sequential_calls_within_limit`**: calls one after the other, every Redis command answering,
  with clock readings that do not go back and distinct request ids, let at most `limit` calls
  through in any window. A command that raises makes its call fail open and let the request
  through, so the bound needs the answers.
- **`interleaved_calls_exceed_limit`**: two interleaved calls both pass a limit of one, and
  three calls one after the other with the same request id all pass a limit of two.
-/

namespace RcsMessaging

namespace RateLimitMiddleware

/-- The middleware's settings: `default_limit`, and `window` in seconds. -/
structure Config where
  defaultLimit : Nat := 100
  window : Nat := 60
  deriving DecidableEq, Repr

/-- `_get_tenant_limit(tenant_id)`: `default_limit`, for every tenant. -/
def getTenantLimit (cfg : Config) : Nat := cfg.defaultLimit

/-- A member of the sorted set, `f"{now}:{id(key)}"`: the call's clock reading and the address of
its key string. -/
structure RequestId where
  now : Int
  keyId : Nat
  deriving DecidableEq, Repr

/-- The sorted set under one rate-limit key: each member once, with its score. -/
structure ZSet where
  entries : List (RequestId × Int)
  nodup : (entries.map (·.1)).Nodup

namespace ZSet

/-- The key before any call: no member. -/
def empty : ZSet := ⟨[], List.nodup_nil⟩

/-- `ZREMRANGEBYSCORE key -inf max`: every member scored at most `max` goes. -/
def zremrangebyscore (z : ZSet) (max : Int) : ZSet :=
  ⟨z.entries.filter (max < ·.2), List.Nodup.sublist ((List.filter_sublist _).map _) z.nodup⟩

/-- `ZCARD key`. -/
def zcard (z : ZSet) : Nat := z.entries.length

theorem zadd_nodup (z : ZSet) (m : RequestId) (score : Int) :
    ((z.entries.filter (·.1 != m) ++ [(m, score)]).map (·.1)).Nodup := by
  rw [List.map_append, List.nodup_append]
  refine ⟨List.Nodup.sublist ((List.filter_sublist _).map _) z.nodup, List.nodup_singleton _, ?_⟩
  intro a ha hm
  obtain ⟨e, he, rfl⟩ := List.mem_map.1 ha
  rw [List.map_singleton, List.mem_singleton] at hm
  simp [(List.mem_filter.1 he).2] at hm
  exact absurd hm (by simpa using (List.mem_filter.1 he).2)

/-- `ZADD key {member: score}`: a new member is added; a member already there gets the score. -/
def zadd (z : ZSet) (m : RequestId) (score : Int) : ZSet :=
  ⟨z.entries.filter (·.1 != m) ++ [(m, score)], zadd_nodup z m score⟩

/-- The score `ZRANGE key 0 0 WITHSCORES` returns: the lowest, if any member is left. -/
def lowestScore (z : ZSet) : Option Int := (z.entries.map (·.2)).min?

theorem mem_zremrangebyscore {z : ZSet} {max : Int} {e : RequestId × Int} :
    e ∈ (z.zremrangebyscore max).entries ↔ e ∈ z.entries ∧ max < e.2 := by
  simp [zremrangebyscore]

theorem mem_zadd {z : ZSet} {m : RequestId} {score : Int} {e : RequestId × Int} :
    e ∈ (z.zadd m score).entries ↔ (e ∈ z.entries ∧ e.1 ≠ m) ∨ e = (m, score) := by
  simp [zadd]

end ZSet

/-- Where one `_check_rate_limit` call is: before the Redis command it awaits next, or returned. -/
inductive Stage
  /-- Before `zremrangebyscore(key, "-inf", window_start)`. -/
  | trim
  /-- Before `zcard(key)`. -/
  | count
  /-- `count >= limit`: before `zrange(key, 0, 0, withscores=True)`. -/
  | oldest
  /-- Before `zadd(key, {request_id: now})`, with the count read. -/
  | add (count : Nat)
  /-- Before `expire(key, window * 2)`, with the count read. -/
  | expire (count : Nat)
  /-- Returned `(allowed, remaining, reset_time)`. -/
  | done (allowed : Bool) (remaining : Nat) (resetTime : Int)
  deriving DecidableEq, Repr

/-- Whether the call returned `allowed = True`. -/
def Stage.allowed : Stage → Bool
  | .done a _ _ => a
  | _ => false

/-- One call: `now = time.time()` and `id(key)`, read before its first Redis command, and where
it is. -/
structure Call where
  now : Int
  keyId : Nat
  stage : Stage
  deriving DecidableEq, Repr

/-- `request_id = f"{now}:{id(key)}"`. -/
def Call.requestId (c : Call) : RequestId := ⟨c.now, c.keyId⟩

/-- The call's next Redis command: the set it leaves and the call's next stage. The expiry is
not modelled, so `EXPIRE` leaves the set as it is. -/
def Call.advance (cfg : Config) (z : ZSet) (c : Call) : ZSet × Stage :=
  match c.stage with
  | .trim => (z.zremrangebyscore (c.now - cfg.window), .count)
  | .count => (z, if z.zcard ≥ getTenantLimit cfg then .oldest else .add z.zcard)
  | .oldest =>
    (z, .done false 0
      (match z.lowestScore with
        | some s => s + cfg.window
        | none => c.now + cfg.window))
  | .add n => (z.zadd c.requestId c.now, .expire n)
  | .expire n => (z, .done true (getTenantLimit cfg - n - 1) (c.now + cfg.window))
  | .done a r t => (z, .done a r t)

/-- The shared set and every call so far. -/
structure World where
  zset : ZSet
  calls : List Call

/-- No call yet, on an empty key. -/
def World.init : World := ⟨ZSet.empty, []⟩

/-- One step of a schedule. -/
inductive Event
  /-- A call reads `time.time()` as `now`, with `id(key) = keyId`. -/
  | begin (now : Int) (keyId : Nat)
  /-- Call `i` runs its next Redis command. -/
  | advance (i : Nat)
  /-- Call `i`'s next Redis command raises; the `except` fails open at `time.time() = now`. -/
  | fail (i : Nat) (now : Int)

namespace World

/-- One event. -/
def step (cfg : Config) (w : World) : Event → World
  | .begin now k => { w with calls := w.calls ++ [⟨now, k, .trim⟩] }
  | .advance i =>
    match w.calls[i]? with
    | some c =>
      ⟨(c.advance cfg w.zset).1, w.calls.set i { c with stage := (c.advance cfg w.zset).2 }⟩
    | none => w
  | .fail i now =>
    match w.calls[i]? with
    | some ⟨_, _, .done _ _ _⟩ | none => w
    | some c =>
      { w with
        calls := w.calls.set i { c with stage := .done true cfg.defaultLimit (now + cfg.window) } }

/-- A schedule. -/
def run (cfg : Config) (w : World) (es : List Event) : World := es.foldl (step cfg) w

end World

/-- How many of `calls` returned `allowed = True` with their timestamp in `(t - window, t]`. -/
def admittedIn (calls : List Call) (window : Nat) (t : Int) : Nat :=
  (calls.filter fun c => c.stage.allowed && (t - window < c.now && c.now ≤ t)).length

/-! ## A call with no other command in between -/

/-- `_check_rate_limit` when no other call's command runs between its own: the answer and the
set it leaves. -/
def checkRateLimit (cfg : Config) (z : ZSet) (now : Int) (keyId : Nat) : Stage × ZSet :=
  let z₁ := z.zremrangebyscore (now - cfg.window)
  if z₁.zcard ≥ getTenantLimit cfg then
    (.done false 0
      (match z₁.lowestScore with
        | some s => s + cfg.window
        | none => now + cfg.window), z₁)
  else (.done true (getTenantLimit cfg - z₁.zcard - 1) (now + cfg.window), z₁.zadd ⟨now, keyId⟩ now)

/-- The calls of `reqs` one after the other: each call as it returned, and the set they leave. -/
def runSequential (cfg : Config) : ZSet → List (Int × Nat) → List Call × ZSet
  | z, [] => ([], z)
  | z, (now, k) :: rs =>
    let r := checkRateLimit cfg z now k
    (⟨now, k, r.1⟩ :: (runSequential cfg r.2 rs).1, (runSequential cfg r.2 rs).2)

/-- The schedule that runs the calls of `reqs` one after the other, from call number `i` on:
each begins, then runs its four commands, every one of which answers (a refused call has returned
after three, and its fourth step changes nothing). It has no `fail` event. -/
def seqEvents : Nat → List (Int × Nat) → List Event
  | _, [] => []
  | i, (now, k) :: rs =>
    [.begin now k, .advance i, .advance i, .advance i, .advance i] ++ seqEvents (i + 1) rs

section Sequential

variable (cfg : Config)

theorem step_advance_last (z : ZSet) (cs : List Call) (c : Call) :
    World.step cfg ⟨z, cs ++ [c]⟩ (.advance cs.length) =
      ⟨(c.advance cfg z).1, cs ++ [{ c with stage := (c.advance cfg z).2 }]⟩ := by
  simp only [World.step, List.getElem?_concat_length, List.set_append_right _ _ (le_refl _),
    Nat.sub_self]
  rfl

/-- A call that begins and runs its four commands alone is `checkRateLimit`. -/
theorem run_alone (z : ZSet) (cs : List Call) (now : Int) (k : Nat) :
    World.run cfg ⟨z, cs⟩ [.begin now k, .advance cs.length, .advance cs.length,
      .advance cs.length, .advance cs.length] =
      ⟨(checkRateLimit cfg z now k).2, cs ++ [⟨now, k, (checkRateLimit cfg z now k).1⟩]⟩ := by
  simp only [World.run, List.foldl]
  rw [show World.step cfg ⟨z, cs⟩ (.begin now k) = ⟨z, cs ++ [⟨now, k, .trim⟩]⟩ from rfl]
  by_cases h : (z.zremrangebyscore (now - cfg.window)).zcard ≥ getTenantLimit cfg
  · simp only [step_advance_last, Call.advance, checkRateLimit, if_pos h]
  · simp only [step_advance_last, Call.advance, checkRateLimit, if_neg h]; rfl

theorem run_seqEvents :
    ∀ (reqs : List (Int × Nat)) (z : ZSet) (cs : List Call),
      World.run cfg ⟨z, cs⟩ (seqEvents cs.length reqs) =
        ⟨(runSequential cfg z reqs).2, cs ++ (runSequential cfg z reqs).1⟩
  | [], _, cs => by rw [seqEvents, runSequential, List.append_nil]; rfl
  | (now, k) :: rs, z, cs => by
    have h := run_alone cfg z cs now k
    rw [World.run] at h
    rw [seqEvents, World.run, List.foldl_append, h, ← World.run,
      show cs.length + 1 = (cs ++ [(⟨now, k, (checkRateLimit cfg z now k).1⟩ : Call)]).length by
        simp,
      run_seqEvents rs, runSequential, List.append_assoc, List.singleton_append]

/-- What a call run alone does: refuse and only trim, or pass and add its member. -/
theorem checkRateLimit_cases (z : ZSet) (now : Int) (k : Nat) :
    (getTenantLimit cfg ≤ (z.zremrangebyscore (now - cfg.window)).zcard ∧
        (checkRateLimit cfg z now k).1.allowed = false ∧
        (checkRateLimit cfg z now k).2 = z.zremrangebyscore (now - cfg.window)) ∨
      ((z.zremrangebyscore (now - cfg.window)).zcard < getTenantLimit cfg ∧
        (checkRateLimit cfg z now k).1.allowed = true ∧
        (checkRateLimit cfg z now k).2 = (z.zremrangebyscore (now - cfg.window)).zadd ⟨now, k⟩ now) := by
  unfold checkRateLimit
  dsimp only
  split
  · exact .inl ⟨‹_›, rfl, rfl⟩
  · exact .inr ⟨Nat.lt_of_not_ge ‹_›, rfl, rfl⟩

end Sequential

/-! ## One after the other: the window bound -/

section Bound

variable {cfg : Config}

/-- Every call of `calls` let through after time `T` still has its member in the set, scored with
its time. -/
def Tracked (calls : List Call) (z : ZSet) (T : Int) : Prop :=
  ∀ c ∈ calls, c.stage.allowed = true → T < c.now → (c.requestId, c.now) ∈ z.entries

theorem Tracked.mono {calls : List Call} {z : ZSet} {T T' : Int} (h : Tracked calls z T)
    (hT : T ≤ T') : Tracked calls z T' :=
  fun c hc ha hlt => h c hc ha (lt_of_le_of_lt hT hlt)

/-- A call let through read a count below the limit. -/
theorem zcard_lt_of_allowed {z : ZSet} {now : Int} {k : Nat}
    (h : (checkRateLimit cfg z now k).1.allowed = true) :
    (z.zremrangebyscore (now - cfg.window)).zcard < getTenantLimit cfg := by
  rcases checkRateLimit_cases cfg z now k with ⟨-, hf, -⟩ | ⟨hlt, -, -⟩
  · rw [hf] at h; cases h
  · exact hlt

/-- A call at `now` keeps every call before it tracked from its window on, and tracks itself if
it passes, as long as its request id is new. -/
theorem tracked_check {pre : List Call} {z : ZSet} {now : Int} {k : Nat}
    (h : Tracked pre z (now - cfg.window)) (hk : ∀ c ∈ pre, c.requestId ≠ ⟨now, k⟩) :
    Tracked (pre ++ [⟨now, k, (checkRateLimit cfg z now k).1⟩]) (checkRateLimit cfg z now k).2
      (now - cfg.window) := by
  intro c hc ha hlt
  rcases List.mem_append.1 hc with hc | hc
  · have hz₁ := ZSet.mem_zremrangebyscore.2 ⟨h c hc ha hlt, hlt⟩
    rcases checkRateLimit_cases cfg z now k with ⟨-, -, hz⟩ | ⟨-, -, hz⟩ <;> rw [hz]
    · exact hz₁
    · exact ZSet.mem_zadd.2 (.inl ⟨hz₁, hk c hc⟩)
  · obtain rfl := List.mem_singleton.1 hc
    rcases checkRateLimit_cases cfg z now k with ⟨-, hf, -⟩ | ⟨-, -, hz⟩
    · simp [hf] at ha
    · rw [hz]; exact ZSet.mem_zadd.2 (.inr rfl)

/-- The calls before a call at `now ≤ t` that passed in the window ending at `t` are all in the
set it counts. -/
theorem admittedIn_le_zcard {pre : List Call} {z : ZSet} {now t : Int}
    (h : Tracked pre z (now - cfg.window)) (hids : (pre.map Call.requestId).Nodup) (hnow : now ≤ t) :
    admittedIn pre cfg.window t ≤ (z.zremrangebyscore (now - cfg.window)).zcard := by
  let P := fun c : Call => c.stage.allowed && (t - cfg.window < c.now && c.now ≤ t)
  have hnd : ((pre.filter P).map fun c => (c.requestId, c.now)).Nodup := by
    refine List.Nodup.of_map Prod.fst ?_
    rw [List.map_map]
    exact List.Nodup.sublist ((List.filter_sublist _).map _) hids
  have hsub : ((pre.filter P).map fun c => (c.requestId, c.now)) ⊆
      (z.zremrangebyscore (now - cfg.window)).entries := by
    intro e he
    obtain ⟨c, hc, rfl⟩ := List.mem_map.1 he
    obtain ⟨hc, hp⟩ := List.mem_filter.1 hc
    simp only [P, Bool.and_eq_true, decide_eq_true_eq] at hp
    have hlt : now - cfg.window < c.now := by omega
    exact ZSet.mem_zremrangebyscore.2 ⟨h c hc hp.1 hlt, hlt⟩
  have hlen := (List.subperm_of_subset hnd hsub).length_le
  rw [List.length_map] at hlen
  exact hlen

/-- Calls one after the other, each at a time no earlier than the one before and with a request
id not used before, keep every window within the limit. -/
theorem runSequential_within_limit : ∀ (reqs : List (Int × Nat)) (pre : List Call) (z : ZSet),
    (∀ r ∈ reqs, Tracked pre z (r.1 - cfg.window)) → reqs.Pairwise (·.1 ≤ ·.1) →
    (pre.map Call.requestId ++ reqs.map fun r => (⟨r.1, r.2⟩ : RequestId)).Nodup →
    (∀ t, admittedIn pre cfg.window t ≤ getTenantLimit cfg) →
    ∀ t, admittedIn (pre ++ (runSequential cfg z reqs).1) cfg.window t ≤ getTenantLimit cfg
  | [], pre, _, _, _, _, hb => by simpa [runSequential] using hb
  | (now, k) :: rs, pre, z, hinv, hsorted, hids, hb => by
    obtain ⟨hle, hsorted⟩ := List.pairwise_cons.1 hsorted
    have hids' : (pre.map Call.requestId ++ [(⟨now, k⟩ : RequestId)]).Nodup :=
      List.Nodup.sublist (by simp) hids
    have hk : ∀ c ∈ pre, c.requestId ≠ ⟨now, k⟩ := fun c hc he =>
      (List.nodup_append.1 hids').2.2 (List.mem_map_of_mem _ hc) (List.mem_singleton.2 he)
    have h₀ : Tracked pre z (now - cfg.window) := hinv _ (List.mem_cons_self _ _)
    have htr := tracked_check h₀ hk
    intro t
    rw [runSequential, ← List.singleton_append, ← List.append_assoc]
    refine runSequential_within_limit rs _ _ (fun r hr => htr.mono ?_) hsorted ?_ (fun t => ?_) t
    · have := hle r hr; omega
    · simpa [Call.requestId] using hids
    · rw [admittedIn, List.filter_append, List.length_append]
      by_cases hin : (checkRateLimit cfg z now k).1.allowed = true ∧ t - cfg.window < now ∧ now ≤ t
      · have := admittedIn_le_zcard h₀ (List.nodup_append.1 hids').1 hin.2.2
        have := zcard_lt_of_allowed hin.1
        rw [List.filter_singleton]
        simp only [hin, decide_True, Bool.and_self, cond_true, List.length_singleton]
        rw [admittedIn] at *
        omega
      · rw [List.filter_singleton]
        have hf : ((checkRateLimit cfg z now k).1.allowed &&
            (decide (t - cfg.window < now) && decide (now ≤ t))) = false := by
          simpa [not_and_or] using hin
        simp only [hf, cond_false, List.length_nil, Nat.add_zero]
        exact hb t

end Bound

/-- **Calls one after the other stay within the limit, while Redis answers.** A schedule that runs
the calls of `reqs` one after the other, every Redis command answering, each call reading a clock
no earlier than the one before and with a request id not used before, lets at most `limit` calls
through in every window `(t - window, t]`. -/
theorem sequential_calls_within_limit (cfg : Config) (reqs : List (Int × Nat))
    (hsorted : reqs.Pairwise (·.1 ≤ ·.1)) (hdistinct : reqs.Nodup) (t : Int) :
    admittedIn (World.init.run cfg (seqEvents 0 reqs)).calls cfg.window t ≤ getTenantLimit cfg := by
  have h := run_seqEvents cfg reqs ZSet.empty []
  rw [List.length_nil] at h
  rw [World.init, h, List.nil_append, ← List.nil_append (runSequential cfg ZSet.empty reqs).1]
  refine runSequential_within_limit reqs [] _ (fun _ _ c hc => absurd hc (List.not_mem_nil c))
    hsorted ?_ (fun _ => Nat.zero_le _) t
  rw [List.map_nil, List.nil_append]
  exact hdistinct.map_on fun a _ b _ he => Prod.ext (congrArg RequestId.now he)
    (congrArg RequestId.keyId he)

theorem sequential_calls_within_limit_two :
    let cfg : Config := { defaultLimit := 1 }
    let reqs : List (Int × Nat) := [(100, 7), (101, 8)]
    reqs.Pairwise (·.1 ≤ ·.1) ∧ reqs.Nodup ∧
      admittedIn (World.init.run cfg (seqEvents 0 reqs)).calls cfg.window 101 ≤ getTenantLimit cfg := by
  intro cfg reqs
  exact ⟨by decide, by decide, sequential_calls_within_limit cfg reqs (by decide) (by decide) 101⟩

/-- **The limit is not kept.** With a limit of one, two calls at `100` and `101` whose commands
interleave both read a count of zero and both pass: two admissions in the window `(41, 101]`.
With a limit of two, three calls one after the other at the same `time.time()` and the same
`id(key)` write one member three times, so each reads a count below two and all three pass. -/
theorem interleaved_calls_exceed_limit :
    let w : World := World.init.run { defaultLimit := 1 }
      [.begin 100 7, .begin 101 8, .advance 0, .advance 1, .advance 0, .advance 1, .advance 0,
        .advance 1, .advance 0, .advance 1]
    let w' : World :=
      World.init.run { defaultLimit := 2 } (seqEvents 0 [(100, 7), (100, 7), (100, 7)])
    w.calls.map (·.stage) = [.done true 0 160, .done true 0 161] ∧ admittedIn w.calls 60 101 = 2 ∧
      w'.calls.map (·.stage) = [.done true 1 160, .done true 0 160, .done true 0 160] ∧
      admittedIn w'.calls 60 100 = 3 := by
  decide

end RateLimitMiddleware

end RcsMessaging
