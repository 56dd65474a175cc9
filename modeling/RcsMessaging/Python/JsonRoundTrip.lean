import RcsMessaging.Python.Json

/-!
# `Python.JsonRoundTrip` — `json.loads(json.dumps(v)) == v`

`json.dumps` and `json.loads` invert each other on well-formed values (`decode_render`). A
well-formed value has:

* distinct keys in every `dict`;
* `int`s within the digit limit;
* strings of code points below `0x110000` with no high surrogate right before a low one.

That last pair is the only text the scanner does not give back unchanged. `json.dumps` writes both
code points as `\uXXXX` escapes, and `scanstring_unicode` joins them into one.

The proof follows the scanner. One lemma reads back the text `escapeChar` wrote for one code point
(`scanString_escapeChar`), and induction over the string reads back a whole string
(`scanString_escaped`). Numbers are read back digit by digit (`matchNumber_intRepr`). Values are
read back by induction on the fuel: `ScansValues`, `ScansItems` and `ScansFields` say what
`scanOnce`, `parseArray` and `parseObject` do with a given fuel, one step lemma each carries them
to one more unit of fuel, and `scans_render` holds them for every fuel. `json.dumps` writes printable
ASCII only, so the bytes of its text are read back too (`loadsBytes_render`).
-/

namespace RcsMessaging

namespace Json

open Codecs

/-! ## Well-formed values -/

/-- A high surrogate right before a low one. -/
def joinsNext (c : Nat) (rest : List Nat) : Bool :=
  isHighSurrogate c && (rest.head?.map isLowSurrogate).getD false

/-- Text that `json.loads` gives back unchanged after `json.dumps`. -/
def strWf : List Nat → Bool
  | [] => true
  | c :: rest => decide (c < 0x110000) && !joinsNext c rest && strWf rest

mutual
/-- A value `json.loads` gives back unchanged after `json.dumps`. -/
def wf : PyJson → Bool
  | .int n => (decimal n.natAbs).length ≤ maxStrDigits
  | .str s => strWf s
  | .list vs => itemsWf vs
  | .dict fs => fieldsWf fs
  | _ => true
/-- `wf` of every item. -/
def itemsWf : List PyJson → Bool
  | [] => true
  | v :: vs => wf v && itemsWf vs
/-- `wf` of every field, with well-formed keys that are pairwise distinct. -/
def fieldsWf : List (List Nat × PyJson) → Bool
  | [] => true
  | (k, v) :: fs => strWf k && wf v && fs.all (fun f => f.1 ≠ k) && fieldsWf fs
end

/-- Text below the surrogates is well formed. -/
theorem strWf_of_lt : ∀ {s : List Nat}, (∀ c ∈ s, c < 0xD800) → strWf s
  | [], _ => rfl
  | c :: s, h => by
    have hc := h c (.head _)
    have hj : joinsNext c s = false := by simp [joinsNext, isHighSurrogate]; omega
    simp only [strWf, hj, Bool.not_false, Bool.and_true, Bool.and_eq_true, decide_eq_true_eq]
    exact ⟨by omega, strWf_of_lt fun d hd => h d (.tail _ hd)⟩

theorem strWf_latin1 (b : List UInt8) : strWf (latin1 b) :=
  strWf_of_lt fun c hc => by
    obtain ⟨x, -, rfl⟩ := List.mem_map.1 hc
    exact Nat.lt_trans x.val.isLt (by decide)

/-- A field with a new key keeps a `dict` well formed. -/
theorem fieldsWf_append : ∀ {fs : List (List Nat × PyJson)} {k : List Nat} {v : PyJson},
    fieldsWf fs → strWf k → wf v → (∀ f ∈ fs, f.1 ≠ k) → fieldsWf (fs ++ [(k, v)])
  | [], _, _, _, hk, hv, _ => by simp [fieldsWf, hk, hv]
  | (k', v') :: fs, k, v, hfs, hk, hv, hn => by
    simp only [fieldsWf, Bool.and_eq_true, List.all_eq_true, decide_eq_true_eq] at hfs
    simp only [List.cons_append, fieldsWf, Bool.and_eq_true, List.all_eq_true, decide_eq_true_eq]
    refine ⟨⟨hfs.1.1, fun f hf => ?_⟩, fieldsWf_append hfs.2 hk hv fun f hf => hn f (.tail _ hf)⟩
    rcases List.mem_append.1 hf with hf | hf
    · exact hfs.1.2 f hf
    · exact List.mem_singleton.1 hf ▸ (hn _ (.head _)).symm

/-! ## Hex digits and `\uXXXX` -/

theorem hexValue_hexDigit {n : Nat} (h : n < 16) : hexValue (hexDigit n) = some n := by
  unfold hexDigit
  split
  · rw [hexValue, if_pos (by omega)]
    congr 1
    omega
  · rw [hexValue, if_neg (by omega), if_pos (by omega)]
    congr 1
    omega

theorem hex4_uEscape {c : Nat} (h : c < 0x10000) :
    hex4 (hexDigit (c / 0x1000 % 16)) (hexDigit (c / 0x100 % 16)) (hexDigit (c / 0x10 % 16))
      (hexDigit (c % 16)) = some c := by
  simp only [hex4, hexValue_hexDigit (Nat.mod_lt _ (by decide : 16 > 0)), Option.bind_eq_bind,
    Option.some_bind, Option.pure_def, Option.some.injEq]
  omega

/-! ## `scanString`, one step at a time -/

theorem isLowSurrogate_of_high {u : Nat} (h : isHighSurrogate u) : isLowSurrogate u = false := by
  simp only [isHighSurrogate, isLowSurrogate, Bool.and_eq_true, decide_eq_true_eq] at h ⊢
  simp only [Bool.and_eq_false_iff, decide_eq_false_iff_not]
  omega

theorem scanString_quote (p : Option Nat) (rest acc : List Nat) :
    scanString p (0x22 :: rest) acc = .ok ((flush p acc).reverse, rest) := rfl

theorem scanString_plain {c : Nat} (h1 : 0x20 ≤ c) (h2 : c ≠ 0x22) (h3 : c ≠ 0x5C)
    (p : Option Nat) (tl acc : List Nat) :
    scanString p (c :: tl) acc = scanString none tl (c :: flush p acc) := by
  rw [scanString.eq_10 _ _ _ _ h2 h3, if_neg (by omega)]

theorem scanString_short {c d : Nat} (hc : simpleEscape c = some d) (hu : c ≠ 0x75)
    (p : Option Nat) (tl acc : List Nat) :
    scanString p (0x5C :: c :: tl) acc = scanString none tl (d :: flush p acc) := by
  rw [scanString.eq_9 _ _ _ _ (fun _ _ _ _ _ h => absurd h hu) hu, hc]

theorem uEscape_append (u : Nat) (tl : List Nat) :
    uEscape u ++ tl = 0x5C :: 0x75 :: hexDigit (u / 0x1000 % 16) :: hexDigit (u / 0x100 % 16) ::
      hexDigit (u / 0x10 % 16) :: hexDigit (u % 16) :: tl := rfl

/-- A `\uXXXX` escape of a code unit that is not joined to a pending high surrogate. -/
theorem scanString_uEscape {u : Nat} (hu : u < 0x10000) {p : Option Nat}
    (hp : ∀ h ∈ p, isLowSurrogate u = false) (x : Nat) (xs acc : List Nat) :
    scanString p (uEscape u ++ x :: xs) acc =
      if isHighSurrogate u ∧ 6 < xs.length + 1 then scanString (some u) (x :: xs) (flush p acc)
      else scanString none (x :: xs) (u :: flush p acc) := by
  rw [uEscape_append]
  cases p with
  | none => exact scanString.eq_7 _ _ _ _ _ _ _ _ (hex4_uEscape hu)
  | some h => rw [scanString.eq_6 _ _ _ _ _ _ _ _ _ (hex4_uEscape hu), if_neg (by simp [hp h rfl])]; rfl

/-- A low surrogate's `\uXXXX` escape joins a pending high surrogate. -/
theorem scanString_uEscape_join {h u : Nat} (hu : u < 0x10000) (hl : isLowSurrogate u)
    (x : Nat) (xs acc : List Nat) :
    scanString (some h) (uEscape u ++ x :: xs) acc =
      scanString none (x :: xs) (joinSurrogates h u :: acc) := by
  rw [uEscape_append, scanString.eq_6 _ _ _ _ _ _ _ _ _ (hex4_uEscape hu), if_pos hl]

/-- What `escapeChar` writes: the code point itself, a short escape, a surrogate pair, or one
`\uXXXX`. -/
theorem escapeChar_cases (c : Nat) :
    (0x20 ≤ c ∧ c ≤ 0x7E ∧ c ≠ 0x22 ∧ c ≠ 0x5C ∧ escapeChar c = [c]) ∨
    (c < 0x80 ∧ ∃ e, escapeChar c = [0x5C, e] ∧ simpleEscape e = some c ∧ e ≠ 0x75 ∧
      0x20 ≤ e ∧ e ≤ 0x7E) ∨
    (0x10000 ≤ c ∧ escapeChar c =
      uEscape (0xD800 + (c - 0x10000) / 0x400) ++ uEscape (0xDC00 + (c - 0x10000) % 0x400)) ∨
    (c < 0x10000 ∧ escapeChar c = uEscape c) := by
  by_cases h1 : 0x20 ≤ c ∧ c ≤ 0x7E ∧ c ≠ 0x22 ∧ c ≠ 0x5C
  · exact .inl ⟨h1.1, h1.2.1, h1.2.2.1, h1.2.2.2, if_pos h1⟩
  by_cases h2 : c = 0x22 ∨ c = 0x5C ∨ c = 0x08 ∨ c = 0x0C ∨ c = 0x0A ∨ c = 0x0D ∨ c = 0x09
  · refine .inr (.inl ⟨by omega, ?_⟩)
    rcases h2 with rfl | rfl | rfl | rfl | rfl | rfl | rfl <;>
      exact ⟨_, rfl, rfl, by decide, by decide, by decide⟩
  obtain ⟨n1, n2, n3, n4, n5, n6, n7⟩ :
      c ≠ 0x22 ∧ c ≠ 0x5C ∧ c ≠ 0x08 ∧ c ≠ 0x0C ∧ c ≠ 0x0A ∧ c ≠ 0x0D ∧ c ≠ 0x09 := by omega
  simp only [escapeChar, h1, n1, n2, n3, n4, n5, n6, n7, if_false]
  by_cases h3 : 0x10000 ≤ c
  · exact .inr (.inr (.inl ⟨h3, if_pos h3⟩))
  · exact .inr (.inr (.inr ⟨by omega, if_neg h3⟩))

/-- The scanner reads back the text `escapeChar` wrote for one code point. A high surrogate with
more than six code points after it is held, to be joined to a low surrogate after it. -/
theorem scanString_escapeChar {c : Nat} (hc : c < 0x110000) {p : Option Nat}
    (hp : ∀ h ∈ p, isLowSurrogate c = false) {tl : List Nat} (htl : tl ≠ []) (acc : List Nat) :
    scanString p (escapeChar c ++ tl) acc =
      if isHighSurrogate c ∧ 6 < tl.length then scanString (some c) tl (flush p acc)
      else scanString none tl (c :: flush p acc) := by
  obtain ⟨x, xs, rfl⟩ := List.exists_cons_of_ne_nil htl
  rcases escapeChar_cases c with
    ⟨h1, h2, h3, h4, he⟩ | ⟨h1, e, he, he', hu, -⟩ | ⟨h1, he⟩ | ⟨h1, he⟩
  · rw [he, if_neg (by simp [isHighSurrogate]; omega)]
    exact scanString_plain h1 h3 h4 p _ acc
  · rw [he, if_neg (by simp [isHighSurrogate]; omega)]
    exact scanString_short he' hu p _ acc
  · -- past `0xFFFF`: the high surrogate is held, then joined to the low one
    have hH : isHighSurrogate (0xD800 + (c - 0x10000) / 0x400) := by
      simp only [isHighSurrogate, Bool.and_eq_true, decide_eq_true_eq]; omega
    have hL : isLowSurrogate (0xDC00 + (c - 0x10000) % 0x400) := by
      simp only [isLowSurrogate, Bool.and_eq_true, decide_eq_true_eq]; omega
    have hj :
        joinSurrogates (0xD800 + (c - 0x10000) / 0x400) (0xDC00 + (c - 0x10000) % 0x400) = c := by
      unfold joinSurrogates; omega
    rw [he, if_neg (by simp [isHighSurrogate]; omega), List.append_assoc,
      uEscape_append (0xDC00 + _),
      scanString_uEscape (by omega) (fun _ _ => isLowSurrogate_of_high hH), if_pos ⟨hH, by simp⟩,
      ← uEscape_append, scanString_uEscape_join (by omega) hL, hj]
  · rw [he]
    exact scanString_uEscape h1 hp x xs acc

/-- The scanner reads back a well-formed string escaped by `escapeChar`, up to the closing quote.
A pending high surrogate stays alone when the string does not start with a low one. -/
theorem scanString_escaped : ∀ (s : List Nat) (p : Option Nat) (acc rest : List Nat), strWf s →
    (∀ h ∈ p, ∀ c ∈ s.head?, isLowSurrogate c = false) →
    scanString p (s.flatMap escapeChar ++ 0x22 :: rest) acc = .ok ((flush p acc).reverse ++ s, rest)
  | [], p, acc, rest, _, _ => by simpa using scanString_quote p rest acc
  | c :: s, p, acc, rest, hs, hp => by
    simp only [strWf, Bool.and_eq_true, decide_eq_true_eq, Bool.not_eq_true'] at hs
    obtain ⟨⟨hc, hj⟩, hs⟩ := hs
    rw [List.flatMap_cons, List.append_assoc,
      scanString_escapeChar hc (fun h hh => hp h hh c rfl) (by simp)]
    split
    · next hh =>
      -- the held high surrogate is not followed by a low one
      have hn : ∀ h ∈ some c, ∀ d ∈ s.head?, isLowSurrogate d = false := by
        rintro _ - d hd
        simpa [joinsNext, hh.1, Option.mem_def.mp hd] using hj
      rw [scanString_escaped s _ _ rest hs hn]
      simp [flush]
    · rw [scanString_escaped s _ _ rest hs (fun _ h => absurd h (Option.not_mem_none _))]
      simp [flush]

/-- A string's escaped text, read from after its opening quote. -/
theorem scanString_encoded {s : List Nat} (hs : strWf s) (rest : List Nat) :
    scanString none (s.flatMap escapeChar ++ 0x22 :: rest) [] = .ok (s, rest) :=
  scanString_escaped s none [] rest hs (fun _ h => absurd h (Option.not_mem_none _))

theorem encodeString_append (s rest : List Nat) :
    encodeString s ++ rest = 0x22 :: (s.flatMap escapeChar ++ 0x22 :: rest) := by
  simp [encodeString]

/-! ## Numbers -/

/-- What follows a value in the text `json.dumps` writes: nothing, or a `,`, `]` or `}`. -/
def endsValue : List Nat → Prop
  | [] => True
  | c :: _ => c = 0x2C ∨ c = 0x5D ∨ c = 0x7D

theorem isDigit_decimalCore :
    ∀ fuel n ds, (∀ d ∈ ds, isDigit d) → ∀ d ∈ decimalCore fuel n ds, isDigit d
  | 0, _, _, h => h
  | fuel + 1, n, ds, h => by
    have hd : ∀ m < 10, isDigit (0x30 + m) := fun m hm => by simp [isDigit]; omega
    rw [decimalCore.eq_2]
    split
    · exact List.forall_mem_cons.2 ⟨hd n ‹_›, h⟩
    · exact isDigit_decimalCore fuel _ _ (List.forall_mem_cons.2 ⟨hd _ (Nat.mod_lt _ (by decide)), h⟩)

/-- The digits put in front of `ds` carry on the value of `ds` read from `n`. -/
theorem digitsValue_decimalCore : ∀ fuel n ds, n < fuel →
    (decimalCore fuel n ds).foldl (fun acc d => acc * 10 + (d - 0x30)) 0 =
      ds.foldl (fun acc d => acc * 10 + (d - 0x30)) n
  | 0, _, _, h => absurd h (Nat.not_lt_zero _)
  | fuel + 1, n, ds, h => by
    rw [decimalCore.eq_2]
    split
    · simp only [List.foldl_cons]
      congr 1
      omega
    · rw [digitsValue_decimalCore fuel _ _ (by omega), List.foldl_cons]
      congr 1
      omega

theorem decimalCore_head : ∀ fuel n ds, n < fuel → 0 < n →
    ∃ d r, decimalCore fuel n ds = d :: r ∧ 0x31 ≤ d ∧ d ≤ 0x39
  | 0, _, _, h, _ => absurd h (Nat.not_lt_zero _)
  | fuel + 1, n, ds, h, hn => by
    rw [decimalCore.eq_2]
    split
    · exact ⟨_, _, rfl, by omega, by omega⟩
    · exact decimalCore_head fuel _ _ (by omega) (by omega)

theorem isDigit_decimal (n : Nat) : ∀ d ∈ decimal n, isDigit d :=
  isDigit_decimalCore _ n [] (fun _ h => absurd h (List.not_mem_nil _))

@[simp]
theorem digitsValue_decimal (n : Nat) : digitsValue (decimal n) = n :=
  digitsValue_decimalCore (n + 1) n [] (Nat.lt_succ_self n)

/-- A run of digits ends where the text after a value starts. -/
theorem spanDigits_append {rest : List Nat} (hr : endsValue rest) :
    ∀ ds, (∀ d ∈ ds, isDigit d) → spanDigits (ds ++ rest) = (ds, rest)
  | [], _ => by
    match rest, hr with
    | [], _ => rfl
    | c :: _, hc => rcases hc with rfl | rfl | rfl <;> rfl
  | d :: ds, h => by
    rw [List.cons_append, spanDigits, if_pos (h d (.head _)),
      spanDigits_append hr ds fun e he => h e (.tail _ he)]

theorem startsFloatPart_of_endsValue {rest : List Nat} (hr : endsValue rest) :
    startsFloatPart rest = false := by
  match rest, hr with
  | [], _ => rfl
  | c :: r, hc => rcases hc with rfl | rfl | rfl <;> rcases r with _ | ⟨_, _ | ⟨_, _⟩⟩ <;> rfl

theorem finishNumber_ok {neg : Bool} {digits rest : List Nat} (hr : endsValue rest)
    (hd : digits.length ≤ maxStrDigits) :
    finishNumber neg digits rest =
      .ok (.int (if neg then -(digitsValue digits : Int) else digitsValue digits), rest) := by
  rw [finishNumber, if_neg (by simp [startsFloatPart_of_endsValue hr]), if_neg (by omega)]

theorem decimal_head {n : Nat} (hn : 0 < n) : ∃ d ds, decimal n = d :: ds ∧ 0x31 ≤ d ∧ d ≤ 0x39 :=
  decimalCore_head (n + 1) n [] (Nat.lt_succ_self n) hn

theorem decimal_ne_nil (n : Nat) : decimal n ≠ [] := by
  rcases Nat.eq_zero_or_pos n with rfl | hn
  · exact List.cons_ne_nil _ _
  · obtain ⟨d, ds, he, -⟩ := decimal_head hn
    exact he ▸ List.cons_ne_nil _ _

/-- `_match_number_unicode` reads back the digits `int.__repr__` wrote. -/
theorem matchDigits_decimal (neg : Bool) (n : Nat) (hn : (decimal n).length ≤ maxStrDigits)
    {rest : List Nat} (hr : endsValue rest) :
    matchDigits neg (decimal n ++ rest) = .ok (.int (if neg then -(n : Int) else n), rest) := by
  rcases Nat.eq_zero_or_pos n with rfl | hpos
  · rw [show decimal 0 ++ rest = 0x30 :: rest from rfl, matchDigits.eq_1,
      finishNumber_ok hr (show [0x30].length ≤ maxStrDigits by decide)]
    rfl
  · obtain ⟨d, ds, he, h1, h2⟩ := decimal_head hpos
    have hds : ∀ e ∈ ds, isDigit e := fun e hm => isDigit_decimal n e (he ▸ .tail _ hm)
    rw [he, List.cons_append, matchDigits.eq_2 _ _ _ (by omega), if_pos ⟨h1, h2⟩,
      spanDigits_append hr ds hds]
    rw [he] at hn
    dsimp only
    rw [finishNumber_ok hr hn, ← he, digitsValue_decimal]

/-- `_match_number_unicode` reads back an `int` `json.dumps` wrote. -/
theorem matchNumber_intRepr (i : Int) (hi : (decimal i.natAbs).length ≤ maxStrDigits)
    {rest : List Nat} (hr : endsValue rest) :
    matchNumber (intRepr i ++ rest) = .ok (.int i, rest) := by
  cases i with
  | ofNat n =>
    obtain ⟨d, ds, he⟩ := List.exists_cons_of_ne_nil (decimal_ne_nil n)
    have hd := isDigit_decimal n d (he ▸ .head _)
    rw [intRepr, matchNumber.eq_2 _ (by
      rw [he]; rintro _ ⟨rfl, -⟩; simp [isDigit] at hd), matchDigits_decimal false n hi hr]
    rfl
  | negSucc n =>
    rw [intRepr, List.cons_append, matchNumber.eq_1, matchDigits_decimal true (n + 1) hi hr]
    rfl

/-! ## Values -/

theorem skipWs_cons {c : Nat} (h : 0x22 ≤ c) (r : List Nat) : skipWs (c :: r) = c :: r := by
  rw [skipWs, if_neg (by simp [isWhitespace]; omega)]

/-- `int.__repr__` starts with a digit or a minus sign. -/
theorem intRepr_head (i : Int) : ∃ c r, intRepr i = c :: r ∧ (0x30 ≤ c ∧ c ≤ 0x39 ∨ c = 0x2D) := by
  cases i with
  | ofNat n =>
    obtain ⟨d, ds, he⟩ := List.exists_cons_of_ne_nil (decimal_ne_nil n)
    have hd := isDigit_decimal n d (he ▸ .head _)
    simp only [isDigit, Bool.and_eq_true, decide_eq_true_eq] at hd
    exact ⟨d, ds, he, .inl hd⟩
  | negSucc n => exact ⟨_, _, rfl, .inr rfl⟩

theorem skipWs_space (r : List Nat) : skipWs (0x20 :: r) = skipWs r := rfl

/-- `json.dumps` starts every value with a printable character that is not `]` or `}`. -/
theorem render_head (v : PyJson) :
    ∃ c r, render v = c :: r ∧ 0x22 ≤ c ∧ c ≠ 0x5D ∧ c ≠ 0x7D := by
  match v with
  | .int i =>
    obtain ⟨c, r, he, hc⟩ := intRepr_head i
    exact ⟨c, r, he, by omega, by omega, by omega⟩
  | .null | .bool true | .bool false | .str _ | .list [] | .list (_ :: _) | .dict [] | .dict (_ :: _) =>
    exact ⟨_, _, rfl, by decide, by decide, by decide⟩

theorem skipWs_render (v : PyJson) (rest : List Nat) : skipWs (render v ++ rest) = render v ++ rest := by
  obtain ⟨c, r, hc, h, -⟩ := render_head v
  rw [hc, List.cons_append, skipWs_cons h]

theorem skipWs_encodeString (k rest : List Nat) :
    skipWs (encodeString k ++ rest) = encodeString k ++ rest :=
  skipWs_render (.str k) rest

theorem endsValue_renderItems (vs : List PyJson) (rest : List Nat) :
    endsValue (renderItems vs ++ 0x5D :: rest) := by
  cases vs <;> simp [renderItems, endsValue]

theorem endsValue_renderFields (fs : List (List Nat × PyJson)) (rest : List Nat) :
    endsValue (renderFields fs ++ 0x7D :: rest) := by
  cases fs <;> simp [renderFields, endsValue]

theorem dictSet_fresh : ∀ (acc : List (List Nat × PyJson)) (k : List Nat) (v : PyJson),
    (∀ a ∈ acc, a.1 ≠ k) → dictSet acc k v = acc ++ [(k, v)]
  | [], _, _, _ => rfl
  | (k', v') :: acc, k, v, h => by
    rw [dictSet, if_neg (h _ (.head _)), dictSet_fresh acc k v fun a ha => h a (.tail _ ha)]
    rfl

theorem matchConstant_intRepr (i : Int) (rest : List Nat) : matchConstant (intRepr i ++ rest) = none := by
  cases i with
  | ofNat n =>
    obtain ⟨d, ds, he⟩ := List.exists_cons_of_ne_nil (decimal_ne_nil n)
    have hd := isDigit_decimal n d (he ▸ .head _)
    simp only [isDigit, Bool.and_eq_true, decide_eq_true_eq] at hd
    have : d ≠ 0x6E ∧ d ≠ 0x74 ∧ d ≠ 0x66 ∧ d ≠ 0x4E ∧ d ≠ 0x49 ∧ d ≠ 0x2D := by omega
    simp [intRepr, he, matchConstant, this]
  | negSucc n =>
    obtain ⟨d, ds, he⟩ := List.exists_cons_of_ne_nil (decimal_ne_nil (n + 1))
    have hd := isDigit_decimal (n + 1) d (he ▸ .head _)
    simp only [isDigit, Bool.and_eq_true, decide_eq_true_eq] at hd
    have : d ≠ 0x49 := by omega
    simp [intRepr, he, matchConstant, this]

section
variable {f : Nat}

theorem scanOnce_intRepr {i : Int} (hi : (decimal i.natAbs).length ≤ maxStrDigits) {rest : List Nat}
    (hr : endsValue rest) : scanOnce (f + 1) (intRepr i ++ rest) = .ok (.int i, rest) := by
  obtain ⟨c, r, hc, h⟩ := intRepr_head i
  have hne : ∀ d, d ≠ c → ∀ r', intRepr i ++ rest ≠ d :: r' := by
    rintro d hd r' he
    rw [hc, List.cons_append] at he
    exact hd (List.cons.inj he).1.symm
  rw [scanOnce.eq_5 _ _ (hne _ (by omega)) (hne _ (by omega)) (hne _ (by omega)),
    matchConstant_intRepr]
  exact matchNumber_intRepr i hi hr

/-- `scanOnce` at `[` goes on to the items unless a `]` comes first. -/
theorem scanOnce_array {rest : List Nat} (h : ∀ r, skipWs rest ≠ 0x5D :: r) :
    scanOnce (f + 1) (0x5B :: rest) = parseArray f (skipWs rest) [] := by
  rw [scanOnce.eq_4]
  split
  · exact absurd ‹_› (h _)
  · rfl

/-- `scanOnce` at `{` goes on to the fields unless a `}` comes first. -/
theorem scanOnce_object {rest : List Nat} (h : ∀ r, skipWs rest ≠ 0x7D :: r) :
    scanOnce (f + 1) (0x7B :: rest) = parseObject f (skipWs rest) [] := by
  rw [scanOnce.eq_3]
  split
  · exact absurd ‹_› (h _)
  · rfl

/-- `scanOnce` with fuel `f` reads back every well-formed value whose text is at most `f` long. -/
def ScansValues (f : Nat) : Prop :=
  ∀ v rest, wf v → (render v).length ≤ f → endsValue rest →
    scanOnce f (render v ++ rest) = .ok (v, rest)

/-- `parseArray` with fuel `f` reads back the items of a list and its closing `]`. -/
def ScansItems (f : Nat) : Prop :=
  ∀ v vs acc rest, itemsWf (v :: vs) → (render v).length + (renderItems vs).length < f →
    parseArray f (render v ++ (renderItems vs ++ 0x5D :: rest)) acc =
      .ok (.list (acc ++ v :: vs), rest)

/-- `parseObject` with fuel `f` reads back the fields of a `dict` and its closing `}`, when none of
their keys was read before. -/
def ScansFields (f : Nat) : Prop :=
  ∀ k v fs acc rest, fieldsWf ((k, v) :: fs) → (∀ a ∈ acc, ∀ b ∈ (k, v) :: fs, a.1 ≠ b.1) →
    (render v).length + (renderFields fs).length < f →
    parseObject f (encodeString k ++ 0x3A :: 0x20 :: (render v ++ (renderFields fs ++ 0x7D :: rest)))
      acc = .ok (.dict (acc ++ (k, v) :: fs), rest)

theorem scansItems_succ (hA : ScansValues f) (hB : ScansItems f) : ScansItems (f + 1) := by
  intro v vs acc rest hw hlen
  simp only [itemsWf, Bool.and_eq_true] at hw
  rw [parseArray.eq_2, hA v _ hw.1 (by omega) (endsValue_renderItems vs rest)]
  cases vs with
  | nil => rfl
  | cons v' vs' =>
    have hlen' : (render v').length + (renderItems vs').length < f := by
      simp only [renderItems, List.length_cons, List.length_append] at hlen
      omega
    simp only [renderItems, List.cons_append, List.append_assoc]
    rw [skipWs_cons (by decide)]
    dsimp only
    rw [skipWs_space, skipWs_render, hB v' vs' _ rest hw.2 hlen']
    simp

theorem scansFields_succ (hA : ScansValues f) (hC : ScansFields f) : ScansFields (f + 1) := by
  intro k v fs acc rest hw hd hlen
  simp only [fieldsWf, Bool.and_eq_true, List.all_eq_true, decide_eq_true_eq] at hw
  obtain ⟨⟨⟨hk, hv⟩, hfresh⟩, hfs⟩ := hw
  rw [encodeString_append, parseObject.eq_2, scanString_encoded hk]
  dsimp only
  rw [skipWs_cons (by decide)]
  dsimp only
  rw [skipWs_space, skipWs_render, hA v _ hv (by omega) (endsValue_renderFields fs rest)]
  dsimp only
  rw [dictSet_fresh acc k v fun a ha => hd a ha _ (.head _)]
  cases fs with
  | nil => rfl
  | cons kv fs' =>
    obtain ⟨k', v'⟩ := kv
    have hlen' : (render v').length + (renderFields fs').length < f := by
      simp only [renderFields, encodeString, List.length_cons, List.length_append] at hlen
      omega
    -- no key read so far comes again
    have hd' : ∀ a ∈ acc ++ [(k, v)], ∀ b ∈ (k', v') :: fs', a.1 ≠ b.1 := by
      intro a ha b hb
      rcases List.mem_append.1 ha with ha | ha
      · exact hd a ha b (.tail _ hb)
      · rw [List.mem_singleton.1 ha]
        exact (hfresh b hb).symm
    simp only [renderFields, List.cons_append, List.append_assoc]
    rw [skipWs_cons (by decide)]
    dsimp only
    rw [skipWs_space, skipWs_encodeString, hC k' v' fs' _ rest hfs hd' hlen']
    simp

theorem scansValues_succ (hB : ScansItems f) (hC : ScansFields f) : ScansValues (f + 1) := by
  intro v rest hw hlen hr
  match v with
  | .null | .bool true | .bool false | .list [] | .dict [] => rfl
  | .int i => exact scanOnce_intRepr (by simpa [wf] using hw) hr
  | .str s =>
    rw [show render (.str s) = encodeString s from rfl, encodeString_append, scanOnce.eq_2,
      scanString_encoded hw]
  | .list (v :: vs) =>
    have hl : (render v).length + (renderItems vs).length < f := by
      simp only [render, List.length_cons, List.length_append] at hlen
      omega
    simp only [render, List.cons_append, List.append_assoc, List.singleton_append]
    rw [scanOnce_array, skipWs_render]
    · simpa using hB v vs [] rest hw hl
    · intro r h
      obtain ⟨c, r', hc, -, h93, -⟩ := render_head v
      rw [skipWs_render, hc, List.cons_append] at h
      exact h93 (List.cons.inj h).1
  | .dict ((k, v) :: fs) =>
    have hl : (render v).length + (renderFields fs).length < f := by
      simp only [render, encodeString, List.length_cons, List.length_append] at hlen
      omega
    simp only [render, List.cons_append, List.append_assoc, List.singleton_append]
    rw [scanOnce_object, skipWs_encodeString]
    · simpa using hC k v fs [] rest hw (fun _ h => absurd h (List.not_mem_nil _)) hl
    · intro r h
      rw [skipWs_encodeString, encodeString_append] at h
      exact absurd (List.cons.inj h).1 (by decide)

/-- With fuel `f`, the scanner reads back every well-formed value whose text is at most `f` long:
one fuel step per `scanOnce`, item and field. -/
theorem scans_render : ∀ f, ScansValues f ∧ ScansItems f ∧ ScansFields f
  | 0 => by
    refine ⟨fun v _ _ h _ => ?_, fun _ _ _ _ _ h => absurd h (Nat.not_lt_zero _),
      fun _ _ _ _ _ _ _ h => absurd h (Nat.not_lt_zero _)⟩
    obtain ⟨c, r, hc, -⟩ := render_head v
    rw [hc] at h
    exact absurd h (Nat.not_succ_le_zero _)
  | f + 1 =>
    let ⟨hA, hB, hC⟩ := scans_render f
    ⟨scansValues_succ hB hC, scansItems_succ hA hB, scansFields_succ hA hC⟩

end

/-- `json.loads(json.dumps(v)) == v` for a well-formed value, as `JSONDecoder.decode` reads it. -/
theorem decode_render {v : PyJson} (hv : wf v) : decode (render v) = .ok v := by
  have h := (scans_render ((render v).length + 1)).1 v [] hv (by omega) trivial
  rw [List.append_nil] at h
  rw [decode, show skipWs (render v) = render v by simpa using skipWs_render v [], h]
  rfl

/-! ## Bytes -/

theorem hexDigit_printable {n : Nat} (h : n < 16) : 0x20 ≤ hexDigit n ∧ hexDigit n ≤ 0x7E := by
  unfold hexDigit
  split <;> omega

theorem uEscape_printable (u : Nat) : ∀ c ∈ uEscape u, 0x20 ≤ c ∧ c ≤ 0x7E := by
  have h := fun m => hexDigit_printable (Nat.mod_lt m (by decide : 16 > 0))
  simp only [uEscape, List.forall_mem_cons, List.not_mem_nil, false_imp_iff, implies_true, and_true]
  exact ⟨by decide, by decide, h _, h _, h _, h _⟩

theorem escapeChar_printable (c : Nat) : ∀ d ∈ escapeChar c, 0x20 ≤ d ∧ d ≤ 0x7E := by
  rcases escapeChar_cases c with ⟨h1, h2, -, -, he⟩ | ⟨-, e, he, -, -, h⟩ | ⟨-, he⟩ | ⟨-, he⟩
  · simpa [he] using ⟨h1, h2⟩
  · simpa [he] using h
  · rw [he]
    exact List.forall_mem_append.2 ⟨uEscape_printable _, uEscape_printable _⟩
  · rw [he]
    exact uEscape_printable c

theorem encodeString_printable (s : List Nat) : ∀ c ∈ encodeString s, 0x20 ≤ c ∧ c ≤ 0x7E := by
  simp only [encodeString, List.cons_append, List.forall_mem_cons, List.forall_mem_append,
    List.forall_mem_flatMap]
  exact ⟨by decide, fun c _ => escapeChar_printable c, by decide⟩

theorem intRepr_printable (i : Int) : ∀ c ∈ intRepr i, 0x20 ≤ c ∧ c ≤ 0x7E := by
  have h : ∀ n, ∀ c ∈ decimal n, 0x20 ≤ c ∧ c ≤ 0x7E := fun n c hc => by
    have := isDigit_decimal n c hc
    simp only [isDigit, Bool.and_eq_true, decide_eq_true_eq] at this
    omega
  cases i with
  | ofNat n => exact h n
  | negSucc n => exact List.forall_mem_cons.2 ⟨by decide, h _⟩

mutual
/-- `json.dumps` writes printable ASCII only. -/
theorem render_printable : ∀ v, ∀ c ∈ render v, 0x20 ≤ c ∧ c ≤ 0x7E
  | .null | .bool true | .bool false | .list [] | .dict [] => by decide
  | .int i => intRepr_printable i
  | .str s => encodeString_printable s
  | .list (v :: vs) => by
    simp only [render, List.cons_append, List.forall_mem_cons, List.forall_mem_append,
      List.not_mem_nil, false_imp_iff, implies_true, and_true]
    exact ⟨by decide, ⟨render_printable v, renderItems_printable vs⟩, by decide⟩
  | .dict ((k, v) :: fs) => by
    simp only [render, List.cons_append, List.forall_mem_cons, List.forall_mem_append,
      List.not_mem_nil, false_imp_iff, implies_true, and_true]
    exact ⟨by decide, ⟨⟨encodeString_printable k, by decide, by decide, render_printable v⟩,
      renderFields_printable fs⟩, by decide⟩
theorem renderItems_printable : ∀ vs, ∀ c ∈ renderItems vs, 0x20 ≤ c ∧ c ≤ 0x7E
  | [] => by decide
  | v :: vs => by
    simp only [renderItems, List.cons_append, List.forall_mem_cons, List.forall_mem_append]
    exact ⟨by decide, by decide, render_printable v, renderItems_printable vs⟩
theorem renderFields_printable : ∀ fs, ∀ c ∈ renderFields fs, 0x20 ≤ c ∧ c ≤ 0x7E
  | [] => by decide
  | (k, v) :: fs => by
    simp only [renderFields, List.cons_append, List.forall_mem_cons, List.forall_mem_append]
    exact ⟨by decide, by decide, ⟨encodeString_printable k, by decide, by decide, render_printable v⟩,
      renderFields_printable fs⟩
end

/-- `json.detect_encoding` of bytes that start with a printable ASCII byte and no zero byte after
it is UTF-8: no byte-order mark, no zero-byte pattern. -/
theorem detectEncoding_printable {b0 : UInt8} (h0 : 0x20 ≤ b0.toNat ∧ b0.toNat ≤ 0x7E)
    {rest : List UInt8} (h1 : ∀ b ∈ rest.head?, b ≠ 0) : detectEncoding (b0 :: rest) = .utf8 := by
  have hb0 : ∀ n : UInt8, (n.toNat < 0x20 ∨ 0x7E < n.toNat) → b0 ≠ n := by
    rintro n hn rfl
    omega
  have n0 := hb0 0 (by decide)
  unfold detectEncoding
  rw [if_neg (by simp [n0, hb0 255 (by decide)]),
    if_neg (by simp [hb0 254 (by decide), hb0 255 (by decide)]), if_neg (by simp [hb0 239 (by decide)])]
  match rest, h1 with
  | [], _ | [_, _], _ => rfl
  | [b1], h1 | b1 :: _ :: _ :: _, h1 => simp only [if_neg n0, if_neg (h1 b1 rfl)]

theorem asciiBytes_printable {s : List Nat} (h : ∀ c ∈ s, 0x20 ≤ c ∧ c ≤ 0x7E) :
    ∀ b ∈ asciiBytes s, 0x20 ≤ b.toNat ∧ b.toNat ≤ 0x7E := by
  simp only [asciiBytes, List.forall_mem_map]
  intro c hc
  rw [UInt8.toNat_ofNat_of_lt (by have := h c hc; unfold UInt8.size; omega)]
  exact h c hc

/-- `json.loads` of the bytes `json.dumps(v).encode()` is `v`, for a well-formed `v`. -/
theorem loadsBytes_render {v : PyJson} (hv : wf v) : loadsBytes (asciiBytes (render v)) = .ok v := by
  have he : detectEncoding (asciiBytes (render v)) = .utf8 := by
    have hp := asciiBytes_printable (render_printable v)
    obtain ⟨c, r, hc, -⟩ := render_head v
    rw [hc] at hp ⊢
    refine detectEncoding_printable (hp _ (.head _)) fun b hm h => ?_
    have := hp b (.tail _ (List.mem_of_mem_head? hm))
    rw [h] at this
    exact absurd this.1 (by decide)
  rw [loadsBytes, he, bytesDecode,
    utf8Decode_asciiBytes true _ fun c hc => by have := render_printable v c hc; omega]
  exact decode_render hv

/-- `json.loads` of the text `json.dumps(v)` is `v`, for a well-formed `v`. -/
theorem loads_render {v : PyJson} (hv : wf v) : loads (render v) = .ok v := by
  obtain ⟨c, r, hc, -⟩ := render_head v
  have := render_printable v c (hc ▸ .head _)
  rw [loads, if_neg (by rw [hc]; simp; omega)]
  exact decode_render hv

mutual
/-- A well-formed value has no `int` past the digit limit. -/
theorem intsFit_of_wf : ∀ {v}, wf v → intsFit v
  | .null, _ | .bool _, _ | .str _, _ => rfl
  | .int _, h => h
  | .list _, h => itemsFit_of_wf h
  | .dict _, h => fieldsFit_of_wf h
theorem itemsFit_of_wf : ∀ {vs}, itemsWf vs → itemsFit vs
  | [], _ => rfl
  | _ :: _, h => by
    simp only [itemsWf, itemsFit, Bool.and_eq_true] at h ⊢
    exact ⟨intsFit_of_wf h.1, itemsFit_of_wf h.2⟩
theorem fieldsFit_of_wf : ∀ {fs}, fieldsWf fs → fieldsFit fs
  | [], _ => rfl
  | (_, _) :: _, h => by
    simp only [fieldsWf, fieldsFit, Bool.and_eq_true] at h ⊢
    exact ⟨intsFit_of_wf h.1.1.2, fieldsFit_of_wf h.2⟩
end

theorem dumps_of_wf {v : PyJson} (hv : wf v) : dumps v = .ok (render v) := by
  rw [dumps, if_pos (intsFit_of_wf hv)]

end Json

end RcsMessaging
