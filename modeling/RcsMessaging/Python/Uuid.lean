import Mathlib.Tactic.IntervalCases
import RcsMessaging.Python.Str

/-!
# `Python.Uuid` — `str(UUID)` and `uuid.UUID(hex)`, and the round trip between them

The API middlewares pass UUIDs around as text: `RequestIDMiddleware` answers with `str(uuid4())`
and accepts a client's `X-Request-ID` only when `uuid.UUID(...)` reads it, `AuthMiddleware` reads
the `sub` and `tenant_id` claims of a token with `UUID(...)`, and the rate limiter builds its Redis
key from `str(tenant_id)`.

A UUID is its 128-bit integer (`UUID.int`). `str` writes `'%032x' % int` in the groups
8-4-4-4-12; `UUID(hex)` drops `urn:` and `uuid:`, the braces around and every hyphen, wants 32
code points left, and reads them with `int(hex, 16)`, which also takes blanks around, a sign, a
`0x` and single underscores between digits.

The file proves that the text `str` writes is read back as the same UUID (`ofHex_str`), that two
UUIDs never print alike (`str_injective`), and that a printed UUID has no `:` (`colon_not_mem_str`),
which makes the rate limiter's key `rate_limit:{tenant}:{endpoint}` name its tenant.
-/

namespace RcsMessaging

namespace PyUuid

/-- The lowercase hex digit `'%x'` writes for `d < 16`. -/
def hexChar (d : Nat) : Char := if d < 10 then Char.ofNat (48 + d) else Char.ofNat (87 + d)

/-- The value of a hex digit, in either case. -/
def hexVal? (c : Char) : Option Nat :=
  if '0' ≤ c ∧ c ≤ '9' then some (c.toNat - 48)
  else if 'a' ≤ c ∧ c ≤ 'f' then some (c.toNat - 87)
  else if 'A' ≤ c ∧ c ≤ 'F' then some (c.toNat - 55)
  else none

/-- The base-16 places of `n`, most significant first: at least `w` of them, more if `n` needs
them. Each step drops a place, so `w + n` steps of `fuel` always suffice. -/
def hexPlaces : (fuel w n : Nat) → List Nat
  | 0, _, _ => []
  | fuel + 1, w, n => if w = 0 ∧ n = 0 then [] else hexPlaces fuel (w - 1) (n / 16) ++ [n % 16]

/-- `UUID.hex`, `'%032x' % int`. -/
def hex (n : Nat) : List Char := (hexPlaces (32 + n) 32 n).map hexChar

/-- `str(UUID)`: `hex[:8]-hex[8:12]-hex[12:16]-hex[16:20]-hex[20:]`. -/
def str (n : Nat) : String :=
  let h := hex n
  ⟨h.take 8 ++ '-' :: (h.drop 8).take 4 ++ '-' :: (h.drop 12).take 4 ++ '-' ::
    (h.drop 16).take 4 ++ '-' :: h.drop 20⟩

/-- The code points `str.isspace` holds of, on ASCII. -/
def isSpace (c : Char) : Bool := c = ' ' || ('\t' ≤ c && c ≤ '\r') || ('\x1c' ≤ c && c ≤ '\x1f')

/-- The digits of `int(s, 16)` after the first one, read into `acc`: each digit may follow one
underscore, and the text may not end in one. -/
def digitsFrom (acc : Nat) : List Char → Option Nat
  | [] => some acc
  | c :: t =>
    if c = '_' then
      match t with
      | d :: t' => (hexVal? d).bind fun v => digitsFrom (acc * 16 + v) t'
      | [] => none
    else (hexVal? c).bind fun v => digitsFrom (acc * 16 + v) t

/-- `int(s, 16)` after the blanks and the sign: an optional `0x` or `0X` with one underscore
allowed after it, then a digit, then `digitsFrom`. -/
def unsignedBase16 (s : List Char) : Option Nat :=
  let s := match s with
    | c :: x :: r =>
      if c = '0' ∧ (x = 'x' ∨ x = 'X') then (if r.head? = some '_' then r.tail else r) else s
    | _ => s
  match s with
  | c :: r => if c = '_' then none else (hexVal? c).bind fun d => digitsFrom d r
  | [] => none

/-- `int(s, 16)`, or `none` where it raises `ValueError`. -/
def intBase16 (s : List Char) : Option Int :=
  match PyStr.stripBy isSpace s with
  | c :: r =>
    if c = '-' then (unsignedBase16 r).map fun v : Nat => -(v : Int)
    else if c = '+' then (unsignedBase16 r).map Int.ofNat
    else (unsignedBase16 (c :: r)).map Int.ofNat
  | [] => none

/-- `uuid.UUID(hex)`: the UUID's integer, or `none` where the constructor raises `ValueError`. -/
def ofHex (s : String) : Option Nat :=
  let h := PyStr.replace (PyStr.replace s.toList "urn:".toList []) "uuid:".toList []
  let h := PyStr.replace (PyStr.stripBy (fun c => c = '{' || c = '}') h) ['-'] []
  if h.length ≠ 32 then none
  else match intBase16 h with
    | some v => if 0 ≤ v ∧ v < 2 ^ 128 then some v.toNat else none
    | none => none

/-! ## The sixteen digits -/

/-- The digits `'%x'` writes, as a list to check the others against. -/
def hexAlphabet : List Char := "0123456789abcdef".toList

theorem hexChar_mem {d : Nat} (h : d < 16) : hexChar d ∈ hexAlphabet := by
  interval_cases d <;> decide

theorem hexVal?_hexChar {d : Nat} (h : d < 16) : hexVal? (hexChar d) = some d := by
  interval_cases d <;> rfl

/-- What a hex digit is not: anything the parser or the key format treats apart. -/
theorem hexAlphabet_not_special :
    ∀ c ∈ hexAlphabet, c ≠ '-' ∧ c ≠ '_' ∧ c ≠ ':' ∧ c ≠ 'u' ∧ c ≠ '{' ∧ c ≠ '}' ∧
      c ≠ '+' ∧ c ≠ 'x' ∧ c ≠ 'X' ∧ isSpace c = false := by
  decide

theorem hexPlaces_lt : ∀ {fuel w n : Nat}, ∀ d ∈ hexPlaces fuel w n, d < 16
  | 0, _, _, _, h => by cases h
  | fuel + 1, w, n, d, h => by
    rw [hexPlaces] at h
    split at h
    · cases h
    · rcases List.mem_append.1 h with h | h
      · exact hexPlaces_lt d h
      · rw [List.mem_singleton.1 h]; exact Nat.mod_lt _ (by decide)

theorem mem_hex {n : Nat} {c : Char} (h : c ∈ hex n) : c ∈ hexAlphabet := by
  obtain ⟨d, hd, rfl⟩ := List.mem_map.1 h
  exact hexChar_mem (hexPlaces_lt d hd)

/-! ## Reading the places back -/

/-- The places, read as base 16, are the number. -/
theorem foldl_hexPlaces : ∀ {fuel w n : Nat}, w + n ≤ fuel →
    (hexPlaces fuel w n).foldl (fun acc d => acc * 16 + d) 0 = n
  | 0, _, _, h => by rw [hexPlaces, List.foldl_nil]; omega
  | fuel + 1, w, n, h => by
    rw [hexPlaces]
    split
    · rename_i hw; rw [List.foldl_nil, hw.2]
    · rw [List.foldl_append, foldl_hexPlaces (by omega), List.foldl_cons, List.foldl_nil]
      omega

theorem length_hexPlaces : ∀ {fuel w n : Nat}, w + n ≤ fuel → n < 16 ^ w →
    (hexPlaces fuel w n).length = w
  | 0, _, _, h, _ => by rw [hexPlaces]; simp only [List.length_nil]; omega
  | fuel + 1, 0, n, _, hn => by
    rw [hexPlaces, if_pos ⟨rfl, by simpa using hn⟩]; rfl
  | fuel + 1, w + 1, n, h, hn => by
    rw [hexPlaces, if_neg (by omega), List.length_append,
      length_hexPlaces (by omega) (by rw [Nat.add_sub_cancel]; rw [Nat.pow_succ] at hn; omega),
      List.length_singleton]
    rfl

theorem digitsFrom_cons {acc : Nat} {c : Char} (t : List Char) (h : c ≠ '_') :
    digitsFrom acc (c :: t) = (hexVal? c).bind fun v => digitsFrom (acc * 16 + v) t := by
  rw [digitsFrom.eq_def]
  exact if_neg h

/-- `digitsFrom` reads a run of hex digits with no underscore as base 16. -/
theorem digitsFrom_map_hexChar :
    ∀ (ds : List Nat) (acc : Nat), (∀ d ∈ ds, d < 16) →
      digitsFrom acc (ds.map hexChar) = some (ds.foldl (fun acc d => acc * 16 + d) acc)
  | [], _, _ => rfl
  | d :: ds, acc, h => by
    have hd := h d (List.mem_cons_self d ds)
    have hu : hexChar d ≠ '_' := ((hexAlphabet_not_special _ (hexChar_mem hd)).2.1)
    rw [List.map_cons, digitsFrom_cons _ hu, hexVal?_hexChar hd, Option.some_bind,
      digitsFrom_map_hexChar ds _ fun d' hd' => h d' (List.mem_cons_of_mem d hd'), List.foldl_cons]

theorem hexPlaces_ne_nil (n : Nat) : hexPlaces (32 + n) 32 n ≠ [] := by
  rw [show 32 + n = (31 + n) + 1 by omega, hexPlaces, if_neg (by omega)]
  exact List.append_ne_nil_of_right_ne_nil _ (List.cons_ne_nil _ _)

/-! ## `str`: the hyphens come out again -/

/-- The five groups of `str` put back together are `hex`. -/
theorem groups_join (h : List Char) :
    h.take 8 ++ (h.drop 8).take 4 ++ (h.drop 12).take 4 ++ (h.drop 16).take 4 ++ h.drop 20 = h := by
  have e : ∀ a b : Nat, (h.drop a).take b ++ h.drop (a + b) = h.drop a := fun a b => by
    rw [← List.drop_drop, List.take_append_drop]
  rw [List.append_assoc, List.append_assoc, List.append_assoc,
    show h.drop 20 = h.drop (16 + 4) from rfl, e, show h.drop 16 = h.drop (12 + 4) from rfl, e,
    show h.drop 12 = h.drop (8 + 4) from rfl, e, List.take_append_drop]

theorem filter_hyphen_str (n : Nat) : (str n).toList.filter (· != '-') = hex n := by
  have hf : ∀ l : List Char, (∀ c ∈ l, c ∈ hexAlphabet) → l.filter (· != '-') = l := fun l hl =>
    List.filter_eq_self.2 fun c hc => by
      simpa using (hexAlphabet_not_special c (hl c hc)).1
  have sub : ∀ l : List Char, List.Sublist l (hex n) → ∀ c ∈ l, c ∈ hexAlphabet :=
    fun l hl c hc => mem_hex (hl.subset hc)
  have hs := fun l hl => hf l (sub l hl)
  simp only [str, String.toList, List.filter_append, List.filter_cons, bne_self_eq_false,
    if_false, Bool.false_eq_true]
  rw [hs _ (List.take_sublist _ _), hs _ ((List.take_sublist _ _).trans (List.drop_sublist _ _)),
    hs _ ((List.take_sublist _ _).trans (List.drop_sublist _ _)),
    hs _ ((List.take_sublist _ _).trans (List.drop_sublist _ _)), hs _ (List.drop_sublist _ _)]
  exact groups_join (hex n)

theorem mem_str {n : Nat} {c : Char} (h : c ∈ (str n).toList) : c = '-' ∨ c ∈ hexAlphabet := by
  by_cases hc : c = '-'
  · exact .inl hc
  · refine .inr (mem_hex (n := n) ?_)
    rw [← filter_hyphen_str]
    exact List.mem_filter.2 ⟨h, by simpa using hc⟩

/-- A printed UUID has no `:`. -/
theorem colon_not_mem_str (n : Nat) : ':' ∉ (str n).toList := fun h => by
  rcases mem_str h with h | h
  · cases h
  · exact (hexAlphabet_not_special _ h).2.2.1 rfl

/-- **Two UUIDs never print alike.** -/
theorem str_injective : Function.Injective str := by
  intro a b h
  have hv : ∀ n, digitsFrom 0 (hex n) = some n := fun n => by
    rw [hex, digitsFrom_map_hexChar _ _ hexPlaces_lt, foldl_hexPlaces (by omega)]
  have hx : hex a = hex b := by rw [← filter_hyphen_str, h, filter_hyphen_str]
  exact Option.some.inj ((hv a).symm.trans (hx ▸ hv b))

/-! ## `UUID(str(u))` is `u` -/

/-- `int(s, 16)` reads the digits `'%x'` writes. -/
theorem intBase16_hex (n : Nat) : intBase16 (hex n) = some (n : Int) := by
  have hs : ∀ c ∈ hex n, c ∈ hexAlphabet := fun c hc => mem_hex hc
  obtain ⟨d, ds, hds⟩ := List.exists_cons_of_ne_nil (hexPlaces_ne_nil n)
  have hd : d < 16 := hexPlaces_lt d (hds ▸ List.mem_cons_self d ds)
  have hdsl : ∀ d' ∈ ds, d' < 16 := fun d' h => hexPlaces_lt d' (hds ▸ List.mem_cons_of_mem d h)
  have hc := hexAlphabet_not_special _ (hexChar_mem hd)
  have hval : digitsFrom 0 (hex n) = some n := by
    rw [hex, digitsFrom_map_hexChar _ _ hexPlaces_lt, foldl_hexPlaces (by omega)]
  rw [hex, hds, List.map_cons, digitsFrom_cons _ hc.2.1, hexVal?_hexChar hd, Option.some_bind,
    Nat.zero_mul, Nat.zero_add] at hval
  have hun : unsignedBase16 (hexChar d :: ds.map hexChar) = some n := by
    unfold unsignedBase16
    cases ds with
    | nil => simp only [List.map_nil, if_neg hc.2.1, hexVal?_hexChar hd, Option.some_bind]; exact hval
    | cons e es =>
      have he := hexAlphabet_not_special _ (hexChar_mem (hdsl e (List.mem_cons_self e es)))
      simp only [List.map_cons, he.2.2.2.2.2.2.2.1, he.2.2.2.2.2.2.2.2.1, or_self, and_false,
        if_false, if_neg hc.2.1, hexVal?_hexChar hd, Option.some_bind]
      exact hval
  rw [intBase16, PyStr.stripBy_of_forall fun c h => (hexAlphabet_not_special c (hs c h)).2.2.2.2.2.2.2.2.2,
    hex, hds, List.map_cons]
  simp only [if_neg hc.1, if_neg hc.2.2.2.2.2.2.1, hun, Option.map_some']
  rfl

/-- `uuid.UUID` reads `str(n)` as `n` and as nothing else. -/
theorem ofHex_str_eq_some {n m : Nat} (h : n < 2 ^ 128) : ofHex (str n) = some m ↔ n = m := by
  suffices hn : ofHex (str n) = some n by rw [hn, Option.some_inj]
  have hs : ∀ c ∈ (str n).toList, c = '-' ∨ c ∈ hexAlphabet := fun c hc => mem_str hc
  have hu : ∀ c ∈ (str n).toList, some 'u' ≠ some c := fun c hc he => by
    rcases hs c hc with rfl | h
    · cases he
    · exact (hexAlphabet_not_special c h).2.2.2.1 (Option.some.inj he).symm
  have hurn := @PyStr.replace_append_of_not_mem "urn:".toList [] (by decide) (str n).toList hu []
  have huuid := @PyStr.replace_append_of_not_mem "uuid:".toList [] (by decide) (str n).toList hu []
  rw [List.append_nil, PyStr.replace_nil_left (by decide), List.append_nil] at hurn huuid
  have hbr : PyStr.stripBy (fun c => c = '{' || c = '}') (str n).toList = (str n).toList :=
    PyStr.stripBy_of_forall fun c hc => by
      rcases hs c hc with rfl | h
      · rfl
      · have := hexAlphabet_not_special c h; simp [this.2.2.2.2.1, this.2.2.2.2.2.1]
  have hlen : (hex n).length = 32 := by
    rw [hex, List.length_map, length_hexPlaces (by omega) (by omega)]
  have hlt : (n : Int) < 2 ^ 128 := by exact_mod_cast h
  simp only [ofHex, hurn, huuid, hbr, PyStr.replace_single_nil, filter_hyphen_str, hlen,
    ne_eq, not_true_eq_false, if_false, intBase16_hex, Int.natCast_nonneg, hlt, and_self,
    if_true, Int.toNat_ofNat]

/-- **`uuid.UUID(str(u))` is `u`**: a UUID the middlewares print is read back as itself. -/
theorem ofHex_str {n : Nat} (h : n < 2 ^ 128) : ofHex (str n) = some n :=
  (ofHex_str_eq_some h).2 rfl


end PyUuid

end RcsMessaging
