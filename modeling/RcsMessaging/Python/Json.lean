import RcsMessaging.Python.Codecs

/-!
# `Python.Json` — `json.dumps` and `json.loads` as CPython's C accelerator runs them

A JSON document becomes a `PyJson`: `None`, a `bool`, an `int`, a `str`, a `list`, or a `dict`
with `str` keys in insertion order.

* `render` is the text `json.dumps(v)` writes with the default options. Items are separated by
  `", "` and keys by `": "`. With `ensure_ascii`, every code point outside printable ASCII is a
  lowercase `\uXXXX` escape; one past `0xFFFF` becomes a surrogate pair.
* `dumps` adds the one way it raises: an `int` of more than 4300 digits.
* `scanOnce`, `parseObject` and `parseArray` are `scan_once_unicode`, `_parse_object_unicode` and
  `_parse_array_unicode` of `_json.c`. `scanString` is `scanstring_unicode` in strict mode.
* `decode` is `JSONDecoder.decode`; `loads` and `loadsBytes` are `json.loads` of a `str` and of
  `bytes`.

A float literal is left out of the model (`PyError.floatLiteral`). So is the recursion limit of
deep nesting: the scanner's fuel is the length of the document, which never runs out.
-/

namespace RcsMessaging

/-- A Python object as `json` writes and reads it. -/
inductive PyJson
  | null
  | bool (b : Bool)
  | int (n : Int)
  | str (s : List Nat)
  | list (items : List PyJson)
  | dict (fields : List (List Nat × PyJson))
  deriving Repr

namespace PyJson

mutual
/-- Equality of `PyJson` values, by their structure. -/
def decEq : (a b : PyJson) → Decidable (a = b)
  | .null, .null => isTrue rfl
  | .bool x, .bool y => if h : x = y then isTrue (h ▸ rfl) else isFalse fun e => h (bool.inj e)
  | .int x, .int y => if h : x = y then isTrue (h ▸ rfl) else isFalse fun e => h (int.inj e)
  | .str x, .str y => if h : x = y then isTrue (h ▸ rfl) else isFalse fun e => h (str.inj e)
  | .list xs, .list ys =>
    match decEqItems xs ys with
    | isTrue h => isTrue (h ▸ rfl)
    | isFalse h => isFalse fun e => h (list.inj e)
  | .dict xs, .dict ys =>
    match decEqFields xs ys with
    | isTrue h => isTrue (h ▸ rfl)
    | isFalse h => isFalse fun e => h (dict.inj e)
  | .null, .bool _ | .null, .int _ | .null, .str _ | .null, .list _ | .null, .dict _
  | .bool _, .null | .bool _, .int _ | .bool _, .str _ | .bool _, .list _ | .bool _, .dict _
  | .int _, .null | .int _, .bool _ | .int _, .str _ | .int _, .list _ | .int _, .dict _
  | .str _, .null | .str _, .bool _ | .str _, .int _ | .str _, .list _ | .str _, .dict _
  | .list _, .null | .list _, .bool _ | .list _, .int _ | .list _, .str _ | .list _, .dict _
  | .dict _, .null | .dict _, .bool _ | .dict _, .int _ | .dict _, .str _ | .dict _, .list _ =>
    isFalse fun e => PyJson.noConfusion e
/-- Equality of lists of items. -/
def decEqItems : (xs ys : List PyJson) → Decidable (xs = ys)
  | [], [] => isTrue rfl
  | x :: xs, y :: ys =>
    match decEq x y, decEqItems xs ys with
    | isTrue h1, isTrue h2 => isTrue (h1 ▸ h2 ▸ rfl)
    | isFalse h1, _ => isFalse fun e => h1 (List.cons.inj e).1
    | _, isFalse h2 => isFalse fun e => h2 (List.cons.inj e).2
  | [], _ :: _ => isFalse List.noConfusion
  | _ :: _, [] => isFalse List.noConfusion
/-- Equality of lists of fields. -/
def decEqFields : (xs ys : List (List Nat × PyJson)) → Decidable (xs = ys)
  | [], [] => isTrue rfl
  | (k, x) :: xs, (l, y) :: ys =>
    if hk : k = l then
      match decEq x y, decEqFields xs ys with
      | isTrue h1, isTrue h2 => isTrue (hk ▸ h1 ▸ h2 ▸ rfl)
      | isFalse h1, _ => isFalse fun e => h1 (Prod.mk.inj (List.cons.inj e).1).2
      | _, isFalse h2 => isFalse fun e => h2 (List.cons.inj e).2
    else isFalse fun e => hk (Prod.mk.inj (List.cons.inj e).1).1
  | [], _ :: _ => isFalse List.noConfusion
  | _ :: _, [] => isFalse List.noConfusion
end

instance : DecidableEq PyJson := decEq

/-- `dict.get(key)`: the value of the first field with that key. -/
def get? (fields : List (List Nat × PyJson)) (key : List Nat) : Option PyJson :=
  (fields.find? (·.1 = key)).map (·.2)

end PyJson

namespace Json

open Codecs

/-! ## `json.dumps` -/

/-- `Py_hexdigits`, lowercase. -/
def hexDigit (n : Nat) : Nat := if n < 10 then 0x30 + n else 0x57 + n

/-- The escape `\uXXXX` of a code unit below `0x10000`. -/
def uEscape (c : Nat) : List Nat :=
  [0x5C, 0x75, hexDigit (c / 0x1000 % 16), hexDigit (c / 0x100 % 16), hexDigit (c / 0x10 % 16),
    hexDigit (c % 16)]

/-- `ascii_escape_unichar` behind `S_CHAR`: a printable ASCII code point other than `"` and `\`
stands for itself. `"`, `\` and the five control characters `\b \f \n \r \t` get their short
escapes. Everything else is `\uXXXX`, and a code point past `0xFFFF` is written as its surrogate
pair. -/
def escapeChar (c : Nat) : List Nat :=
  if 0x20 ≤ c ∧ c ≤ 0x7E ∧ c ≠ 0x22 ∧ c ≠ 0x5C then [c]
  else if c = 0x22 then [0x5C, 0x22]
  else if c = 0x5C then [0x5C, 0x5C]
  else if c = 0x08 then [0x5C, 0x62]
  else if c = 0x0C then [0x5C, 0x66]
  else if c = 0x0A then [0x5C, 0x6E]
  else if c = 0x0D then [0x5C, 0x72]
  else if c = 0x09 then [0x5C, 0x74]
  else if 0x10000 ≤ c then
    uEscape (0xD800 + (c - 0x10000) / 0x400) ++ uEscape (0xDC00 + (c - 0x10000) % 0x400)
  else uEscape c

/-- `py_encode_basestring_ascii`: a quoted, escaped string. -/
def encodeString (s : List Nat) : List Nat := 0x22 :: s.flatMap escapeChar ++ [0x22]

/-- The decimal digits of `n` in front of `ds`, as `toDigitsCore` builds them; `fuel` bounds their
number. -/
def decimalCore : Nat → Nat → List Nat → List Nat
  | 0, _, ds => ds
  | fuel + 1, n, ds =>
    if n < 10 then (0x30 + n) :: ds else decimalCore fuel (n / 10) ((0x30 + n % 10) :: ds)

/-- `int.__repr__` of a natural number. -/
def decimal (n : Nat) : List Nat := decimalCore (n + 1) n []

/-- `int.__repr__`. -/
def intRepr : Int → List Nat
  | .ofNat n => decimal n
  | .negSucc n => 0x2D :: decimal (n + 1)

mutual
/-- The text of `json.dumps(v)`. -/
def render : PyJson → List Nat
  | .null => [0x6E, 0x75, 0x6C, 0x6C]
  | .bool true => [0x74, 0x72, 0x75, 0x65]
  | .bool false => [0x66, 0x61, 0x6C, 0x73, 0x65]
  | .int n => intRepr n
  | .str s => encodeString s
  | .list [] => [0x5B, 0x5D]
  | .list (v :: vs) => 0x5B :: render v ++ renderItems vs ++ [0x5D]
  | .dict [] => [0x7B, 0x7D]
  | .dict ((k, v) :: fs) =>
    0x7B :: encodeString k ++ 0x3A :: 0x20 :: render v ++ renderFields fs ++ [0x7D]
/-- `", " item` for each further item of a list. -/
def renderItems : List PyJson → List Nat
  | [] => []
  | v :: vs => 0x2C :: 0x20 :: render v ++ renderItems vs
/-- `", " key ": " value` for each further field of a dict. -/
def renderFields : List (List Nat × PyJson) → List Nat
  | [] => []
  | (k, v) :: fs => 0x2C :: 0x20 :: encodeString k ++ 0x3A :: 0x20 :: render v ++ renderFields fs
end

/-- The limit `sys.int_info.default_max_str_digits` on the digits `int.__repr__` and `int()` take. -/
def maxStrDigits : Nat := 4300

mutual
/-- Every `int` in the value has at most `maxStrDigits` digits. -/
def intsFit : PyJson → Bool
  | .int n => (decimal n.natAbs).length ≤ maxStrDigits
  | .list vs => itemsFit vs
  | .dict fs => fieldsFit fs
  | _ => true
/-- `intsFit` of every item. -/
def itemsFit : List PyJson → Bool
  | [] => true
  | v :: vs => intsFit v && itemsFit vs
/-- `intsFit` of every field's value. -/
def fieldsFit : List (List Nat × PyJson) → Bool
  | [] => true
  | (_, v) :: fs => intsFit v && fieldsFit fs
end

/-- `json.dumps(v)`: `int.__repr__` raises on an `int` past the digit limit. -/
def dumps (v : PyJson) : Except PyError (List Nat) :=
  if intsFit v then .ok (render v)
  else .error (.valueError ("Exceeds the limit (4300 digits) for integer string conversion; " ++
    "use sys.set_int_max_str_digits() to increase the limit"))

/-! ## `json.loads` -/

/-- `IS_WHITESPACE`: space, tab, line feed, carriage return. -/
def isWhitespace (c : Nat) : Bool := c = 0x20 || c = 0x09 || c = 0x0A || c = 0x0D

/-- Skip whitespace. -/
def skipWs : List Nat → List Nat
  | [] => []
  | c :: rest => if isWhitespace c then skipWs rest else c :: rest

/-- A decimal digit. -/
def isDigit (c : Nat) : Bool := 0x30 ≤ c && c ≤ 0x39

/-- The value of a hex digit of either case. -/
def hexValue (c : Nat) : Option Nat :=
  if 0x30 ≤ c ∧ c ≤ 0x39 then some (c - 0x30)
  else if 0x61 ≤ c ∧ c ≤ 0x66 then some (c - 0x57)
  else if 0x41 ≤ c ∧ c ≤ 0x46 then some (c - 0x37)
  else none

/-- Four hex digits as one code unit. -/
def hex4 (a b c d : Nat) : Option Nat := do
  let a ← hexValue a
  let b ← hexValue b
  let c ← hexValue c
  let d ← hexValue d
  pure (((a * 16 + b) * 16 + c) * 16 + d)

/-- The short escapes `\" \\ \/ \b \f \n \r \t`. -/
def simpleEscape (c : Nat) : Option Nat :=
  if c = 0x22 then some 0x22
  else if c = 0x5C then some 0x5C
  else if c = 0x2F then some 0x2F
  else if c = 0x62 then some 0x08
  else if c = 0x66 then some 0x0C
  else if c = 0x6E then some 0x0A
  else if c = 0x72 then some 0x0D
  else if c = 0x74 then some 0x09
  else none

/-- Put a pending high surrogate on the code points read so far. -/
def flush : Option Nat → List Nat → List Nat
  | none, acc => acc
  | some h, acc => h :: acc

/-- `scanstring_unicode` in strict mode, after the opening quote: the string and what follows its
closing quote. `acc` holds the code points read, last first.

A `\uXXXX` that gives a high surrogate with more than six code points after it is held in
`pending`. If the next escape gives a low surrogate, the two are joined. If it gives anything
else, the high surrogate stands alone and the escape is read as usual. That is the C code's
lookahead with its rewind. -/
def scanString : Option Nat → List Nat → List Nat → Except PyError (List Nat × List Nat)
  | _, [], _ => .error (.jsonDecode "Unterminated string starting at")
  | pending, 0x22 :: rest, acc => .ok ((flush pending acc).reverse, rest)
  | pending, 0x5C :: rest, acc =>
    match rest with
    | [] => .error (.jsonDecode "Unterminated string starting at")
    | 0x75 :: a :: b :: c :: d :: rest' =>
      match hex4 a b c d, rest' with
      | none, _ => .error (.jsonDecode "Invalid \\uXXXX escape")
      | some _, [] => .error (.jsonDecode "Invalid \\uXXXX escape")
      | some u, x :: xs =>
        match pending with
        | some h =>
          if isLowSurrogate u then scanString none (x :: xs) (joinSurrogates h u :: acc)
          else if isHighSurrogate u ∧ 6 < xs.length + 1 then scanString (some u) (x :: xs) (h :: acc)
          else scanString none (x :: xs) (u :: h :: acc)
        | none =>
          if isHighSurrogate u ∧ 6 < xs.length + 1 then scanString (some u) (x :: xs) acc
          else scanString none (x :: xs) (u :: acc)
    | 0x75 :: _ => .error (.jsonDecode "Invalid \\uXXXX escape")
    | c :: rest' =>
      match simpleEscape c with
      | some d => scanString none rest' (d :: flush pending acc)
      | none => .error (.jsonDecode "Invalid \\escape")
  | pending, c :: rest, acc =>
    if c ≤ 0x1F then .error (.jsonDecode "Invalid control character at")
    else scanString none rest (c :: flush pending acc)

/-- The run of digits at the head of `s`, and what follows it. -/
def spanDigits : List Nat → List Nat × List Nat
  | [] => ([], [])
  | c :: rest =>
    if isDigit c then match spanDigits rest with | (ds, r) => (c :: ds, r) else ([], c :: rest)

/-- The value of a run of digits, as `int(digits)` reads it. -/
def digitsValue (ds : List Nat) : Nat := ds.foldl (fun acc d => acc * 10 + (d - 0x30)) 0

/-- `_match_number_unicode`'s test after the integer digits: a `.` with a digit after it, or an
`e`/`E` with an optional sign and then a digit, makes the number a float. -/
def startsFloatPart : List Nat → Bool
  | 0x2E :: d :: _ => isDigit d
  | e :: s :: d :: _ =>
    (e = 0x65 || e = 0x45) && (if s = 0x2B || s = 0x2D then isDigit d else isDigit s)
  | [e, d] => (e = 0x65 || e = 0x45) && isDigit d
  | _ => false

/-- The end of `_match_number_unicode` for the digits read: a float part, or the `int` built by
`PyLong_FromString`, which raises past the digit limit. -/
def finishNumber (neg : Bool) (digits rest : List Nat) : Except PyError (PyJson × List Nat) :=
  if startsFloatPart rest then .error .floatLiteral
  else if maxStrDigits < digits.length then
    .error (.valueError ("Exceeds the limit (4300 digits) for integer string conversion: " ++
      "value has " ++ toString digits.length ++
      " digits; use sys.set_int_max_str_digits() to increase the limit"))
  else .ok (.int (if neg then -(digitsValue digits : Int) else digitsValue digits), rest)

/-- `_match_number_unicode` after an optional minus: `0` alone, or a run of digits not starting
with `0`; anything else is no value. -/
def matchDigits (neg : Bool) : List Nat → Except PyError (PyJson × List Nat)
  | 0x30 :: rest => finishNumber neg [0x30] rest
  | d :: rest =>
    if 0x31 ≤ d ∧ d ≤ 0x39 then
      match spanDigits rest with | (ds, r) => finishNumber neg (d :: ds) r
    else .error (.jsonDecode "Expecting value")
  | [] => .error (.jsonDecode "Expecting value")

/-- `_match_number_unicode`. -/
def matchNumber : List Nat → Except PyError (PyJson × List Nat)
  | 0x2D :: rest => matchDigits true rest
  | s => matchDigits false s

/-- `PyDict_SetItem`: a key already there keeps its place and takes the new value; a new key goes
last. -/
def dictSet : List (List Nat × PyJson) → List Nat → PyJson → List (List Nat × PyJson)
  | [], k, v => [(k, v)]
  | (k', v') :: fs, k, v => if k' = k then (k, v) :: fs else (k', v') :: dictSet fs k v

/-- The named constants `scan_once_unicode` checks after their first character: `null`, `true`,
`false`, and the float constants `NaN`, `Infinity` and `-Infinity`. `none` when `s` starts with none
of them, and the scanner goes on to a number. -/
def matchConstant (s : List Nat) : Option (Except PyError (PyJson × List Nat)) :=
  if s.take 4 = [0x6E, 0x75, 0x6C, 0x6C] then some (.ok (.null, s.drop 4))
  else if s.take 4 = [0x74, 0x72, 0x75, 0x65] then some (.ok (.bool true, s.drop 4))
  else if s.take 5 = [0x66, 0x61, 0x6C, 0x73, 0x65] then some (.ok (.bool false, s.drop 5))
  else if s.take 3 = [0x4E, 0x61, 0x4E] ∨ s.take 8 = [0x49, 0x6E, 0x66, 0x69, 0x6E, 0x69, 0x74, 0x79] ∨
      s.take 9 = [0x2D, 0x49, 0x6E, 0x66, 0x69, 0x6E, 0x69, 0x74, 0x79] then some (.error .floatLiteral)
  else none

mutual
/-- `scan_once_unicode`: the value at the head of `s` and what follows it. It switches on the
first character; a named constant it does not find falls through to a number. -/
def scanOnce : Nat → List Nat → Except PyError (PyJson × List Nat)
  | 0, _ => .error .outOfFuel
  | _ + 1, 0x22 :: rest =>
    match scanString none rest [] with
    | .ok (str, rest) => .ok (.str str, rest)
    | .error e => .error e
  | fuel + 1, 0x7B :: rest =>
    match skipWs rest with
    | 0x7D :: rest => .ok (.dict [], rest)
    | rest => parseObject fuel rest []
  | fuel + 1, 0x5B :: rest =>
    match skipWs rest with
    | 0x5D :: rest => .ok (.list [], rest)
    | rest => parseArray fuel rest []
  | _ + 1, s =>
    match matchConstant s with
    | some r => r
    | none => matchNumber s
/-- `_parse_object_unicode`'s loop at a key, with the fields read so far. -/
def parseObject : Nat → List Nat → List (List Nat × PyJson) → Except PyError (PyJson × List Nat)
  | 0, _, _ => .error .outOfFuel
  | fuel + 1, 0x22 :: rest, acc =>
    match scanString none rest [] with
    | .error e => .error e
    | .ok (key, rest) =>
      match skipWs rest with
      | 0x3A :: rest =>
        match scanOnce fuel (skipWs rest) with
        | .error e => .error e
        | .ok (v, rest) =>
          match skipWs rest with
          | 0x7D :: rest => .ok (.dict (dictSet acc key v), rest)
          | 0x2C :: rest => parseObject fuel (skipWs rest) (dictSet acc key v)
          | _ => .error (.jsonDecode "Expecting ',' delimiter")
      | _ => .error (.jsonDecode "Expecting ':' delimiter")
  | _ + 1, _, _ => .error (.jsonDecode "Expecting property name enclosed in double quotes")
/-- `_parse_array_unicode`'s loop at an item, with the items read so far. -/
def parseArray : Nat → List Nat → List PyJson → Except PyError (PyJson × List Nat)
  | 0, _, _ => .error .outOfFuel
  | fuel + 1, s, acc =>
    match scanOnce fuel s with
    | .error e => .error e
    | .ok (v, rest) =>
      match skipWs rest with
      | 0x5D :: rest => .ok (.list (acc ++ [v]), rest)
      | 0x2C :: rest => parseArray fuel (skipWs rest) (acc ++ [v])
      | _ => .error (.jsonDecode "Expecting ',' delimiter")
end

/-- `JSONDecoder.decode`: whitespace, one value, whitespace, and nothing more. -/
def decode (s : List Nat) : Except PyError PyJson :=
  match scanOnce (s.length + 1) (skipWs s) with
  | .error e => .error e
  | .ok (v, rest) => if skipWs rest = [] then .ok v else .error (.jsonDecode "Extra data")

/-- `json.loads(s)` of a `str`: a leading byte-order mark is refused. -/
def loads (s : List Nat) : Except PyError PyJson :=
  if s.head? = some 0xFEFF then .error (.jsonDecode "Unexpected UTF-8 BOM (decode using utf-8-sig)")
  else decode s

/-- `json.loads(b)` of `bytes`: decoded with the detected encoding under `surrogatepass`. -/
def loadsBytes (b : List UInt8) : Except PyError PyJson :=
  match bytesDecode (detectEncoding b) b with
  | .error e => .error e
  | .ok s => decode s

end Json

end RcsMessaging
