import Mathlib.Data.List.Basic

/-!
# `Python.Codecs` — bytes and text on the webhook path

The webhook path handles Python text and bytes. Text is a Python `str`: a sequence of code points,
lone surrogates included. Here it is a `List Nat`. Bytes are a `List UInt8`.

`json.loads` of `bytes` picks an encoding with `json.detect_encoding`. It decodes under the
`surrogatepass` error handler, which lets an encoded surrogate through as a code point. This file
holds that decoding and the exceptions the path raises. It also holds two conversions:
`str.encode()` of ASCII text, and the Latin-1 decoding Starlette applies to header bytes.

Every decoder is structurally recursive, so `decide` runs it on a concrete body.
-/

namespace RcsMessaging

/-- The Python exceptions of the webhook path. -/
inductive PyError
  /-- `json.JSONDecodeError(msg, doc, pos)`; the position is left out. -/
  | jsonDecode (msg : String)
  /-- `UnicodeDecodeError` of the named codec. -/
  | unicodeDecode (encoding : String)
  | valueError (msg : String)
  | typeError (msg : String)
  | attributeError (msg : String)
  /-- `WebhookValidationException`. -/
  | webhookValidation (msg : String)
  /-- A float literal (`1.5`, `1e3`, `NaN`, `Infinity`). `json` reads it as a `float`, which this
  model leaves out. -/
  | floatLiteral
  /-- The JSON scanner ran out of fuel. `json.loads` gets enough fuel that it never does. -/
  | outOfFuel
  deriving DecidableEq, Repr

/-- Equality of outcomes, so that a run of the model can be checked by `decide`. -/
instance Except.instDecidableEq {ε α : Type} [DecidableEq ε] [DecidableEq α] :
    DecidableEq (Except ε α)
  | .ok a, .ok b => if h : a = b then isTrue (h ▸ rfl) else isFalse fun e => h (Except.ok.inj e)
  | .error a, .error b =>
    if h : a = b then isTrue (h ▸ rfl) else isFalse fun e => h (Except.error.inj e)
  | .ok _, .error _ | .error _, .ok _ => isFalse fun e => Except.noConfusion e

namespace Codecs

/-- A high surrogate, `0xD800..0xDBFF`. -/
def isHighSurrogate (c : Nat) : Bool := 0xD800 ≤ c && c ≤ 0xDBFF

/-- A low surrogate, `0xDC00..0xDFFF`. -/
def isLowSurrogate (c : Nat) : Bool := 0xDC00 ≤ c && c ≤ 0xDFFF

/-- `Py_UNICODE_JOIN_SURROGATES`. -/
def joinSurrogates (hi lo : Nat) : Nat := 0x10000 + (hi - 0xD800) * 0x400 + (lo - 0xDC00)

/-- The encodings `json.detect_encoding` names. -/
inductive Encoding
  | utf8 | utf8Sig | utf16 | utf16be | utf16le | utf32 | utf32be | utf32le
  deriving DecidableEq, Repr

/-- The codec name of an encoding, as a `UnicodeDecodeError` carries it. -/
def Encoding.name : Encoding → String
  | .utf8 => "utf-8"
  | .utf8Sig => "utf-8-sig"
  | .utf16 => "utf-16"
  | .utf16be => "utf-16-be"
  | .utf16le => "utf-16-le"
  | .utf32 => "utf-32"
  | .utf32be => "utf-32-be"
  | .utf32le => "utf-32-le"

/-- `json.detect_encoding(b)`: a byte-order mark first (`b.startswith(...)`), then the pattern of
zero bytes among the first four or two, then UTF-8. -/
def detectEncoding (b : List UInt8) : Encoding :=
  if b.take 4 = [0x00, 0x00, 0xFE, 0xFF] ∨ b.take 4 = [0xFF, 0xFE, 0x00, 0x00] then .utf32
  else if b.take 2 = [0xFE, 0xFF] ∨ b.take 2 = [0xFF, 0xFE] then .utf16
  else if b.take 3 = [0xEF, 0xBB, 0xBF] then .utf8Sig
  else match b with
    | b0 :: b1 :: b2 :: b3 :: _ =>
      if b0 = 0 then (if b1 ≠ 0 then .utf16be else .utf32be)
      else if b1 = 0 then (if b2 ≠ 0 ∨ b3 ≠ 0 then .utf16le else .utf32le)
      else .utf8
    | [b0, b1] => if b0 = 0 then .utf16be else if b1 = 0 then .utf16le else .utf8
    | _ => .utf8

/-- A UTF-8 continuation byte, `0x80..0xBF`. -/
def isCont (b : UInt8) : Bool := 0x80 ≤ b.toNat && b.toNat ≤ 0xBF

/-- The second byte a three-byte lead allows: `E0` needs `A0..BF` (no overlong form), and `ED`
needs `80..9F` (no surrogate) unless `surrogatepass` is on. -/
def threeByteSecond (pass : Bool) (b0 b1 : UInt8) : Bool :=
  if b0 = 0xE0 then 0xA0 ≤ b1.toNat && b1.toNat ≤ 0xBF
  else if b0 = 0xED ∧ pass = false then 0x80 ≤ b1.toNat && b1.toNat ≤ 0x9F
  else isCont b1

/-- The second byte a four-byte lead allows: `F0` needs `90..BF`, `F4` needs `80..8F`. -/
def fourByteSecond (b0 b1 : UInt8) : Bool :=
  if b0 = 0xF0 then 0x90 ≤ b1.toNat && b1.toNat ≤ 0xBF
  else if b0 = 0xF4 then 0x80 ≤ b1.toNat && b1.toNat ≤ 0x8F
  else isCont b1

/-- Prepend a decoded code point to the rest of a decoding. -/
def consOk (c : Nat) : Except PyError (List Nat) → Except PyError (List Nat)
  | .ok s => .ok (c :: s)
  | .error e => .error e

/-- `bytes.decode("utf-8")`, with the `surrogatepass` error handler when `pass` holds. -/
def utf8Decode (pass : Bool) : List UInt8 → Except PyError (List Nat)
  | [] => .ok []
  | b0 :: rest =>
    if b0.toNat < 0x80 then consOk b0.toNat (utf8Decode pass rest)
    else match rest with
      | [] => .error (.unicodeDecode "utf-8")
      | b1 :: rest1 =>
        if 0xC2 ≤ b0.toNat ∧ b0.toNat ≤ 0xDF ∧ isCont b1 then
          consOk ((b0.toNat % 0x20) * 0x40 + b1.toNat % 0x40) (utf8Decode pass rest1)
        else match rest1 with
          | [] => .error (.unicodeDecode "utf-8")
          | b2 :: rest2 =>
            if 0xE0 ≤ b0.toNat ∧ b0.toNat ≤ 0xEF ∧ threeByteSecond pass b0 b1 ∧ isCont b2 then
              consOk ((b0.toNat % 0x10) * 0x1000 + (b1.toNat % 0x40) * 0x40 + b2.toNat % 0x40)
                (utf8Decode pass rest2)
            else match rest2 with
              | [] => .error (.unicodeDecode "utf-8")
              | b3 :: rest3 =>
                if 0xF0 ≤ b0.toNat ∧ b0.toNat ≤ 0xF4 ∧ fourByteSecond b0 b1 ∧ isCont b2 ∧
                    isCont b3 then
                  consOk ((b0.toNat % 0x08) * 0x40000 + (b1.toNat % 0x40) * 0x1000 +
                    (b2.toNat % 0x40) * 0x40 + b3.toNat % 0x40) (utf8Decode pass rest3)
                else .error (.unicodeDecode "utf-8")

/-- Join each high surrogate unit to a low one right after it. Under `surrogatepass`, a surrogate
unit left alone stands for itself. `pending` holds a high unit not yet placed. -/
def joinUnits : Option Nat → List Nat → List Nat
  | none, [] => []
  | some h, [] => [h]
  | none, u :: rest => if isHighSurrogate u then joinUnits (some u) rest else u :: joinUnits none rest
  | some h, u :: rest =>
    if isLowSurrogate u then joinSurrogates h u :: joinUnits none rest
    else if isHighSurrogate u then h :: joinUnits (some u) rest
    else h :: u :: joinUnits none rest

/-- The 16-bit code units of UTF-16 bytes, big- or little-endian; an odd byte at the end is
truncated data. -/
def utf16Units (enc : Encoding) (be : Bool) : List UInt8 → Except PyError (List Nat)
  | [] => .ok []
  | [_] => .error (.unicodeDecode enc.name)
  | a :: b :: rest =>
    consOk (if be then a.toNat * 0x100 + b.toNat else b.toNat * 0x100 + a.toNat)
      (utf16Units enc be rest)

/-- The code points of UTF-32 bytes, big- or little-endian: a value past `0x10FFFF` or a partial
group at the end raises, a surrogate passes. -/
def utf32Decode (enc : Encoding) (be : Bool) : List UInt8 → Except PyError (List Nat)
  | [] => .ok []
  | a :: b :: c :: d :: rest =>
    let v := if be then ((a.toNat * 0x100 + b.toNat) * 0x100 + c.toNat) * 0x100 + d.toNat
      else ((d.toNat * 0x100 + c.toNat) * 0x100 + b.toNat) * 0x100 + a.toNat
    if v ≤ 0x10FFFF then consOk v (utf32Decode enc be rest) else .error (.unicodeDecode enc.name)
  | _ => .error (.unicodeDecode enc.name)

/-- `bytes.decode(encoding, "surrogatepass")` for the encodings `detect_encoding` names. The
`utf-8-sig`, `utf-16` and `utf-32` codecs drop the byte-order mark they were chosen for and read its
byte order. -/
def bytesDecode (enc : Encoding) (b : List UInt8) : Except PyError (List Nat) :=
  match enc with
  | .utf8 => utf8Decode true b
  | .utf8Sig => utf8Decode true (b.drop 3)
  | .utf16 => (utf16Units enc (b.take 2 = [0xFE, 0xFF]) (b.drop 2)).map (joinUnits none)
  | .utf16be => (utf16Units enc true b).map (joinUnits none)
  | .utf16le => (utf16Units enc false b).map (joinUnits none)
  | .utf32 => utf32Decode enc (b.take 4 = [0x00, 0x00, 0xFE, 0xFF]) (b.drop 4)
  | .utf32be => utf32Decode enc true b
  | .utf32le => utf32Decode enc false b

/-- `str.encode()` of ASCII text: each code point is its byte. -/
def asciiBytes (s : List Nat) : List UInt8 := s.map UInt8.ofNat

/-- Latin-1 decoding, as Starlette reads header bytes: each byte is its code point. -/
def latin1 (b : List UInt8) : List Nat := b.map UInt8.toNat

/-- A Lean string literal as Python text. -/
def text (s : String) : List Nat := s.toList.map Char.toNat

/-! ## Reading ASCII back -/

theorem utf8Decode_ascii_cons (pass : Bool) {b : UInt8} (h : b.toNat < 0x80) (rest : List UInt8) :
    utf8Decode pass (b :: rest) = consOk b.toNat (utf8Decode pass rest) := by
  rw [utf8Decode.eq_def]
  exact if_pos h

/-- ASCII text encoded and decoded again as UTF-8 is the same text. -/
theorem utf8Decode_asciiBytes (pass : Bool) : ∀ s : List Nat, (∀ c ∈ s, c < 0x80) →
    utf8Decode pass (asciiBytes s) = .ok s
  | [], _ => rfl
  | c :: s, h => by
    have hc : (UInt8.ofNat c).toNat = c :=
      UInt8.toNat_ofNat_of_lt (by have := h c (.head _); unfold UInt8.size; omega)
    have ih := utf8Decode_asciiBytes pass s fun d hd => h d (.tail _ hd)
    show utf8Decode pass (UInt8.ofNat c :: asciiBytes s) = _
    have hlt : (UInt8.ofNat c).toNat < 0x80 := hc.symm ▸ h c (.head _)
    rw [utf8Decode_ascii_cons pass hlt, ih, hc]
    rfl

/-- Latin-1 reads back the bytes of text below `0x100`. -/
theorem latin1_asciiBytes : ∀ {s : List Nat}, (∀ c ∈ s, c < 0x100) → latin1 (asciiBytes s) = s
  | [], _ => rfl
  | c :: s, h => by
    show (UInt8.ofNat c).toNat :: latin1 (asciiBytes s) = c :: s
    rw [UInt8.toNat_ofNat_of_lt (h c (.head _)), latin1_asciiBytes fun d hd => h d (.tail _ hd)]

end Codecs

end RcsMessaging
