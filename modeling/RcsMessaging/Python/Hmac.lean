import RcsMessaging.Python.Json

/-!
# `Python.Hmac` — `hashlib.sha256`, `hmac.new(...).hexdigest()` and `hmac.compare_digest`

`validate_webhook_signature` computes
`hmac.new(secret.encode(), payload, hashlib.sha256).hexdigest()` and compares it to the header with
`hmac.compare_digest`. SHA-256 here works on 32-bit words kept as natural numbers below `2 ^ 32`,
each sum reduced explicitly. HMAC hashes a key longer than a block first and pads it with zeros to
64 bytes; then it hashes the outer pad, followed by the hash of the inner pad and the message.

`compare_digest` of two `str` refuses a non-ASCII one with `TypeError`.
-/

namespace RcsMessaging

namespace Sha256

/-- The 64 round constants. -/
def roundConstants : List Nat := [
  0x428a2f98, 0x71374491, 0xb5c0fbcf, 0xe9b5dba5, 0x3956c25b, 0x59f111f1, 0x923f82a4, 0xab1c5ed5,
  0xd807aa98, 0x12835b01, 0x243185be, 0x550c7dc3, 0x72be5d74, 0x80deb1fe, 0x9bdc06a7, 0xc19bf174,
  0xe49b69c1, 0xefbe4786, 0x0fc19dc6, 0x240ca1cc, 0x2de92c6f, 0x4a7484aa, 0x5cb0a9dc, 0x76f988da,
  0x983e5152, 0xa831c66d, 0xb00327c8, 0xbf597fc7, 0xc6e00bf3, 0xd5a79147, 0x06ca6351, 0x14292967,
  0x27b70a85, 0x2e1b2138, 0x4d2c6dfc, 0x53380d13, 0x650a7354, 0x766a0abb, 0x81c2c92e, 0x92722c85,
  0xa2bfe8a1, 0xa81a664b, 0xc24b8b70, 0xc76c51a3, 0xd192e819, 0xd6990624, 0xf40e3585, 0x106aa070,
  0x19a4c116, 0x1e376c08, 0x2748774c, 0x34b0bcb5, 0x391c0cb3, 0x4ed8aa4a, 0x5b9cca4f, 0x682e6ff3,
  0x748f82ee, 0x78a5636f, 0x84c87814, 0x8cc70208, 0x90befffa, 0xa4506ceb, 0xbef9a3f7, 0xc67178f2]

/-- The initial hash value. -/
def initialHash : List Nat :=
  [0x6a09e667, 0xbb67ae85, 0x3c6ef372, 0xa54ff53a, 0x510e527f, 0x9b05688c, 0x1f83d9ab, 0x5be0cd19]

/-- Rotate a 32-bit word right. -/
def rotr (x n : Nat) : Nat := (x >>> n ||| x <<< (32 - n)) % 0x100000000

def bigSigma0 (x : Nat) : Nat := rotr x 2 ^^^ rotr x 13 ^^^ rotr x 22
def bigSigma1 (x : Nat) : Nat := rotr x 6 ^^^ rotr x 11 ^^^ rotr x 25
def smallSigma0 (x : Nat) : Nat := rotr x 7 ^^^ rotr x 18 ^^^ x >>> 3
def smallSigma1 (x : Nat) : Nat := rotr x 17 ^^^ rotr x 19 ^^^ x >>> 10

/-- The last sixteen schedule words, oldest first. -/
structure Window where
  w0 : Nat
  w1 : Nat
  w2 : Nat
  w3 : Nat
  w4 : Nat
  w5 : Nat
  w6 : Nat
  w7 : Nat
  w8 : Nat
  w9 : Nat
  w10 : Nat
  w11 : Nat
  w12 : Nat
  w13 : Nat
  w14 : Nat
  w15 : Nat

/-- The window of a block's sixteen words. -/
def Window.ofList (w : List Nat) : Window :=
  ⟨w.getD 0 0, w.getD 1 0, w.getD 2 0, w.getD 3 0, w.getD 4 0, w.getD 5 0, w.getD 6 0, w.getD 7 0,
    w.getD 8 0, w.getD 9 0, w.getD 10 0, w.getD 11 0, w.getD 12 0, w.getD 13 0, w.getD 14 0,
    w.getD 15 0⟩

/-- The `n` schedule words after a window. -/
def extend : Nat → Window → List Nat
  | 0, _ => []
  | n + 1, w =>
    let x := (smallSigma1 w.w14 + w.w9 + smallSigma0 w.w1 + w.w0) % 0x100000000
    x :: extend n ⟨w.w1, w.w2, w.w3, w.w4, w.w5, w.w6, w.w7, w.w8, w.w9, w.w10, w.w11, w.w12,
      w.w13, w.w14, w.w15, x⟩

/-- The working variables `a .. h`. -/
structure Regs where
  a : Nat
  b : Nat
  c : Nat
  d : Nat
  e : Nat
  f : Nat
  g : Nat
  h : Nat

/-- One round, with its constant and schedule word. -/
def compressRound (r : Regs) (kw : Nat × Nat) : Regs :=
  let t1 := r.h + bigSigma1 r.e + (r.e &&& r.f ^^^ (r.e ^^^ 0xffffffff) &&& r.g) + kw.1 + kw.2
  let t2 := bigSigma0 r.a + (r.a &&& r.b ^^^ r.a &&& r.c ^^^ r.b &&& r.c)
  ⟨(t1 + t2) % 0x100000000, r.a, r.b, r.c, (r.d + t1) % 0x100000000, r.e, r.f, r.g⟩

/-- The big-endian words of a block. -/
def words : List UInt8 → List Nat
  | a :: b :: c :: d :: rest =>
    (a.toNat * 0x1000000 + b.toNat * 0x10000 + c.toNat * 0x100 + d.toNat) :: words rest
  | _ => []

/-- The compression of one 64-byte block into the hash value. -/
def compress (hv : List Nat) (block : List UInt8) : List Nat :=
  let w := words block
  let r := (roundConstants.zip (w ++ extend 48 (Window.ofList w))).foldl compressRound
    ⟨hv.getD 0 0, hv.getD 1 0, hv.getD 2 0, hv.getD 3 0, hv.getD 4 0, hv.getD 5 0, hv.getD 6 0,
      hv.getD 7 0⟩
  List.zipWith (fun x y => (x + y) % 0x100000000) hv [r.a, r.b, r.c, r.d, r.e, r.f, r.g, r.h]

/-- The 64-byte blocks of a padded message; `fuel` bounds their number. -/
def blocks : Nat → List UInt8 → List (List UInt8)
  | 0, _ => []
  | fuel + 1, m => if m = [] then [] else m.take 64 :: blocks fuel (m.drop 64)

/-- The `k` low bytes of `n`, big-endian. -/
def beBytes (n : Nat) : Nat → List UInt8
  | 0 => []
  | k + 1 => beBytes (n / 256) k ++ [UInt8.ofNat (n % 256)]

/-- The padding: a one bit, zeros up to 56 bytes mod 64, the bit length in eight bytes. -/
def pad (m : List UInt8) : List UInt8 :=
  m ++ [0x80] ++ List.replicate ((119 - m.length % 64) % 64) 0 ++ beBytes (8 * m.length) 8

end Sha256

open Sha256 in
/-- `hashlib.sha256(m).digest()`. -/
def sha256 (m : List UInt8) : List UInt8 :=
  ((blocks (pad m).length (pad m)).foldl compress initialHash).flatMap fun x =>
    [UInt8.ofNat (x / 0x1000000), UInt8.ofNat (x / 0x10000), UInt8.ofNat (x / 0x100), UInt8.ofNat x]

/-- `hmac.new(key, msg, hashlib.sha256).digest()`. -/
def hmacSha256 (key msg : List UInt8) : List UInt8 :=
  let k := if 64 < key.length then sha256 key else key
  let k := k ++ List.replicate (64 - k.length) 0
  sha256 (k.map (· ^^^ 0x5c) ++ sha256 (k.map (· ^^^ 0x36) ++ msg))

/-- `.hexdigest()`: two lowercase hex digits a byte. -/
def hexdigest (d : List UInt8) : List Nat :=
  d.flatMap fun b => [Json.hexDigit (b.toNat / 16), Json.hexDigit (b.toNat % 16)]

/-- A hex digest is ASCII text. -/
theorem hexdigest_ascii (d : List UInt8) : ∀ c ∈ hexdigest d, c < 0x80 := by
  have h : ∀ n < 16, Json.hexDigit n < 0x80 := fun n hn => by unfold Json.hexDigit; split <;> omega
  simp only [hexdigest, List.mem_flatMap, List.mem_cons, List.mem_singleton, List.not_mem_nil, or_false]
  rintro c ⟨b, -, rfl | rfl⟩
  · exact h _ (Nat.div_lt_of_lt_mul b.val.isLt)
  · exact h _ (Nat.mod_lt _ (by decide))

/-- `hmac.compare_digest(a, b)` of two `str`: equality, or `TypeError` when one is not ASCII. -/
def compareDigest (a b : List Nat) : Except PyError Bool :=
  if a.all (· < 0x80) && b.all (· < 0x80) then .ok (a = b)
  else .error (.typeError "comparing strings with non-ASCII characters is not supported")

set_option maxRecDepth 100000 in
/-- The digest of `abc`. -/
example : hexdigest (sha256 (Codecs.asciiBytes (Codecs.text "abc"))) =
    Codecs.text "ba7816bf8f01cfea414140de5dae2223b00361a396177a9cb410ff61f20015ad" := by
  decide

end RcsMessaging
