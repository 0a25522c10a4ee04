/-!
# ServiceTunnel.Digest.Sha256

**The SHA-256 digest** of a list of bytes, and its hexadecimal form. A digest always has 32 bytes
(`length_sha256`), so its hexadecimal form has 64 digits (`length_hexChars`).
-/

namespace ServiceTunnel.Digest

/-! ### Words and registers -/

/-- The eight working words. -/
structure Registers where
  a : UInt32
  b : UInt32
  c : UInt32
  d : UInt32
  e : UInt32
  f : UInt32
  g : UInt32
  h : UInt32
deriving DecidableEq, Repr

namespace Registers

/-- The words before the first block. -/
def initial : Registers :=
  ⟨0x6a09e667, 0xbb67ae85, 0x3c6ef372, 0xa54ff53a, 0x510e527f, 0x9b05688c, 0x1f83d9ab, 0x5be0cd19⟩

/-- Wordwise sum. -/
def add (x y : Registers) : Registers :=
  ⟨x.a + y.a, x.b + y.b, x.c + y.c, x.d + y.d, x.e + y.e, x.f + y.f, x.g + y.g, x.h + y.h⟩

end Registers

/-- One constant for each of the 64 rounds. -/
def roundConstants : List UInt32 := [
  0x428a2f98, 0x71374491, 0xb5c0fbcf, 0xe9b5dba5, 0x3956c25b, 0x59f111f1, 0x923f82a4, 0xab1c5ed5,
  0xd807aa98, 0x12835b01, 0x243185be, 0x550c7dc3, 0x72be5d74, 0x80deb1fe, 0x9bdc06a7, 0xc19bf174,
  0xe49b69c1, 0xefbe4786, 0x0fc19dc6, 0x240ca1cc, 0x2de92c6f, 0x4a7484aa, 0x5cb0a9dc, 0x76f988da,
  0x983e5152, 0xa831c66d, 0xb00327c8, 0xbf597fc7, 0xc6e00bf3, 0xd5a79147, 0x06ca6351, 0x14292967,
  0x27b70a85, 0x2e1b2138, 0x4d2c6dfc, 0x53380d13, 0x650a7354, 0x766a0abb, 0x81c2c92e, 0x92722c85,
  0xa2bfe8a1, 0xa81a664b, 0xc24b8b70, 0xc76c51a3, 0xd192e819, 0xd6990624, 0xf40e3585, 0x106aa070,
  0x19a4c116, 0x1e376c08, 0x2748774c, 0x34b0bcb5, 0x391c0cb3, 0x4ed8aa4a, 0x5b9cca4f, 0x682e6ff3,
  0x748f82ee, 0x78a5636f, 0x84c87814, 0x8cc70208, 0x90befffa, 0xa4506ceb, 0xbef9a3f7, 0xc67178f2]

/-- Rotation to the right by `n` bits, `0 < n < 32`. -/
def rotateRight (w n : UInt32) : UInt32 := (w >>> n) ||| (w <<< (32 - n))

/-- Four bytes, the most significant first. -/
def wordBytes (w : UInt32) : List UInt8 :=
  [(w >>> 24).toUInt8, (w >>> 16).toUInt8, (w >>> 8).toUInt8, w.toUInt8]

/-- The words of a list of bytes, the most significant byte of each first. -/
def wordsOfBytes : List UInt8 → List UInt32
  | p :: q :: r :: s :: rest =>
    ((p.toUInt32 <<< 24) ||| (q.toUInt32 <<< 16) ||| (r.toUInt32 <<< 8) ||| s.toUInt32)
      :: wordsOfBytes rest
  | _ => []

/-! ### Blocks -/

/-- The message, a one bit, zeros, and the length in bits: a multiple of 64 bytes. -/
def pad (message : List UInt8) : List UInt8 :=
  let bits := 8 * message.length
  let size : List UInt8 := (List.range 8).reverse.map fun i => UInt8.ofNat (bits >>> (8 * i))
  message ++ 0x80 :: (List.replicate ((119 - message.length % 64) % 64) 0 ++ size)

/-- The next word of a schedule whose words are listed latest first. -/
def nextWord (latest : List UInt32) : UInt32 :=
  let w2 := latest.getD 1 0
  let w15 := latest.getD 14 0
  let s0 := rotateRight w15 7 ^^^ rotateRight w15 18 ^^^ (w15 >>> 3)
  let s1 := rotateRight w2 17 ^^^ rotateRight w2 19 ^^^ (w2 >>> 10)
  latest.getD 15 0 + s0 + latest.getD 6 0 + s1

/-- Extends a schedule, latest word first, by `n` words. -/
def extendSchedule : Nat → List UInt32 → List UInt32
  | 0, latest => latest
  | n + 1, latest => extendSchedule n (nextWord latest :: latest)

/-- One round with the sum of its constant and its schedule word. -/
def round (r : Registers) (kw : UInt32) : Registers :=
  let s1 := rotateRight r.e 6 ^^^ rotateRight r.e 11 ^^^ rotateRight r.e 25
  let ch := (r.e &&& r.f) ^^^ ((~~~ r.e) &&& r.g)
  let t1 := r.h + s1 + ch + kw
  let s0 := rotateRight r.a 2 ^^^ rotateRight r.a 13 ^^^ rotateRight r.a 22
  let maj := (r.a &&& r.b) ^^^ (r.a &&& r.c) ^^^ (r.b &&& r.c)
  ⟨t1 + (s0 + maj), r.a, r.b, r.c, r.d + t1, r.e, r.f, r.g⟩

/-- Takes one block of 64 bytes into the registers. -/
def compress (r : Registers) (block : List UInt8) : Registers :=
  let schedule := (extendSchedule 48 (wordsOfBytes block).reverse).reverse
  r.add ((List.zipWith (· + ·) roundConstants schedule).foldl round r)

/-- Takes `n` blocks into the registers. -/
def compressBlocks : Nat → Registers → List UInt8 → Registers
  | 0, r, _ => r
  | n + 1, r, bytes => compressBlocks n (compress r (bytes.take 64)) (bytes.drop 64)

/-- The bytes of the registers in order. -/
def Registers.bytes (r : Registers) : List UInt8 :=
  [r.a, r.b, r.c, r.d, r.e, r.f, r.g, r.h].flatMap wordBytes

/-- The SHA-256 digest. -/
def sha256 (message : List UInt8) : List UInt8 :=
  let padded := pad message
  (compressBlocks (padded.length / 64) .initial padded).bytes

@[simp] theorem length_sha256 (message : List UInt8) : (sha256 message).length = 32 := rfl

/-! ### Hexadecimal form -/

/-- The lower-case hexadecimal digit of `n < 16`. -/
def hexDigit (n : Nat) : Char := Char.ofNat (if n < 10 then 0x30 + n else 0x57 + n)

/-- Two digits for each byte. -/
def hexChars (bytes : List UInt8) : List Char :=
  bytes.flatMap fun b => [hexDigit (b.toNat / 16), hexDigit (b.toNat % 16)]

@[simp] theorem length_hexChars (bytes : List UInt8) :
    (hexChars bytes).length = 2 * bytes.length := by
  induction bytes with
  | nil => rfl
  | cons b rest ih => simp only [hexChars, List.flatMap_cons, List.length_append,
      List.length_cons, List.length_nil] at ih ⊢; omega

/-- The digits of the SHA-256 digest of a text in UTF-8. -/
def sha256Hex (text : String) : List Char := hexChars (sha256 text.toUTF8.data.toList)

@[simp] theorem length_sha256Hex (text : String) : (sha256Hex text).length = 64 := by
  rw [sha256Hex, length_hexChars, length_sha256]

end ServiceTunnel.Digest
