/-
# SHA-256

`hashlib.sha256`, computed as the standard describes it: the message is padded to a
multiple of 64 octets, each block is expanded to 64 words, and 64 rounds mix them
into the chaining value.

* `sha256Hex`        : `hashlib.sha256(b).hexdigest()`;
* `length_sha256Hex` : it has 64 characters;
* `isHexLower_of_mem_sha256Hex` : all of them lower-case hexadecimal.
-/
import SafeAgent.PyText

namespace Sha256

open PyText

/-- The chaining value: eight 32-bit words. -/
structure Chain where
  a : UInt32
  b : UInt32
  c : UInt32
  d : UInt32
  e : UInt32
  f : UInt32
  g : UInt32
  h : UInt32
  deriving DecidableEq, Repr

/-- The value before the first block. -/
def initial : Chain :=
  { a := 0x6a09e667, b := 0xbb67ae85, c := 0x3c6ef372, d := 0xa54ff53a,
    e := 0x510e527f, f := 0x9b05688c, g := 0x1f83d9ab, h := 0x5be0cd19 }

/-- One constant for each round. -/
def roundConstants : List UInt32 :=
  [0x428a2f98, 0x71374491, 0xb5c0fbcf, 0xe9b5dba5, 0x3956c25b, 0x59f111f1, 0x923f82a4, 0xab1c5ed5,
   0xd807aa98, 0x12835b01, 0x243185be, 0x550c7dc3, 0x72be5d74, 0x80deb1fe, 0x9bdc06a7, 0xc19bf174,
   0xe49b69c1, 0xefbe4786, 0x0fc19dc6, 0x240ca1cc, 0x2de92c6f, 0x4a7484aa, 0x5cb0a9dc, 0x76f988da,
   0x983e5152, 0xa831c66d, 0xb00327c8, 0xbf597fc7, 0xc6e00bf3, 0xd5a79147, 0x06ca6351, 0x14292967,
   0x27b70a85, 0x2e1b2138, 0x4d2c6dfc, 0x53380d13, 0x650a7354, 0x766a0abb, 0x81c2c92e, 0x92722c85,
   0xa2bfe8a1, 0xa81a664b, 0xc24b8b70, 0xc76c51a3, 0xd192e819, 0xd6990624, 0xf40e3585, 0x106aa070,
   0x19a4c116, 0x1e376c08, 0x2748774c, 0x34b0bcb5, 0x391c0cb3, 0x4ed8aa4a, 0x5b9cca4f, 0x682e6ff3,
   0x748f82ee, 0x78a5636f, 0x84c87814, 0x8cc70208, 0x90befffa, 0xa4506ceb, 0xbef9a3f7, 0xc67178f2]

/-- Rotation to the right by `n` bits. -/
def rotr (x n : UInt32) : UInt32 := (x >>> n) ||| (x <<< (32 - n))

/-- One round, with its constant and its message word. -/
def round (s : Chain) (k w : UInt32) : Chain :=
  let t1 := s.h + (rotr s.e 6 ^^^ rotr s.e 11 ^^^ rotr s.e 25) +
    ((s.e &&& s.f) ^^^ (~~~s.e &&& s.g)) + k + w
  let t2 := (rotr s.a 2 ^^^ rotr s.a 13 ^^^ rotr s.a 22) +
    ((s.a &&& s.b) ^^^ (s.a &&& s.c) ^^^ (s.b &&& s.c))
  { a := t1 + t2, b := s.a, c := s.b, d := s.c, e := s.d + t1, f := s.e, g := s.f, h := s.g }

/-- The message word that follows the sixteen words of the window. -/
def nextWord (window : List UInt32) : UInt32 :=
  let w1 := window.getD 1 0
  let w14 := window.getD 14 0
  (rotr w14 17 ^^^ rotr w14 19 ^^^ (w14 >>> 10)) + window.getD 9 0 +
    (rotr w1 7 ^^^ rotr w1 18 ^^^ (w1 >>> 3)) + window.getD 0 0

/-- The rounds of one block: each uses the oldest word of a sliding window. -/
def rounds : List UInt32 → List UInt32 → Chain → Chain
  | [], _, s => s
  | k :: ks, window, s =>
      rounds ks (window.tail ++ [nextWord window]) (round s k (window.getD 0 0))

/-- The words of a block, most significant octet first. -/
def words : Bytes → List UInt32
  | b0 :: b1 :: b2 :: b3 :: rest =>
      ((b0.toUInt32 <<< 24) ||| (b1.toUInt32 <<< 16) ||| (b2.toUInt32 <<< 8) ||| b3.toUInt32)
        :: words rest
  | _ => []

/-- The compression function on one block of 64 octets. -/
def compress (s : Chain) (block : Bytes) : Chain :=
  let t := rounds roundConstants (words block) s
  { a := s.a + t.a, b := s.b + t.b, c := s.c + t.c, d := s.d + t.d,
    e := s.e + t.e, f := s.f + t.f, g := s.g + t.g, h := s.h + t.h }

/-- `n` octets of a number, most significant first. -/
def bigEndian : ℕ → ℕ → Bytes
  | 0, _ => []
  | n + 1, value => bigEndian n (value / 256) ++ [UInt8.ofNat (value % 256)]

/-- The message, a one bit, zeros, and the message length in bits. -/
def pad (m : Bytes) : Bytes :=
  m ++ 0x80 :: List.replicate ((119 - m.length % 64) % 64) 0 ++ bigEndian 8 (8 * m.length)

/-- The chaining value after a number of blocks. -/
def blocks : ℕ → Chain → Bytes → Chain
  | 0, s, _ => s
  | n + 1, s, m => blocks n (compress s (m.take 64)) (m.drop 64)

/-- The eight words after the whole message. -/
def digest (m : Bytes) : Chain := blocks ((pad m).length / 64) initial (pad m)

/-- One lower-case hexadecimal digit. -/
def hexChar (d : ℕ) : ℕ := if d < 10 then 48 + d else 87 + d

/-- A word in eight hexadecimal digits. -/
def wordHex (w : UInt32) : PyStr :=
  let n := w.toNat
  [hexChar (n / 2 ^ 28 % 16), hexChar (n / 2 ^ 24 % 16), hexChar (n / 2 ^ 20 % 16),
    hexChar (n / 2 ^ 16 % 16), hexChar (n / 2 ^ 12 % 16), hexChar (n / 2 ^ 8 % 16),
    hexChar (n / 2 ^ 4 % 16), hexChar (n % 16)]

/-- `hashlib.sha256(m).hexdigest()` -/
def sha256Hex (m : Bytes) : PyStr :=
  let s := digest m
  wordHex s.a ++ wordHex s.b ++ wordHex s.c ++ wordHex s.d ++
    wordHex s.e ++ wordHex s.f ++ wordHex s.g ++ wordHex s.h

theorem isHexLower_hexChar {d : ℕ} (h : d < 16) : isHexLower (hexChar d) = true := by
  interval_cases d <;> rfl

theorem isHexLower_of_mem_wordHex {w : UInt32} {c : ℕ} (h : c ∈ wordHex w) :
    isHexLower c = true := by
  have hdigit : ∀ n, isHexLower (hexChar (n % 16)) = true := fun n =>
    isHexLower_hexChar (Nat.mod_lt n (by norm_num))
  simp only [wordHex, List.mem_cons, List.not_mem_nil, or_false] at h
  rcases h with rfl | rfl | rfl | rfl | rfl | rfl | rfl | rfl
  all_goals exact hdigit _

/-- A digest has 64 characters. -/
theorem length_sha256Hex (m : Bytes) : (sha256Hex m).length = 64 := rfl

/-- The characters of a digest are lower-case hexadecimal. -/
theorem isHexLower_of_mem_sha256Hex {m : Bytes} {c : ℕ} (h : c ∈ sha256Hex m) :
    isHexLower c = true := by
  simp only [sha256Hex, List.mem_append] at h
  rcases h with ((((((h | h) | h) | h) | h) | h) | h) | h
  all_goals exact isHexLower_of_mem_wordHex h

end Sha256
