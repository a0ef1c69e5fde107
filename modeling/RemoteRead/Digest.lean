/-!
# SHA-256

The 256-bit digest of a sequence of octets: the padded message is cut into blocks of 64 octets, and
each block is mixed into eight words by 64 rounds.
-/

namespace RemoteRead.Digest

/-- The words of the chaining state. -/
structure State where
  /-- The first word. -/
  a : UInt32
  /-- The second word. -/
  b : UInt32
  /-- The third word. -/
  c : UInt32
  /-- The fourth word. -/
  d : UInt32
  /-- The fifth word. -/
  e : UInt32
  /-- The sixth word. -/
  f : UInt32
  /-- The seventh word. -/
  g : UInt32
  /-- The eighth word. -/
  h : UInt32

/-- The state before the first block: the fractional parts of the square roots of the first eight
primes. -/
def State.start : State :=
  ⟨0x6a09e667, 0xbb67ae85, 0x3c6ef372, 0xa54ff53a,
    0x510e527f, 0x9b05688c, 0x1f83d9ab, 0x5be0cd19⟩

/-- The constants of the rounds: the fractional parts of the cube roots of the first 64 primes. -/
def roundConstants : List UInt32 :=
  [0x428a2f98, 0x71374491, 0xb5c0fbcf, 0xe9b5dba5, 0x3956c25b, 0x59f111f1, 0x923f82a4, 0xab1c5ed5,
    0xd807aa98, 0x12835b01, 0x243185be, 0x550c7dc3, 0x72be5d74, 0x80deb1fe, 0x9bdc06a7, 0xc19bf174,
    0xe49b69c1, 0xefbe4786, 0x0fc19dc6, 0x240ca1cc, 0x2de92c6f, 0x4a7484aa, 0x5cb0a9dc, 0x76f988da,
    0x983e5152, 0xa831c66d, 0xb00327c8, 0xbf597fc7, 0xc6e00bf3, 0xd5a79147, 0x06ca6351, 0x14292967,
    0x27b70a85, 0x2e1b2138, 0x4d2c6dfc, 0x53380d13, 0x650a7354, 0x766a0abb, 0x81c2c92e, 0x92722c85,
    0xa2bfe8a1, 0xa81a664b, 0xc24b8b70, 0xc76c51a3, 0xd192e819, 0xd6990624, 0xf40e3585, 0x106aa070,
    0x19a4c116, 0x1e376c08, 0x2748774c, 0x34b0bcb5, 0x391c0cb3, 0x4ed8aa4a, 0x5b9cca4f, 0x682e6ff3,
    0x748f82ee, 0x78a5636f, 0x84c87814, 0x8cc70208, 0x90befffa, 0xa4506ceb, 0xbef9a3f7, 0xc67178f2]

/-- A word turned right by a number of bits below 32. -/
def rotate (x : UInt32) (k : UInt32) : UInt32 := (x >>> k) ||| (x <<< (32 - k))

/-- The octets of a number, the most significant of `k` first. -/
def bigEndian : Nat → Nat → List UInt8
  | 0, _ => []
  | k + 1, n => UInt8.ofNat (n / Nat.pow 0x100 k) :: bigEndian k n

/-- A message with a one bit, zeros up to a whole number of blocks, and its length in bits. -/
def pad (bs : List UInt8) : List UInt8 :=
  bs ++ 0x80 :: List.replicate ((119 - bs.length % 64) % 64) 0 ++ bigEndian 8 (8 * bs.length)

/-- The words of octets, four to a word. -/
def words : List UInt8 → List UInt32
  | a :: b :: c :: d :: r =>
    (a.toUInt32 <<< 24 ||| b.toUInt32 <<< 16 ||| c.toUInt32 <<< 8 ||| d.toUInt32) :: words r
  | _ => []

/-- The next word of a schedule whose last sixteen words are given, the latest first. -/
def nextWord (recent : List UInt32) : UInt32 :=
  let word (i : Nat) : UInt32 := recent.getD (i - 1) 0
  let x := word 15
  let y := word 2
  word 16 + (rotate x 7 ^^^ rotate x 18 ^^^ x >>> 3) + word 7 +
    (rotate y 17 ^^^ rotate y 19 ^^^ y >>> 10)

/-- A schedule, the latest word first, extended by `k` words. -/
def extend : Nat → List UInt32 → List UInt32
  | 0, schedule => schedule
  | k + 1, schedule => extend k (nextWord schedule :: schedule)

/-- One round with its constant and its word of the schedule. -/
def State.round (s : State) (constant word : UInt32) : State :=
  let t := s.h + (rotate s.e 6 ^^^ rotate s.e 11 ^^^ rotate s.e 25) +
    (s.e &&& s.f ^^^ ~~~s.e &&& s.g) + constant + word
  let u := (rotate s.a 2 ^^^ rotate s.a 13 ^^^ rotate s.a 22) +
    (s.a &&& s.b ^^^ s.a &&& s.c ^^^ s.b &&& s.c)
  ⟨t + u, s.a, s.b, s.c, s.d + t, s.e, s.f, s.g⟩

/-- The words of two states added place by place. -/
def State.add (s t : State) : State :=
  ⟨s.a + t.a, s.b + t.b, s.c + t.c, s.d + t.d, s.e + t.e, s.f + t.f, s.g + t.g, s.h + t.h⟩

/-- A state after a block of sixteen words. -/
def State.block (s : State) (block : List UInt32) : State :=
  let schedule := (extend 48 block.reverse).reverse
  s.add ((roundConstants.zip schedule).foldl (fun t (k, w) => t.round k w) s)

/-- The blocks of sixteen words, the last one shorter if the words run out. -/
def blocks (fuel : Nat) (ws : List UInt32) : List (List UInt32) :=
  match fuel with
  | 0 => []
  | fuel + 1 => if ws.isEmpty then [] else ws.take 16 :: blocks fuel (ws.drop 16)

/-- The digest of octets as eight words. -/
def digest (bs : List UInt8) : List UInt32 :=
  let ws := words (pad bs)
  let s := (blocks ws.length ws).foldl State.block State.start
  [s.a, s.b, s.c, s.d, s.e, s.f, s.g, s.h]

end RemoteRead.Digest
