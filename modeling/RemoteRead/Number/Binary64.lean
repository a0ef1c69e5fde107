/-!
# Binary floating point in 64 bits

A double is its bits. A finite one is `(-1)^s · m · 2^q` with natural `m` and `q ≥ -1074`, and
`ofRatio` is the double nearest to a quotient of naturals, ties going to the even mantissa. All
arithmetic is exact on `Nat` and `Int`.
-/

namespace RemoteRead

/-- A double, given by its bits. -/
structure Binary64 where
  /-- Sign, eleven exponent bits and fifty-two fraction bits, from the top. -/
  bits : UInt64
deriving DecidableEq

namespace Binary64

/-- The bit of the sign. -/
def signBit : Nat := 0x8000000000000000

/-- How many fractions there are to an exponent. -/
def fractionSpan : Nat := 0x10000000000000

/-- The double whose bits are the given number modulo `2 ^ 64`. -/
def ofBits (n : Nat) : Binary64 := ⟨UInt64.ofNat n⟩

/-- Whether the sign bit is set. -/
def isNegative (x : Binary64) : Bool := signBit ≤ x.bits.toNat

/-- The bits below the sign. -/
def magnitudeBits (x : Binary64) : Nat := x.bits.toNat % signBit

/-- The magnitude bits of infinity; those of a NaN are larger. -/
def infinityBits : Nat := 0x7ff * fractionSpan

/-- Not a number. -/
def isNaN (x : Binary64) : Bool := infinityBits < x.magnitudeBits

/-- An infinity of either sign. -/
def isInfinite (x : Binary64) : Bool := x.magnitudeBits == infinityBits

/-- Neither an infinity nor a NaN. -/
def isFinite (x : Binary64) : Bool := x.magnitudeBits < infinityBits

/-- A zero of either sign. -/
def isZero (x : Binary64) : Bool := x.magnitudeBits == 0

/-- The double with the given sign and magnitude bits. -/
def ofMagnitude (negative : Bool) (n : Nat) : Binary64 :=
  ofBits (if negative then signBit + n else n)

/-- The quiet NaN. -/
def nan : Binary64 := ofBits (infinityBits + 0x8000000000000)

/-- The infinity of a sign. -/
def infinity (negative : Bool) : Binary64 := ofMagnitude negative infinityBits

/-- The zero of a sign. -/
def zero (negative : Bool) : Binary64 := ofMagnitude negative 0

/-- The same magnitude with the other sign. -/
def neg (x : Binary64) : Binary64 := ofMagnitude (!x.isNegative) x.magnitudeBits

/-- The mantissa and the power of two of a finite double's magnitude. -/
def scaled (x : Binary64) : Nat × Int :=
  let e : Nat := x.magnitudeBits / fractionSpan
  let f : Nat := x.magnitudeBits % fractionSpan
  if e = 0 then (f, -1074) else (fractionSpan + f, (e : Int) - 1075)

/-- The magnitude of a finite double as a quotient. -/
def ratio (x : Binary64) : Nat × Nat :=
  let (m, q) := x.scaled
  if 0 ≤ q then (m * Nat.pow 2 q.toNat, 1) else (m, Nat.pow 2 (-q).toNat)

/-- The quotient rounded to the nearest natural number, a tie going to the even one. -/
def roundDiv (num den : Nat) : Nat :=
  let q := num / den
  let r := num % den
  if 2 * r < den then q
  else if den < 2 * r then q + 1
  else if q % 2 = 0 then q else q + 1

/-- The floor of the binary logarithm of a positive quotient. -/
def log2Ratio (num den : Nat) : Int :=
  let e : Int := (Nat.log2 num : Int) - (Nat.log2 den : Int)
  let below : Bool :=
    if 0 ≤ e then num < den * Nat.pow 2 e.toNat else num * Nat.pow 2 (-e).toNat < den
  if below then e - 1 else e

/-- The magnitude bits of the double nearest to a positive quotient, infinity on overflow. With the
mantissa `m` in steps of `2 ^ q` the bits are `(q + 1074) · 2 ^ 52 + m`, also where `m` has carried
into the next power of two or is subnormal. -/
def nearestBits (num den : Nat) : Nat :=
  let q : Int := max (log2Ratio num den - 52) (-1074)
  let m :=
    if 0 ≤ q then roundDiv num (den * Nat.pow 2 q.toNat)
    else roundDiv (num * Nat.pow 2 (-q).toNat) den
  min ((q + 1074).toNat * fractionSpan + m) infinityBits

/-- The double nearest to a quotient of naturals with the given sign. -/
def ofRatio (negative : Bool) (num den : Nat) : Binary64 :=
  if num = 0 then zero negative else ofMagnitude negative (nearestBits num den)

/-- The double nearest to an integer; infinite beyond the range. -/
def ofInt (n : Int) : Binary64 := ofRatio (n < 0) n.natAbs 1

/-- The double nearest to `digits · 10 ^ exponent`. Exponents so large or small that the result is
infinite or zero anyway are not expanded. -/
def ofDecimal (negative : Bool) (digits : Nat) (exponent : Int) : Binary64 :=
  if digits = 0 then zero negative
  else
    let size : Int := (Nat.log2 digits : Int) * 30103 / 100000 + exponent
    if 400 < size then infinity negative
    else if size < -400 then zero negative
    else if 0 ≤ exponent then ofRatio negative (digits * Nat.pow 10 exponent.toNat) 1
    else ofRatio negative digits (Nat.pow 10 (-exponent).toNat)

/-- The integer part of a finite double, the fraction cut off. -/
def truncate (x : Binary64) : Int :=
  let (num, den) := x.ratio
  let n : Int := ((num / den : Nat) : Int)
  if x.isNegative then -n else n

/-- Whether a finite double is a whole number. -/
def isInteger (x : Binary64) : Bool :=
  let (num, den) := x.ratio
  num % den == 0

/-- The value of a finite double as a signed numerator over a positive denominator. -/
def signedRatio (x : Binary64) : Int × Nat :=
  let (num, den) := x.ratio
  (if x.isNegative then -(num : Int) else num, den)

/-- The rounded sum of two finite doubles; a sum of zero is positive. -/
def add (x y : Binary64) : Binary64 :=
  let (a, b) := x.signedRatio
  let (c, d) := y.signedRatio
  let n := a * d + c * b
  ofRatio (n < 0) n.natAbs (b * d)

/-- A double times a natural number, rounded. -/
def times (x : Binary64) (n : Nat) : Binary64 :=
  let (num, den) := x.ratio
  ofRatio x.isNegative (num * n) den

/-- Numerical order; nothing compares with a NaN. -/
def lt (x y : Binary64) : Bool :=
  if x.isNaN || y.isNaN then false
  else
    let key (z : Binary64) : Int :=
      if z.isNegative then -(z.magnitudeBits : Int) else z.magnitudeBits
    key x < key y

/-- Numerical equality: the zeros are equal, and a NaN equals nothing. -/
def equals (x y : Binary64) : Bool :=
  !x.isNaN && !y.isNaN && (x.bits == y.bits || (x.isZero && y.isZero))

/-- The integer that a double equals, if it is finite and whole. -/
def toInt? (x : Binary64) : Option Int :=
  if x.isFinite && x.isInteger then some x.truncate else none

end Binary64

end RemoteRead
