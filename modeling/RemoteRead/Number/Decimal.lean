import RemoteRead.Number.Binary64
import RemoteRead.Text.CodePoint

/-!
# Decimal text of doubles

`shortest` finds the decimal with the fewest digits that reads back as a double, the nearest one
where several have so few, and of two equally near the one with the even last digit. A `Notation`
decides how that decimal is written; `fixed` writes a quotient with a given number of places.
-/

namespace RemoteRead.Number

/-- The decimal `digits · 10 ^ exponent`. -/
structure Decimal where
  /-- The significant digits as a number. -/
  digits : Nat
  /-- The power of ten that scales them. -/
  exponent : Int
deriving DecidableEq, Repr

namespace Decimal

/-- The same value without trailing zeros among its digits. -/
def trimZeros (d : Decimal) : Decimal :=
  go d.digits d.digits d.exponent
where
  /-- Drops trailing zeros; a number has fewer of them than its own value. -/
  go : Nat → Nat → Int → Decimal
    | 0, n, e => ⟨n, e⟩
    | fuel + 1, n, e => if n ≠ 0 ∧ n % 10 = 0 then go fuel (n / 10) (e + 1) else ⟨n, e⟩

/-- The double nearest to the decimal. -/
def toBinary64 (negative : Bool) (d : Decimal) : Binary64 :=
  Binary64.ofDecimal negative d.digits d.exponent

end Decimal

/-- The `k` with `10 ^ (k - 1) ≤ num / den < 10 ^ k`, for a positive quotient. -/
def decimalExponent (num den : Nat) : Int :=
  let estimate : Int := Binary64.log2Ratio num den * 30103 / 100000
  let below (k : Int) : Bool :=
    if 0 ≤ k then num < den * Nat.pow 10 k.toNat else num * Nat.pow 10 (-k).toNat < den
  (([estimate - 1, estimate, estimate + 1] : List Int).find? below).getD (estimate + 2)

/-- The decimal of at most `n` digits that lies nearest to a positive double among the two
neighbours on its grid that read back as the double, if one does. -/
def nearestOfLength (x : Binary64) (num den : Nat) (k : Int) (n : Nat) : Option Decimal :=
  let e := k - n
  let (a, b) :=
    if 0 ≤ e then (num, den * Nat.pow 10 e.toNat) else (num * Nat.pow 10 (-e).toNat, den)
  let f := a / b
  let low : Decimal := ⟨f, e⟩
  let high : Decimal := ⟨f + 1, e⟩
  let reads (d : Decimal) : Bool := d.toBinary64 false == x
  let r := a % b
  match reads low, reads high with
  | false, false => none
  | true, false => some low
  | false, true => some high
  | true, true =>
    if 2 * r < b then some low
    else if b < 2 * r then some high
    else if f % 2 = 0 then some low else some high

/-- The shortest decimal of a finite double's magnitude. Seventeen digits always suffice; the exact
value stands behind them. -/
def shortest (x : Binary64) : Decimal :=
  if x.isZero then ⟨0, 0⟩
  else
    let y := Binary64.ofMagnitude false x.magnitudeBits
    let (num, den) := y.ratio
    let k := decimalExponent num den
    match (List.range 17).findSome? fun i => nearestOfLength y num den k (i + 1) with
    | some d => d.trimZeros
    | none =>
      let (m, q) := y.scaled
      if 0 ≤ q then Decimal.trimZeros ⟨m * Nat.pow 2 q.toNat, 0⟩
      else Decimal.trimZeros ⟨m * Nat.pow 5 (-q).toNat, q⟩

/-- Digits with a point before the last `places` of them, at least one digit before the point. -/
def withPoint (digits : Text) (places : Nat) : Text :=
  if places = 0 then digits
  else
    let padded := List.replicate (places + 1 - digits.length) (CodePoint.ofChar '0') ++ digits
    let whole := padded.length - places
    padded.take whole ++ CodePoint.ofChar '.' :: padded.drop whole

/-- A decimal written out, without an exponent. -/
def positional (d : Decimal) : Text :=
  if 0 ≤ d.exponent then Text.ofNat (d.digits * Nat.pow 10 d.exponent.toNat)
  else withPoint (Text.ofNat d.digits) (-d.exponent).toNat

/-- A decimal with one digit before the point and an exponent of at least two digits. -/
def scientific (d : Decimal) : Text :=
  let digits := Text.ofNat d.digits
  let e := d.exponent + (digits.length : Int) - 1
  let mantissa := match digits with
    | [] => []
    | [c] => [c]
    | c :: r => c :: CodePoint.ofChar '.' :: r
  mantissa ++ CodePoint.ofChar 'e' :: (if e < 0 then '-' else '+') :: Text.padded 2 e.natAbs

/-- How a program writes a double. -/
structure Notation where
  /-- The least and greatest power of ten of the leading digit that are still written out. -/
  positionalFrom : Option (Int × Int)
  /-- What a whole number written out ends in. -/
  wholeEnding : Text
  /-- The text of a NaN. -/
  nan : Text
  /-- The text of positive infinity. -/
  infinity : Text
  /-- The text of negative infinity. -/
  negativeInfinity : Text

/-- The text of a double's magnitude, if it is finite. -/
def Notation.magnitude (style : Notation) (x : Binary64) : Text :=
  let d := shortest x
  let leading := d.exponent + ((Text.ofNat d.digits).length : Int) - 1
  let writtenOut := match style.positionalFrom with
    | none => true
    | some (lo, hi) => d.digits == 0 || (lo ≤ leading && leading ≤ hi)
  if writtenOut then
    if d.exponent < 0 then positional d else positional d ++ style.wholeEnding
  else scientific d

/-- The text of a double in a notation. -/
def Notation.render (style : Notation) (x : Binary64) : Text :=
  if x.isNaN then style.nan
  else if x.isInfinite then if x.isNegative then style.negativeInfinity else style.infinity
  else if x.isNegative then CodePoint.ofChar '-' :: style.magnitude x
  else style.magnitude x

/-- Messages and quoted values write powers of ten from -4 to 15 out, and a whole number ends in
`.0`. -/
def plainNotation : Notation where
  positionalFrom := some (-4, 15)
  wholeEnding := ".0"
  nan := "nan"
  infinity := "inf"
  negativeInfinity := "-inf"

/-- Label values are always written out, and a whole number has no point. -/
def labelNotation : Notation where
  positionalFrom := none
  wholeEnding := []
  nan := "NaN"
  infinity := "+Inf"
  negativeInfinity := "-Inf"

/-- JSON documents write numbers as messages do and spell the rest as words. -/
def jsonNotation : Notation :=
  { plainNotation with nan := "NaN", infinity := "Infinity", negativeInfinity := "-Infinity" }

/-- A quotient rounded to a number of places, a tie going to the even digit. -/
def fixed (num den places : Nat) : Text :=
  withPoint (Text.ofNat (Binary64.roundDiv (num * Nat.pow 10 places) den)) places

end RemoteRead.Number
