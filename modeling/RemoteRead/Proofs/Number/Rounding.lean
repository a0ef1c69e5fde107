import Mathlib.Algebra.Order.Floor.Semifield
import Mathlib.Algebra.Order.Field.Power
import Mathlib.Data.Int.Log
import Mathlib.Data.Rat.Floor
import Mathlib.Tactic.Linarith
import Mathlib.Tactic.Ring
import Mathlib.Tactic.FieldSimp
import Mathlib.Tactic.NormNum
import Mathlib.Tactic.Positivity
import RemoteRead.Number.Binary64

/-!
# Rounding to doubles

`roundBits r` are the magnitude bits of the double nearest to a positive rational `r`: `r` is
measured in steps of its binade and rounded to a whole number of steps, a tie going to the even one.
Rounding a quotient of naturals is rounding its value (`nearestBits_eq`), it is monotone
(`roundBits_mono`), and whatever lies close enough to a double is rounded to it
(`roundBits_of_close`): less than one part in `2 ^ 54` away, which is the distance of the nearest
tie where it is closest, below a power of two.
-/

namespace RemoteRead.Binary64

/-! ## Whole numbers -/

/-- A number rounded to the nearest natural number, a tie going to the even one. -/
def roundEven (r : ℚ) : ℕ :=
  if r - ⌊r⌋₊ < 1 / 2 then ⌊r⌋₊
  else if 1 / 2 < r - ⌊r⌋₊ then ⌊r⌋₊ + 1
  else if ⌊r⌋₊ % 2 = 0 then ⌊r⌋₊ else ⌊r⌋₊ + 1

variable {r s : ℚ} {num den : ℕ}

/-- The fraction of a quotient of naturals is what the division leaves. -/
theorem quotient_sub_floor (num : ℕ) (hden : 0 < den) :
    (num / den : ℚ) - (num / den : ℕ) = (num % den : ℕ) / den := by
  have hden' : (0 : ℚ) < den := by exact_mod_cast hden
  have hsplit : (den : ℚ) * (num / den : ℕ) + (num % den : ℕ) = num := by
    exact_mod_cast Nat.div_add_mod num den
  rw [sub_eq_iff_eq_add, ← hsplit]
  field_simp
  ring

/-- Half of the denominator separates the fractions below a half from those above. -/
theorem fraction_half_iff (num : ℕ) (hden : 0 < den) :
    ((num / den : ℚ) - (num / den : ℕ) < 1 / 2 ↔ 2 * (num % den) < den) ∧
      (1 / 2 < (num / den : ℚ) - (num / den : ℕ) ↔ den < 2 * (num % den)) := by
  have hden' : (0 : ℚ) < den := by exact_mod_cast hden
  rw [quotient_sub_floor num hden]
  constructor
  · rw [div_lt_div_iff₀ hden' two_pos, mul_comm, one_mul]
    exact_mod_cast Iff.rfl
  · rw [div_lt_div_iff₀ two_pos hden', mul_comm _ (2 : ℚ), one_mul]
    exact_mod_cast Iff.rfl

/-- Rounding a quotient of naturals is rounding its value. -/
theorem roundDiv_eq (num : ℕ) (hden : 0 < den) : roundDiv num den = roundEven (num / den) := by
  obtain ⟨hless, hmore⟩ := fraction_half_iff num hden
  rw [roundEven, roundDiv, Nat.floor_div_eq_div]
  simp only [hless, hmore]

/-- What is rounded is the floor or the next number. -/
theorem roundEven_bounds (r : ℚ) : ⌊r⌋₊ ≤ roundEven r ∧ roundEven r ≤ ⌊r⌋₊ + 1 := by
  unfold roundEven
  split_ifs <;> omega

/-- Rounding to whole numbers keeps the order. -/
theorem roundEven_mono (h : r ≤ s) : roundEven r ≤ roundEven s := by
  rcases (Nat.floor_le_floor h).lt_or_eq with hfloor | hfloor
  · have hr := (roundEven_bounds r).2
    have hs := (roundEven_bounds s).1
    omega
  · -- With one floor, only the fractions are compared.
    unfold roundEven
    rw [hfloor]
    split_ifs <;> first | omega | linarith

/-- What is nearest to a number is rounded to it. -/
theorem roundEven_of_close (hr : 0 ≤ r) {n : ℕ} (hlow : (n : ℚ) - 1 / 2 < r)
    (hhigh : r < n + 1 / 2) : roundEven r = n := by
  rcases le_or_gt (n : ℚ) r with hn | hn
  · have hfloor : ⌊r⌋₊ = n := (Nat.floor_eq_iff hr).mpr ⟨hn, by linarith⟩
    rw [roundEven, hfloor, if_pos (by linarith)]
  · -- The number itself is the one behind the floor.
    obtain ⟨m, rfl⟩ : ∃ m, n = m + 1 := by
      refine Nat.exists_eq_add_of_le' (Nat.pos_of_ne_zero ?_)
      rintro rfl
      rw [Nat.cast_zero] at hn
      linarith
    push_cast at hn hlow
    have hfloor : ⌊r⌋₊ = m := (Nat.floor_eq_iff hr).mpr ⟨by linarith, by linarith⟩
    rw [roundEven, hfloor, if_neg (by linarith), if_pos (by linarith)]

/-- A whole number is rounded to itself. -/
theorem roundEven_natCast (n : ℕ) : roundEven n = n :=
  roundEven_of_close n.cast_nonneg (by linarith) (by linarith)

/-! ## Powers with whole exponents -/

/-- A power that is written out as a natural number. -/
theorem cast_pow_toNat (b : ℕ) {k : ℤ} (hk : 0 ≤ k) :
    ((Nat.pow b k.toNat : ℕ) : ℚ) = (b : ℚ) ^ k := by
  rw [Nat.pow_eq, Nat.cast_pow, ← zpow_natCast, Int.toNat_of_nonneg hk]

/-- A power below the line of a quotient of naturals. -/
theorem quotient_of_nonneg (b : ℕ) {k : ℤ} (hk : 0 ≤ k) :
    (num / (den * Nat.pow b k.toNat : ℕ) : ℚ) = num / den / (b : ℚ) ^ k := by
  rw [Nat.cast_mul, cast_pow_toNat b hk, div_mul_eq_div_div]

/-- A power that is above the line, since its exponent is negative. -/
theorem quotient_of_neg (b : ℕ) {k : ℤ} (hk : ¬ 0 ≤ k) :
    ((num * Nat.pow b (-k).toNat : ℕ) / den : ℚ) = num / den / (b : ℚ) ^ k := by
  rw [Nat.cast_mul, cast_pow_toNat b (by omega), zpow_neg, ← div_eq_mul_inv, div_right_comm]

/-- A quotient of naturals is compared with a power. -/
theorem quotient_lt_pow {b : ℕ} (hb : 0 < b) (hden : 0 < den) (k : ℤ) :
    (if 0 ≤ k then decide (num < den * Nat.pow b k.toNat)
      else decide (num * Nat.pow b (-k).toNat < den)) = decide ((num / den : ℚ) < (b : ℚ) ^ k) := by
  have hpow : (0 : ℚ) < (b : ℚ) ^ k := zpow_pos (by exact_mod_cast hb) k
  split_ifs with hk <;> rw [decide_eq_decide, ← div_lt_one hpow]
  · have hden' : (0 : ℚ) < (den * Nat.pow b k.toNat : ℕ) := by
      exact_mod_cast Nat.mul_pos hden (Nat.pow_pos hb)
    rw [← quotient_of_nonneg b hk, div_lt_one hden', Nat.cast_lt]
  · have hden' : (0 : ℚ) < den := by exact_mod_cast hden
    rw [← quotient_of_neg b hk, div_lt_one hden', Nat.cast_lt]

/-! ## Binades -/

/-- The logarithm is known from the powers of two around a number. -/
theorem log_eq_of_bounds {e : ℤ} (hlow : (2 : ℚ) ^ e ≤ r) (hhigh : r < (2 : ℚ) ^ (e + 1)) :
    Int.log 2 r = e := by
  have hr : 0 < r := (zpow_pos two_pos e).trans_le hlow
  have hle := (Int.zpow_le_iff_le_log (b := 2) one_lt_two hr).mp (by exact_mod_cast hlow)
  have hlt := (Int.lt_zpow_iff_log_lt (b := 2) one_lt_two hr).mp (by exact_mod_cast hhigh)
  omega

/-- A positive number lies between the powers of its logarithm. -/
theorem log2_bounds {n : ℕ} (hn : 0 < n) :
    (2 : ℚ) ^ (n.log2 : ℤ) ≤ n ∧ (n : ℚ) < (2 : ℚ) ^ (n.log2 + 1 : ℤ) := by
  have hself := Nat.log2_self_le hn.ne'
  have hlt := Nat.lt_log2_self (n := n)
  constructor
  · rw [zpow_natCast]
    exact_mod_cast hself
  · have hcast : (n.log2 + 1 : ℤ) = ((n.log2 + 1 : ℕ) : ℤ) := by push_cast; rfl
    rw [hcast, zpow_natCast]
    exact_mod_cast hlt

/-- The binary logarithm of a quotient. -/
theorem log2Ratio_eq (hnum : 0 < num) (hden : 0 < den) :
    log2Ratio num den = Int.log 2 (num / den : ℚ) := by
  obtain ⟨hnum₁, hnum₂⟩ := log2_bounds hnum
  obtain ⟨hden₁, hden₂⟩ := log2_bounds hden
  have hden' : (0 : ℚ) < den := by exact_mod_cast hden
  -- The logarithms of the parts leave two binades.
  have hlow : (2 : ℚ) ^ ((num.log2 : ℤ) - den.log2 - 1) ≤ num / den := by
    rw [le_div_iff₀ hden']
    calc (2 : ℚ) ^ ((num.log2 : ℤ) - den.log2 - 1) * den
        ≤ (2 : ℚ) ^ ((num.log2 : ℤ) - den.log2 - 1) * (2 : ℚ) ^ (den.log2 + 1 : ℤ) := by gcongr
      _ = (2 : ℚ) ^ (num.log2 : ℤ) := by
        rw [← zpow_add₀ two_ne_zero]
        congr 1
        ring
      _ ≤ num := hnum₁
  have hhigh : (num / den : ℚ) < (2 : ℚ) ^ ((num.log2 : ℤ) - den.log2 + 1) := by
    rw [div_lt_iff₀ hden']
    calc (num : ℚ) < (2 : ℚ) ^ (num.log2 + 1 : ℤ) := hnum₂
      _ = (2 : ℚ) ^ ((num.log2 : ℤ) - den.log2 + 1) * (2 : ℚ) ^ (den.log2 : ℤ) := by
        rw [← zpow_add₀ two_ne_zero]
        congr 1
        ring
      _ ≤ (2 : ℚ) ^ ((num.log2 : ℤ) - den.log2 + 1) * den := by gcongr
  unfold log2Ratio
  dsimp only
  rw [quotient_lt_pow two_pos hden, Nat.cast_two]
  simp only [decide_eq_true_eq]
  -- A comparison with the power between them decides which.
  split_ifs with h
  · exact (log_eq_of_bounds hlow (by rwa [sub_add_cancel])).symm
  · exact (log_eq_of_bounds (not_lt.mp h) hhigh).symm

/-! ## Nearest doubles -/

/-- The power of two that a double next to a number is measured in. -/
def stepExponent (r : ℚ) : ℤ := max (Int.log 2 r - 52) (-1074)

/-- The bits that a number has if the exponents had no end. -/
def unboundedBits (r : ℚ) : ℕ :=
  (stepExponent r + 1074).toNat * fractionSpan + roundEven (r / 2 ^ stepExponent r)

/-- The magnitude bits of the double nearest to a positive number, infinity on overflow. -/
def roundBits (r : ℚ) : ℕ := min (unboundedBits r) infinityBits

/-- Rounding a quotient is rounding its value. -/
theorem nearestBits_eq (hnum : 0 < num) (hden : 0 < den) :
    nearestBits num den = roundBits (num / den) := by
  unfold nearestBits roundBits unboundedBits
  rw [log2Ratio_eq hnum hden, ← stepExponent]
  generalize stepExponent (num / den) = q
  dsimp only
  split_ifs with hq
  · have hpos : 0 < den * Nat.pow 2 q.toNat := Nat.mul_pos hden (Nat.pow_pos two_pos)
    rw [roundDiv_eq num hpos, quotient_of_nonneg 2 hq, Nat.cast_two]
  · rw [roundDiv_eq _ hden, quotient_of_neg 2 hq, Nat.cast_two]

/-- A larger number is not measured in smaller steps. -/
theorem stepExponent_mono (hr : 0 < r) (h : r ≤ s) : stepExponent r ≤ stepExponent s := by
  have hlog := Int.log_mono_right (b := 2) hr h
  unfold stepExponent
  omega

/-- A number is less than a whole binade of its steps. -/
theorem div_stepExponent_lt (r : ℚ) : r / 2 ^ stepExponent r < 2 ^ 53 := by
  have hlog := Int.lt_zpow_succ_log_self (b := 2) one_lt_two r
  rw [div_lt_iff₀ (by positivity), ← zpow_natCast, ← zpow_add₀ two_ne_zero]
  refine lt_of_lt_of_le (by exact_mod_cast hlog) (zpow_le_zpow_right₀ one_le_two ?_)
  unfold stepExponent
  omega

/-- Where the steps are not the smallest ones, a number has half a binade of them. -/
theorem le_div_stepExponent (hr : 0 < r) (h : -1074 < stepExponent r) :
    2 ^ 52 ≤ r / 2 ^ stepExponent r := by
  have hlog := Int.zpow_log_le_self (b := 2) one_lt_two hr
  have hstep : stepExponent r = Int.log 2 r - 52 := by
    unfold stepExponent at h ⊢
    omega
  rw [le_div_iff₀ (by positivity), hstep, ← zpow_natCast, ← zpow_add₀ two_ne_zero]
  refine le_trans (le_of_eq ?_) (by exact_mod_cast hlog)
  norm_num

/-- Rounding to doubles keeps the order. -/
theorem roundBits_mono (hr : 0 < r) (h : r ≤ s) : roundBits r ≤ roundBits s := by
  refine min_le_min_right _ ?_
  have hs : 0 < s := hr.trans_le h
  have hstep := stepExponent_mono hr h
  rcases hstep.lt_or_eq with hlt | heq
  · -- The smaller number ends below the binade in which the larger one starts.
    have hlow : -1074 ≤ stepExponent r := le_max_right _ _
    have hr' : roundEven (r / 2 ^ stepExponent r) ≤ 2 ^ 53 := by
      rw [← roundEven_natCast (2 ^ 53)]
      exact roundEven_mono (by exact_mod_cast (div_stepExponent_lt r).le)
    have hs' : 2 ^ 52 ≤ roundEven (s / 2 ^ stepExponent s) := by
      rw [← roundEven_natCast (2 ^ 52)]
      exact roundEven_mono (by exact_mod_cast le_div_stepExponent hs (by omega))
    unfold unboundedBits fractionSpan
    omega
  · unfold unboundedBits
    rw [heq]
    have hdiv : r / 2 ^ stepExponent s ≤ s / 2 ^ stepExponent s := by gcongr
    exact Nat.add_le_add_left (roundEven_mono hdiv) _

/-- From `2 ^ 1024` on numbers are rounded to infinity. -/
theorem roundBits_of_le (hr : (2 : ℚ) ^ (1024 : ℤ) ≤ r) : roundBits r = infinityBits := by
  have hpos : 0 < r := lt_of_lt_of_le (by positivity) hr
  have hlog : 1024 ≤ Int.log 2 r :=
    (Int.zpow_le_iff_le_log (b := 2) one_lt_two hpos).mp (by exact_mod_cast hr)
  have hstep : 972 ≤ stepExponent r := by
    unfold stepExponent
    omega
  have hmantissa : 2 ^ 52 ≤ roundEven (r / 2 ^ stepExponent r) := by
    rw [← roundEven_natCast (2 ^ 52)]
    exact roundEven_mono (by exact_mod_cast le_div_stepExponent hpos (by omega))
  refine min_eq_right ?_
  unfold unboundedBits infinityBits fractionSpan
  omega

/-! ## The value of a double -/

/-- The magnitude of a finite double. -/
def magnitude (x : Binary64) : ℚ := x.scaled.1 * 2 ^ x.scaled.2

variable {x : Binary64}

/-- The mantissa and the power of a double, and how its bits are made of them. -/
theorem scaled_spec (x : Binary64) : x.scaled.1 < 2 ^ 53 ∧ -1074 ≤ x.scaled.2 ∧
    (x.scaled.2 = -1074 ∨ 2 ^ 52 ≤ x.scaled.1) ∧
    x.magnitudeBits = (x.scaled.2 + 1074).toNat * fractionSpan + x.scaled.1 := by
  have hfraction : x.magnitudeBits % fractionSpan < fractionSpan := Nat.mod_lt _ (by decide)
  have hsplit := Nat.div_add_mod x.magnitudeBits fractionSpan
  unfold scaled
  unfold fractionSpan at *
  dsimp only
  split_ifs with h <;> dsimp only <;> omega

/-- The quotient of a double has its magnitude as value. -/
theorem ratio_spec (x : Binary64) :
    0 < x.ratio.2 ∧ (x.ratio.1 / x.ratio.2 : ℚ) = x.magnitude := by
  unfold ratio magnitude
  dsimp only
  split_ifs with h
  · refine ⟨Nat.one_pos, ?_⟩
    rw [Nat.cast_mul, cast_pow_toNat 2 h, Nat.cast_one, div_one, Nat.cast_two]
  · refine ⟨Nat.pow_pos two_pos, ?_⟩
    dsimp only
    rw [cast_pow_toNat 2 (by omega), zpow_neg, Nat.cast_two, div_inv_eq_mul]

/-- A double is its sign and its magnitude bits. -/
theorem ofMagnitude_self (x : Binary64) : ofMagnitude x.isNegative x.magnitudeBits = x := by
  have hlt := x.bits.toNat_lt
  have hbits : (if x.isNegative then signBit + x.magnitudeBits else x.magnitudeBits) =
      x.bits.toNat := by
    unfold isNegative magnitudeBits signBit
    split_ifs with h <;> simp only [decide_eq_true_eq] at h <;> omega
  rw [ofMagnitude, hbits, ofBits, UInt64.ofNat_toNat]

/-- A double made of a sign and magnitude bits has them. -/
theorem ofMagnitude_spec (negative : Bool) {n : ℕ} (hn : n ≤ infinityBits) :
    (ofMagnitude negative n).isNegative = negative ∧
      (ofMagnitude negative n).magnitudeBits = n := by
  have hn' : n < signBit := hn.trans_lt (by decide)
  have hbits : (ofMagnitude negative n).bits.toNat = if negative then signBit + n else n := by
    rw [ofMagnitude, ofBits, UInt64.toNat_ofNat', Nat.mod_eq_of_lt]
    unfold signBit at *
    split_ifs <;> omega
  unfold isNegative magnitudeBits
  rw [hbits]
  cases negative <;> simp [hn', Nat.mod_eq_of_lt]

/-- A finite double that is not zero has a magnitude between the smallest one and the end of the
largest binade. -/
theorem magnitude_bounds (hx : x.isFinite = true) (hzero : x.isZero = false) :
    (2 : ℚ) ^ (-1074 : ℤ) ≤ x.magnitude ∧ x.magnitude < (2 : ℚ) ^ (1024 : ℤ) := by
  obtain ⟨hm, hq, hnormal, hbits⟩ := scaled_spec x
  have hpos : x.magnitudeBits ≠ 0 := by simpa [isZero] using hzero
  have hlt : x.magnitudeBits < infinityBits := of_decide_eq_true hx
  unfold magnitude
  generalize x.scaled.1 = m at *
  generalize x.scaled.2 = q at *
  -- A normal double has its leading bit, a subnormal one is not zero.
  have hm₁ : 1 ≤ m := by
    rcases hnormal with rfl | h
    · simp only [neg_add_cancel, Int.toNat_zero, zero_mul, zero_add] at hbits
      omega
    · exact le_trans (by norm_num) h
  -- The largest exponent is the one in front of infinity.
  have hq₂ : q ≤ 971 := by
    unfold infinityBits fractionSpan at *
    omega
  have hm' : (1 : ℚ) ≤ m := by exact_mod_cast hm₁
  have hm'' : (m : ℚ) < 2 ^ 53 := by exact_mod_cast hm
  constructor
  · calc (2 : ℚ) ^ (-1074 : ℤ) ≤ 2 ^ q := zpow_le_zpow_right₀ one_le_two hq
      _ ≤ m * 2 ^ q := le_mul_of_one_le_left (by positivity) hm'
  · calc m * (2 : ℚ) ^ q < 2 ^ 53 * 2 ^ q := by gcongr
      _ ≤ 2 ^ 53 * 2 ^ (971 : ℤ) := by gcongr; exact one_le_two
      _ = 2 ^ (1024 : ℤ) := by
        rw [← zpow_natCast, ← zpow_add₀ two_ne_zero]
        norm_num

/-- A finite double other than zero has a positive magnitude. -/
theorem magnitude_pos (hx : x.isFinite = true) (hzero : x.isZero = false) : 0 < x.magnitude :=
  (zpow_pos two_pos _).trans_le (magnitude_bounds hx hzero).1

/-- A whole number from `2 ^ 1024` on, of either sign, is beyond the doubles. -/
theorem isFinite_ofInt_of_le {k : ℕ} (hk : 1024 ≤ k) {n : Int} (hn : 2 ^ k ≤ n.natAbs) :
    (ofInt n).isFinite = false := by
  have hpos : 0 < n.natAbs := lt_of_lt_of_le (Nat.two_pow_pos k) hn
  have hlarge : (2 : ℚ) ^ (1024 : ℤ) ≤ n.natAbs :=
    calc (2 : ℚ) ^ (1024 : ℤ) ≤ 2 ^ (k : ℤ) :=
          zpow_le_zpow_right₀ one_le_two (by exact_mod_cast hk)
      _ ≤ n.natAbs := by exact_mod_cast hn
  have hround : nearestBits n.natAbs 1 = infinityBits := by
    rw [nearestBits_eq hpos one_pos, Nat.cast_one, div_one]
    exact roundBits_of_le hlarge
  rw [ofInt, ofRatio, if_neg hpos.ne', hround, isFinite, (ofMagnitude_spec _ le_rfl).2]
  exact decide_eq_false (lt_irrefl _)

/-- In the steps of a double, what lies close to it is less than half a step away. -/
theorem close_in_steps {m : ℕ} {q : ℤ} (hm : m < 2 ^ 53)
    (hlow : m * (2 : ℚ) ^ q - m * (2 : ℚ) ^ q / 2 ^ 54 < r)
    (hhigh : r < m * (2 : ℚ) ^ q + m * (2 : ℚ) ^ q / 2 ^ 54) :
    (m : ℚ) - m / 2 ^ 54 < r / 2 ^ q ∧ r / 2 ^ q < m + m / 2 ^ 54 ∧ (m : ℚ) / 2 ^ 54 < 1 / 2 := by
  have hpow : (0 : ℚ) < 2 ^ q := by positivity
  have hm' : (m : ℚ) < 2 ^ 53 := by exact_mod_cast hm
  refine ⟨?_, ?_, by linarith⟩
  · rw [lt_div_iff₀ hpow]
    linarith
  · rw [div_lt_iff₀ hpow]
    linarith

/-- The binade of a number that is measured in steps. -/
theorem log_lt_iff (hr : 0 < r) (q n : ℤ) : Int.log 2 r < q + n ↔ r / 2 ^ q < 2 ^ n := by
  rw [← Int.lt_zpow_iff_log_lt (b := 2) one_lt_two hr, Nat.cast_ofNat, zpow_add₀ two_ne_zero,
    ← div_lt_iff₀' (by positivity)]

/-- Closely below a power of two the steps are half as long, and a number is rounded up to the
power. -/
theorem unboundedBits_below (hr : 0 < r) {q : ℤ} (hq : -1074 < q)
    (hlow : 2 ^ 52 - 2 ^ 52 / 2 ^ 54 < r / 2 ^ q) (hhigh : r / 2 ^ q < 2 ^ 52) :
    unboundedBits r = (q + 1074).toNat * fractionSpan + 2 ^ 52 := by
  have hstep : stepExponent r = q - 1 := by
    have hless : Int.log 2 r < q + 52 := (log_lt_iff hr q 52).mpr (by exact_mod_cast hhigh)
    have hmore : ¬ Int.log 2 r < q + 51 := by
      rw [log_lt_iff hr, not_lt]
      norm_num at hlow ⊢
      linarith
    unfold stepExponent
    omega
  have hdouble : r / 2 ^ (q - 1) = 2 * (r / 2 ^ q) := by
    rw [zpow_sub_one₀ two_ne_zero]
    field_simp
  have hround : roundEven (r / 2 ^ (q - 1)) = 2 ^ 53 := by
    refine roundEven_of_close (by positivity) ?_ ?_ <;> push_cast <;> linarith
  rw [unboundedBits, hstep, hround]
  unfold fractionSpan
  omega

/-- What lies closer to a finite double than one part in `2 ^ 54` is rounded to it. -/
theorem roundBits_of_close (hx : x.isFinite = true) (hr : 0 < r)
    (hlow : x.magnitude - x.magnitude / 2 ^ 54 < r)
    (hhigh : r < x.magnitude + x.magnitude / 2 ^ 54) : roundBits r = x.magnitudeBits := by
  obtain ⟨hm, hq, hnormal, hbits⟩ := scaled_spec x
  unfold magnitude at hlow hhigh
  generalize x.scaled.1 = m at *
  generalize x.scaled.2 = q at *
  obtain ⟨hlow, hhigh, hhalf⟩ := close_in_steps hm hlow hhigh
  have hw : 0 ≤ r / 2 ^ q := by positivity
  have hfinite : unboundedBits r = x.magnitudeBits → roundBits r = x.magnitudeBits := by
    intro h
    rw [roundBits, h]
    exact min_eq_left (of_decide_eq_true hx).le
  refine hfinite ?_
  rw [hbits]
  -- The number is in the binade of the double, or in the one below if the double starts a binade.
  have hle : stepExponent r ≤ q := by
    have hm' : (m : ℚ) + 1 ≤ 2 ^ 53 := by exact_mod_cast hm
    have hless : r / 2 ^ q < 2 ^ (53 : ℤ) := by
      rw [zpow_ofNat]
      linarith
    have hlog := (log_lt_iff hr q 53).mpr hless
    unfold stepExponent
    omega
  rcases hle.lt_or_eq with hlt | heq
  · have hleast : -1074 ≤ stepExponent r := le_max_right _ _
    have hmantissa : 2 ^ 52 ≤ m := hnormal.resolve_left (by omega)
    -- Otherwise the steps would be those of the double.
    have hbelow : r / 2 ^ q < 2 ^ 52 := by
      have hlog : Int.log 2 r < q + 52 := by
        unfold stepExponent at hlt
        omega
      exact_mod_cast (log_lt_iff hr q 52).mp hlog
    obtain rfl : m = 2 ^ 52 := by
      have hless : (m : ℚ) < (2 ^ 52 + 1 : ℕ) := by
        push_cast
        linarith
      have hmost : m < 2 ^ 52 + 1 := by exact_mod_cast hless
      omega
    push_cast at hlow
    exact unboundedBits_below hr (by omega) hlow hbelow
  · have hround : roundEven (r / 2 ^ q) = m :=
      roundEven_of_close hw (by linarith) (by linarith)
    rw [unboundedBits, heq, hround]

end RemoteRead.Binary64
