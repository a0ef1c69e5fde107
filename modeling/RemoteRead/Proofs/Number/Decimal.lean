import RemoteRead.Number.Decimal
import RemoteRead.Proofs.Number.Rounding

/-!
# Decimals and doubles

A decimal stands for the rational `digits · 10 ^ exponent` (`Decimal.value`). Powers of ten are
compared with powers of two by the quotient 30103 / 100000, which is a little more than the decimal
logarithm of two: close enough for logarithms up to 100000 (`ten_pow_bounds`). So the first digit of
a double is found (`decimalExponent_spec`), and a decimal in the range of doubles is rounded by its
value (`ofDecimal_eq`), which dropping trailing zeros keeps (`trimZeros_spec`).
-/

namespace RemoteRead.Number

open Binary64

/-! ## Powers of ten and two -/

/-- A quotient next to the decimal logarithm of two gives powers of ten that are next to powers of
two, for exponents that are no larger than its denominator. -/
theorem ten_pow_bounds_of {N M : ℕ} (hlow : (2 : ℚ) ^ N ≤ 10 ^ M)
    (hhigh : (10 : ℚ) ^ M ≤ 2 ^ (N + 1)) (hN : 0 < N) {L : ℤ} (hL₁ : -N ≤ L) (hL₂ : L ≤ N) :
    (10 : ℚ) ^ (L * M / N) ≤ 2 ^ (L + 1) ∧ (2 : ℚ) ^ (L - 1) ≤ 10 ^ (L * M / N + 1) := by
  have hN' : (0 : ℤ) < N := by exact_mod_cast hN
  have hfloor : L * M / N * N ≤ L * M := Int.ediv_mul_le _ hN'.ne'
  have hceil : L * M < (L * M / N + 1) * N := Int.lt_ediv_add_one_mul_self _ hN'
  generalize L * M / N = s at *
  -- Both sides are compared after they are raised to the power of the denominator.
  have hten : (2 : ℚ) ^ (L * N - N) ≤ 10 ^ (L * M) ∧ (10 : ℚ) ^ (L * M) ≤ 2 ^ (L * N + N) := by
    obtain ⟨n, hn⟩ := L.eq_nat_or_neg
    have hlow' : (2 : ℚ) ^ (n * N : ℤ) ≤ 10 ^ (n * M : ℤ) := by
      rw [mul_comm, zpow_mul, mul_comm, zpow_mul, zpow_natCast, zpow_natCast, zpow_natCast,
        zpow_natCast]
      gcongr
    have hhigh' : (10 : ℚ) ^ (n * M : ℤ) ≤ 2 ^ (n * N + n : ℤ) := by
      have hexponent : (n * N + n : ℤ) = ((N + 1 : ℕ) : ℤ) * n := by push_cast; ring
      rw [hexponent, mul_comm, zpow_mul, zpow_mul, zpow_natCast, zpow_natCast, zpow_natCast,
        zpow_natCast]
      gcongr
    have hpow {a b : ℤ} (h : a ≤ b) : (2 : ℚ) ^ a ≤ 2 ^ b := zpow_le_zpow_right₀ one_le_two h
    rcases hn with rfl | rfl
    · exact ⟨(hpow (by omega)).trans hlow', hhigh'.trans (hpow (by omega))⟩
    · -- With a negative exponent both comparisons turn round.
      rw [neg_mul, neg_mul, zpow_neg]
      constructor
      · refine le_trans ?_ (inv_anti₀ (by positivity) hhigh')
        rw [← zpow_neg]
        exact hpow (by omega)
      · refine (inv_anti₀ (by positivity) hlow').trans ?_
        rw [← zpow_neg]
        exact hpow (by omega)
  constructor
  · rw [← pow_le_pow_iff_left₀ (by positivity) (by positivity) hN.ne', ← zpow_natCast,
      ← zpow_natCast, ← zpow_mul, ← zpow_mul]
    calc (10 : ℚ) ^ (s * N) ≤ 10 ^ (L * M) := zpow_le_zpow_right₀ (by norm_num) hfloor
      _ ≤ 2 ^ (L * N + N) := hten.2
      _ = 2 ^ ((L + 1) * N) := by rw [add_mul, one_mul]
  · rw [← pow_le_pow_iff_left₀ (by positivity) (by positivity) hN.ne', ← zpow_natCast,
      ← zpow_natCast, ← zpow_mul, ← zpow_mul]
    calc (2 : ℚ) ^ ((L - 1) * N) = 2 ^ (L * N - N) := by rw [sub_mul, one_mul]
      _ ≤ 10 ^ (L * M) := hten.1
      _ ≤ 10 ^ ((s + 1) * N) := zpow_le_zpow_right₀ (by norm_num) hceil.le

/-- The estimate of the decimal logarithm is off by less than a power of two and one of ten. -/
theorem ten_pow_bounds {L : ℤ} (hL₁ : -100000 ≤ L) (hL₂ : L ≤ 100000) :
    (10 : ℚ) ^ (L * 30103 / 100000) ≤ 2 ^ (L + 1) ∧
      (2 : ℚ) ^ (L - 1) ≤ 10 ^ (L * 30103 / 100000 + 1) := by
  have hlow : 2 ^ 100000 ≤ 10 ^ 30103 := by decide +kernel
  have hhigh : 10 ^ 30103 ≤ 2 ^ 100001 := by decide +kernel
  have hlow' : (2 : ℚ) ^ 100000 ≤ 10 ^ 30103 := by exact_mod_cast hlow
  have hhigh' : (10 : ℚ) ^ 30103 ≤ 2 ^ 100001 := by exact_mod_cast hhigh
  exact ten_pow_bounds_of hlow' hhigh' (by decide) hL₁ hL₂

/-! ## The first digit -/

variable {num den : ℕ}

/-- The decimal exponent of a quotient is that of the power of ten behind it. -/
theorem decimalExponent_spec (hnum : 0 < num) (hden : 0 < den)
    (hlog₁ : -100000 ≤ Int.log 2 (num / den : ℚ)) (hlog₂ : Int.log 2 (num / den : ℚ) ≤ 100000) :
    (10 : ℚ) ^ (decimalExponent num den - 1) ≤ num / den ∧
      (num / den : ℚ) < 10 ^ decimalExponent num den := by
  have hr : (0 : ℚ) < num / den := by positivity
  have hlow : (2 : ℚ) ^ Int.log 2 (num / den : ℚ) ≤ num / den := by
    exact_mod_cast Int.zpow_log_le_self (b := 2) one_lt_two hr
  have hhigh : (num / den : ℚ) < 2 ^ (Int.log 2 (num / den : ℚ) + 1) := by
    exact_mod_cast Int.lt_zpow_succ_log_self (b := 2) one_lt_two (num / den : ℚ)
  obtain ⟨hten₁, hten₂⟩ := ten_pow_bounds hlog₁ hlog₂
  unfold decimalExponent
  rw [log2Ratio_eq hnum hden]
  dsimp only
  simp only [quotient_lt_pow (show 0 < 10 by decide) hden, Nat.cast_ofNat]
  generalize (num / den : ℚ) = r at *
  generalize Int.log 2 r = L at *
  generalize L * 30103 / 100000 = k at *
  -- The estimate is off by at most one place below and two above.
  have hleast : (10 : ℚ) ^ (k - 2) ≤ r := by
    rw [zpow_sub₀ (by norm_num)]
    rw [zpow_add_one₀ two_ne_zero] at hten₁
    norm_num at hten₁ ⊢
    linarith
  have hgreatest : r < 10 ^ (k + 2) := by
    rw [zpow_add_one₀ (by norm_num)] at hten₂
    rw [zpow_sub_one₀ two_ne_zero] at hten₂
    rw [zpow_add_one₀ two_ne_zero] at hhigh
    rw [zpow_add₀ (by norm_num)]
    have hpos : (0 : ℚ) < 10 ^ k := by positivity
    norm_num at *
    linarith
  -- The candidates are tried from the least one up.
  by_cases h₁ : r < 10 ^ (k - 1)
  · rw [List.find?_cons_of_pos (by simpa using h₁), Option.getD_some, sub_sub]
    exact ⟨hleast, h₁⟩
  rw [List.find?_cons_of_neg (by simpa using h₁)]
  by_cases h₂ : r < 10 ^ k
  · rw [List.find?_cons_of_pos (by simpa using h₂), Option.getD_some]
    exact ⟨not_lt.mp h₁, h₂⟩
  rw [List.find?_cons_of_neg (by simpa using h₂)]
  by_cases h₃ : r < 10 ^ (k + 1)
  · rw [List.find?_cons_of_pos (by simpa using h₃), Option.getD_some, add_sub_cancel_right]
    exact ⟨not_lt.mp h₂, h₃⟩
  · rw [List.find?_cons_of_neg (by simpa using h₃), List.find?_nil, Option.getD_none,
      show k + 2 - 1 = k + 1 by ring]
    exact ⟨not_lt.mp h₃, hgreatest⟩

/-! ## Rounding decimals -/

/-- The rational that a decimal stands for. -/
def Decimal.value (d : Decimal) : ℚ := d.digits * 10 ^ d.exponent

variable {negative : Bool} {digits : ℕ} {exponent : ℤ} {x : Binary64}

/-- A quotient is rounded by its value. -/
theorem ofRatio_eq (negative : Bool) (hnum : num ≠ 0) (hden : 0 < den) :
    ofRatio negative num den = ofMagnitude negative (roundBits (num / den)) := by
  rw [ofRatio, if_neg hnum, nearestBits_eq (Nat.pos_of_ne_zero hnum) hden]

/-- A decimal that is written out as a quotient is rounded by its value. -/
theorem ofRatio_decimal (negative : Bool) (hdigits : digits ≠ 0) (exponent : ℤ) :
    (if 0 ≤ exponent then ofRatio negative (digits * Nat.pow 10 exponent.toNat) 1
      else ofRatio negative digits (Nat.pow 10 (-exponent).toNat)) =
      ofMagnitude negative (roundBits (digits * 10 ^ exponent)) := by
  have hpow (n : ℕ) : 0 < Nat.pow 10 n := Nat.pow_pos (by decide)
  split_ifs with h
  · rw [ofRatio_eq _ (Nat.mul_ne_zero hdigits (hpow _).ne') Nat.one_pos, Nat.cast_mul,
      cast_pow_toNat 10 h, Nat.cast_one, div_one, Nat.cast_ofNat]
  · rw [ofRatio_eq _ hdigits (hpow _), cast_pow_toNat 10 (by omega), zpow_neg, div_inv_eq_mul,
      Nat.cast_ofNat]

/-- A decimal in the range of doubles is rounded by its value. -/
theorem ofDecimal_eq (negative : Bool) (hdigits : digits ≠ 0) (hlog : digits.log2 ≤ 100000)
    (hlow : (10 : ℚ) ^ (-390 : ℤ) ≤ digits * 10 ^ exponent)
    (hhigh : digits * (10 : ℚ) ^ exponent ≤ 10 ^ (390 : ℤ)) :
    ofDecimal negative digits exponent =
      ofMagnitude negative (roundBits (digits * 10 ^ exponent)) := by
  obtain ⟨hlog₁, hlog₂⟩ := log2_bounds (Nat.pos_of_ne_zero hdigits)
  obtain ⟨hten₁, hten₂⟩ := ten_pow_bounds (L := digits.log2) (by omega) (by omega)
  rw [← ofRatio_decimal negative hdigits, ofDecimal, if_neg hdigits]
  dsimp only
  generalize (digits.log2 : ℤ) * 30103 / 100000 = k at *
  have hpos : (0 : ℚ) < 10 ^ exponent := by positivity
  -- The size is next to the decimal logarithm of the value.
  have hsize₁ : k + exponent < 391 := by
    refine (zpow_lt_zpow_iff_right₀ (by norm_num : (1 : ℚ) < 10)).mp ?_
    calc (10 : ℚ) ^ (k + exponent) = 10 ^ k * 10 ^ exponent := zpow_add₀ (by norm_num) _ _
      _ ≤ 2 ^ (digits.log2 + 1 : ℤ) * 10 ^ exponent := by gcongr
      _ = 2 * (2 ^ (digits.log2 : ℤ) * 10 ^ exponent) := by
        rw [zpow_add_one₀ two_ne_zero]
        ring
      _ ≤ 2 * (digits * 10 ^ exponent) := by gcongr
      _ ≤ 2 * 10 ^ (390 : ℤ) := by gcongr
      _ < 10 * 10 ^ (390 : ℤ) := by gcongr; norm_num
      _ = 10 ^ (391 : ℤ) := (zpow_one_add₀ (by norm_num) 390).symm
  have hsize₂ : -390 < k + exponent + 2 := by
    refine (zpow_lt_zpow_iff_right₀ (by norm_num : (1 : ℚ) < 10)).mp ?_
    calc (10 : ℚ) ^ (-390 : ℤ) ≤ digits * 10 ^ exponent := hlow
      _ < 2 ^ (digits.log2 + 1 : ℤ) * 10 ^ exponent := by gcongr
      _ = 4 * (2 ^ (digits.log2 - 1 : ℤ) * 10 ^ exponent) := by
        rw [zpow_add_one₀ two_ne_zero, zpow_sub_one₀ two_ne_zero]
        ring
      _ ≤ 4 * (10 ^ (k + 1) * 10 ^ exponent) := by gcongr
      _ < 10 * (10 ^ (k + 1) * 10 ^ exponent) := by gcongr; norm_num
      _ = 10 ^ (k + exponent + 2) := by
        rw [← zpow_add₀ (by norm_num), ← zpow_one_add₀ (by norm_num)]
        congr 1
        ring
  -- Neither shortcut, to infinity or to zero, applies.
  rw [if_neg (by omega), if_neg (by omega)]

/-- The magnitude of the double that a decimal is read as does not depend on the sign. -/
theorem exists_ofDecimal (digits : ℕ) (exponent : ℤ) : ∃ n ≤ infinityBits, ∀ negative,
    ofDecimal negative digits exponent = ofMagnitude negative n := by
  unfold ofDecimal
  dsimp only
  by_cases hdigits : digits = 0
  · exact ⟨0, Nat.zero_le _, fun _ => if_pos hdigits⟩
  simp only [if_neg hdigits]
  generalize (digits.log2 : ℤ) * 30103 / 100000 + exponent = size
  by_cases hlarge : 400 < size
  · exact ⟨infinityBits, le_rfl, fun _ => if_pos hlarge⟩
  by_cases hsmall : size < -400
  · exact ⟨0, Nat.zero_le _, fun _ => (if_neg hlarge).trans (if_pos hsmall)⟩
  · refine ⟨roundBits (digits * 10 ^ exponent), min_le_right _ _, fun negative => ?_⟩
    rw [if_neg hlarge, if_neg hsmall, ofRatio_decimal negative hdigits]

/-- A decimal that is read as a finite double other than zero is rounded to it by its value. -/
theorem roundBits_of_ofDecimal (hx : x.isFinite = true) (hzero : x.isZero = false)
    (h : ofDecimal negative digits exponent = x) :
    digits ≠ 0 ∧ roundBits (digits * 10 ^ exponent) = x.magnitudeBits := by
  have hbits : x.magnitudeBits ≠ 0 := by simpa [isZero] using hzero
  have hlt : x.magnitudeBits < infinityBits := of_decide_eq_true hx
  have hnotZero : zero negative ≠ x := by
    rintro rfl
    exact hbits (ofMagnitude_spec negative (Nat.zero_le _)).2
  have hnotInfinite : infinity negative ≠ x := by
    rintro rfl
    exact hlt.ne (ofMagnitude_spec negative le_rfl).2
  unfold ofDecimal at h
  dsimp only at h
  -- Of the four branches only the last gives a double that is neither zero nor infinite.
  by_cases hdigits : digits = 0
  · rw [if_pos hdigits] at h
    exact absurd h hnotZero
  rw [if_neg hdigits] at h
  generalize (digits.log2 : ℤ) * 30103 / 100000 + exponent = size at h
  by_cases hlarge : 400 < size
  · rw [if_pos hlarge] at h
    exact absurd h hnotInfinite
  by_cases hsmall : size < -400
  · rw [if_neg hlarge, if_pos hsmall] at h
    exact absurd h hnotZero
  rw [if_neg hlarge, if_neg hsmall, ofRatio_decimal negative hdigits] at h
  refine ⟨hdigits, ?_⟩
  rw [← h]
  exact (ofMagnitude_spec negative (min_le_right _ _)).2.symm

/-! ## Trailing zeros -/

/-- Dropping trailing zeros keeps the value and leaves none. -/
theorem trimZeros_spec {d : Decimal} (hd : d.digits ≠ 0) :
    d.trimZeros.value = d.value ∧ d.trimZeros.digits ≤ d.digits ∧ d.trimZeros.digits % 10 ≠ 0 := by
  -- The digits are fuel enough, since each step divides them by ten.
  have hgo (fuel n : ℕ) (e : ℤ) (hn : n ≠ 0) (hfuel : n ≤ fuel) :
      (Decimal.trimZeros.go fuel n e).value = n * 10 ^ e ∧
        (Decimal.trimZeros.go fuel n e).digits ≤ n ∧
        (Decimal.trimZeros.go fuel n e).digits % 10 ≠ 0 := by
    induction fuel generalizing n e with
    | zero => exact absurd (Nat.le_zero.mp hfuel) hn
    | succ fuel ih =>
      rw [Decimal.trimZeros.go]
      split_ifs with h
      · obtain ⟨hvalue, hle, hlast⟩ := ih (n / 10) (e + 1) (by omega) (by omega)
        refine ⟨?_, by omega, hlast⟩
        have hten : (n : ℚ) = 10 * (n / 10 : ℕ) := by
          have hsplit : n = 10 * (n / 10) := by omega
          exact_mod_cast hsplit
        calc _ = (n / 10 : ℕ) * (10 : ℚ) ^ (e + 1) := hvalue
          _ = 10 * (n / 10 : ℕ) * 10 ^ e := by
            rw [zpow_add_one₀ (by norm_num)]
            ring
          _ = n * 10 ^ e := by rw [← hten]
      · exact ⟨rfl, le_rfl, by simpa [hn] using h⟩
  exact hgo d.digits d.digits d.exponent hd le_rfl

end RemoteRead.Number
