import RemoteRead.Proofs.Number.Decimal
import RemoteRead.Proofs.Text.Decimal

/-!
# The shortest decimal of a double

Decimals of at most `n` digits that read back as a double are found among the two neighbours of its
magnitude on the grid of `n` digits (`neighbour_reads_of_reads`): the grid has every such decimal
from the first digit of the magnitude on, the ones below it are too small, and rounding is monotone.
On the grid of seventeen digits one of the neighbours is always close enough
(`neighbour_reads_seventeen`). So the decimal that is found reads back, none with fewer digits does,
and none with as many digits is nearer (`isShortest_shortest`).
-/

namespace RemoteRead.Number

open Binary64

variable {x : Binary64} {digits n : ℕ} {exponent k : ℤ} {r : ℚ}

/-! ## Decimals that read back -/

/-- The powers of ten between which the finite doubles lie. -/
theorem magnitude_bounds_ten (hx : x.isFinite = true) (hzero : x.isZero = false) :
    (10 : ℚ) ^ (-324 : ℤ) ≤ x.magnitude ∧ x.magnitude < (10 : ℚ) ^ (309 : ℤ) := by
  obtain ⟨hlow, hhigh⟩ := magnitude_bounds hx hzero
  have hlow' : 2 ^ 1074 ≤ 10 ^ 324 := by decide +kernel
  have hhigh' : 2 ^ 1024 ≤ 10 ^ 309 := by decide +kernel
  constructor
  · refine le_trans ?_ hlow
    rw [zpow_neg, zpow_neg]
    refine inv_anti₀ (by positivity) ?_
    exact_mod_cast hlow'
  · refine hhigh.trans_le ?_
    exact_mod_cast hhigh'

/-- The double itself is rounded to itself. -/
theorem roundBits_magnitude (hx : x.isFinite = true) (hzero : x.isZero = false) :
    roundBits x.magnitude = x.magnitudeBits := by
  have hpos := magnitude_pos hx hzero
  have hpart : 0 < x.magnitude / 2 ^ 54 := by positivity
  exact roundBits_of_close hx hpos (by linarith) (by linarith)

/-- A decimal of ordinary length near a double reads back exactly if its value is rounded to it. -/
theorem reads_iff (hx : x.isFinite = true) (hzero : x.isZero = false) (hdigits : digits ≠ 0)
    (hlength : digits < 2 ^ 2000) (hlow : x.magnitude ≤ 100 * (digits * 10 ^ exponent))
    (hhigh : digits * (10 : ℚ) ^ exponent ≤ 100 * x.magnitude) :
    ofDecimal x.isNegative digits exponent = x ↔
      roundBits (digits * 10 ^ exponent) = x.magnitudeBits := by
  refine ⟨fun h => (roundBits_of_ofDecimal hx hzero h).2, fun h => ?_⟩
  obtain ⟨hleast, hgreatest⟩ := magnitude_bounds_ten hx hzero
  have hlog : digits.log2 ≤ 100000 := by
    have hlt := (Nat.log2_lt hdigits).mpr hlength
    omega
  have hhundred : (100 : ℚ) = 10 ^ (2 : ℤ) := by norm_num
  rw [ofDecimal_eq _ hdigits hlog, h, ofMagnitude_self]
  · -- Too small by a factor of a hundred at most, and still above `10 ^ -390`.
    have hstep : 100 * (10 : ℚ) ^ (-390 : ℤ) ≤ 10 ^ (-324 : ℤ) := by
      rw [hhundred, ← zpow_add₀ (by norm_num)]
      exact zpow_le_zpow_right₀ (by norm_num) (by norm_num)
    have hscaled : 100 * (10 : ℚ) ^ (-390 : ℤ) ≤ 100 * (digits * 10 ^ exponent) :=
      hstep.trans (hleast.trans hlow)
    exact le_of_mul_le_mul_left hscaled (by norm_num)
  · calc digits * (10 : ℚ) ^ exponent ≤ 100 * x.magnitude := hhigh
      _ ≤ 100 * 10 ^ (309 : ℤ) := by gcongr
      _ = 10 ^ (311 : ℤ) := by
        rw [hhundred, ← zpow_add₀ (by norm_num)]
        norm_num
      _ ≤ 10 ^ (390 : ℤ) := zpow_le_zpow_right₀ (by norm_num) (by norm_num)

/-! ## The neighbours on a grid -/

/-- How many whole steps of a power of ten there are to a number. -/
def steps (r : ℚ) (exponent : ℤ) : ℕ := ⌊r / 10 ^ exponent⌋₊

/-- A number lies between its whole steps and one step more. -/
theorem steps_bounds (hr : 0 ≤ r) (exponent : ℤ) :
    steps r exponent * (10 : ℚ) ^ exponent ≤ r ∧
      r < (steps r exponent + 1) * (10 : ℚ) ^ exponent := by
  have hpos : (0 : ℚ) < 10 ^ exponent := by positivity
  constructor
  · rw [← le_div_iff₀ hpos]
    exact Nat.floor_le (by positivity)
  · rw [← div_lt_iff₀ hpos]
    exact Nat.lt_floor_add_one _

/-- On a grid of `n` digits there are `n` digits to a number. -/
theorem steps_digits (hlow : (10 : ℚ) ^ (k - 1) ≤ r) (hhigh : r < 10 ^ k) (hn : 1 ≤ n) :
    10 ^ (n - 1) ≤ steps r (k - n) ∧ steps r (k - n) < 10 ^ n := by
  have hpos : (0 : ℚ) < 10 ^ (k - n) := by positivity
  have hr : 0 ≤ r := le_trans (by positivity) hlow
  constructor
  · refine Nat.le_floor ?_
    rw [le_div_iff₀ hpos, Nat.cast_pow, Nat.cast_ofNat, ← zpow_natCast, ← zpow_add₀ (by norm_num)]
    refine le_trans (le_of_eq ?_) hlow
    congr 1
    omega
  · refine (Nat.floor_lt (by positivity)).mpr ?_
    rw [div_lt_iff₀ hpos, Nat.cast_pow, Nat.cast_ofNat, ← zpow_natCast, ← zpow_add₀ (by norm_num)]
    refine lt_of_lt_of_le hhigh (le_of_eq ?_)
    congr 1
    omega

/-- The first of these digits stands for as much as it does in the number. -/
theorem first_le_steps (hlow : (10 : ℚ) ^ (k - 1) ≤ r) (hhigh : r < 10 ^ k) (hn : 1 ≤ n) :
    (10 : ℚ) ^ (k - 1) ≤ steps r (k - n) * 10 ^ (k - n) := by
  have hdigits : ((10 ^ (n - 1) : ℕ) : ℚ) ≤ steps r (k - n) := by
    exact_mod_cast (steps_digits hlow hhigh hn).1
  calc (10 : ℚ) ^ (k - 1) = (10 ^ (n - 1) : ℕ) * 10 ^ (k - n) := by
        rw [Nat.cast_pow, Nat.cast_ofNat, ← zpow_natCast, ← zpow_add₀ (by norm_num)]
        congr 1
        omega
    _ ≤ steps r (k - n) * 10 ^ (k - n) := by gcongr

/-- A number of whole steps that is no larger has no more of them. -/
theorem le_steps (h : digits * (10 : ℚ) ^ exponent ≤ r) : digits ≤ steps r exponent := by
  refine Nat.le_floor ?_
  rwa [le_div_iff₀ (by positivity)]

/-- A decimal with a larger power of ten is a number of whole steps. -/
theorem exists_steps (digits : ℕ) {e : ℤ} (h : e ≤ exponent) :
    ∃ F : ℕ, digits * (10 : ℚ) ^ exponent = F * 10 ^ e := by
  refine ⟨digits * 10 ^ (exponent - e).toNat, ?_⟩
  rw [Nat.cast_mul, Nat.cast_pow, Nat.cast_ofNat, mul_assoc, ← zpow_natCast,
    ← zpow_add₀ (by norm_num)]
  congr 2
  omega

/-- A decimal of `n` digits with a smaller power of ten than the grid is below the first digit. -/
theorem lt_of_exponent_lt (hdigits : digits < 10 ^ n) (h : exponent < k - n) :
    digits * (10 : ℚ) ^ exponent < 10 ^ (k - 1) := by
  have hdigits' : (digits : ℚ) < 10 ^ n := by exact_mod_cast hdigits
  calc digits * (10 : ℚ) ^ exponent < 10 ^ n * 10 ^ exponent := by gcongr
    _ = 10 ^ (n + exponent) := by rw [← zpow_natCast, ← zpow_add₀ (by norm_num)]
    _ ≤ 10 ^ (k - 1) := zpow_le_zpow_right₀ (by norm_num) (by omega)

/-- A decimal of `n` digits that is no larger than a number is no larger than its lower
neighbour. -/
theorem le_lower (hlow : (10 : ℚ) ^ (k - 1) ≤ r) (hhigh : r < 10 ^ k) (hn : 1 ≤ n)
    (hdigits : digits < 10 ^ n) (hle : digits * (10 : ℚ) ^ exponent ≤ r) :
    digits * (10 : ℚ) ^ exponent ≤ steps r (k - n) * 10 ^ (k - n) := by
  rcases le_or_gt (k - n) exponent with hgrid | hfine
  · obtain ⟨D, hD⟩ := exists_steps digits hgrid
    rw [hD] at hle ⊢
    have hsteps := le_steps hle
    gcongr
  · have hless := lt_of_exponent_lt hdigits hfine
    exact hless.le.trans (first_le_steps hlow hhigh hn)

/-- A decimal of `n` digits that is larger than a number is no smaller than its upper neighbour. -/
theorem upper_le (hlow : (10 : ℚ) ^ (k - 1) ≤ r) (hdigits : digits < 10 ^ n)
    (hgt : r < digits * (10 : ℚ) ^ exponent) :
    (steps r (k - n) + 1) * (10 : ℚ) ^ (k - n) ≤ digits * 10 ^ exponent := by
  have hten : (0 : ℚ) < 10 ^ (k - 1) := by positivity
  rcases le_or_gt (k - n) exponent with hgrid | hfine
  · obtain ⟨D, hD⟩ := exists_steps digits hgrid
    rw [hD] at hgt ⊢
    have hsteps := (steps_bounds (hten.le.trans hlow) (k - n)).1
    have hmore : steps r (k - n) < D := by
      exact_mod_cast lt_of_mul_lt_mul_right (hsteps.trans_lt hgt) (by positivity)
    gcongr
    exact_mod_cast hmore
  · have hless := lt_of_exponent_lt hdigits hfine
    linarith

/-- The whole steps to a number, or one step more. -/
def IsNeighbour (r : ℚ) (exponent : ℤ) (F : ℕ) : Prop :=
  F = steps r exponent ∨ F = steps r exponent + 1

section Neighbours

variable (hx : x.isFinite = true) (hzero : x.isZero = false)
  (hk₁ : (10 : ℚ) ^ (k - 1) ≤ x.magnitude) (hk₂ : x.magnitude < 10 ^ k) (hn₁ : 1 ≤ n)
  (hn₂ : n ≤ 17)

include hx hzero hk₁ hk₂ hn₁ hn₂

omit hn₂ in
/-- A neighbour on a grid has at most one digit more than the grid and is near the double. -/
theorem neighbour_near {F : ℕ} (hF : IsNeighbour x.magnitude (k - n) F) :
    F ≠ 0 ∧ F ≤ 10 ^ n ∧ x.magnitude ≤ 2 * (F * 10 ^ (k - n)) ∧
      F * (10 : ℚ) ^ (k - n) ≤ 2 * x.magnitude := by
  obtain ⟨hlow, hhigh⟩ := steps_bounds (magnitude_pos hx hzero).le (k - n)
  obtain ⟨hdigits₁, hdigits₂⟩ := steps_digits hk₁ hk₂ hn₁
  have hone : 1 ≤ 10 ^ (n - 1) := Nat.one_le_pow _ _ (by norm_num)
  unfold IsNeighbour at hF
  generalize steps x.magnitude (k - n) = f at *
  have hf : (1 : ℚ) ≤ f := by exact_mod_cast hone.trans hdigits₁
  have hF₁ : (f : ℚ) ≤ F := by exact_mod_cast (by omega : f ≤ F)
  have hF₂ : (F : ℚ) ≤ f + 1 := by exact_mod_cast (by omega : F ≤ f + 1)
  have hpow : (0 : ℚ) < 10 ^ (k - n) := by positivity
  have hfirst : (10 : ℚ) ^ (k - n) ≤ f * 10 ^ (k - n) := le_mul_of_one_le_left hpow.le hf
  have hleast : f * (10 : ℚ) ^ (k - n) ≤ F * 10 ^ (k - n) := by gcongr
  have hgreatest : F * (10 : ℚ) ^ (k - n) ≤ (f + 1) * 10 ^ (k - n) := by gcongr
  exact ⟨by omega, by omega, by linarith, by linarith⟩

/-- A neighbour on a grid reads back exactly if its value is rounded to the double. -/
theorem neighbour_reads_iff {F : ℕ} (hF : IsNeighbour x.magnitude (k - n) F) :
    ofDecimal x.isNegative F (k - n) = x ↔ roundBits (F * 10 ^ (k - n)) = x.magnitudeBits := by
  obtain ⟨hne, hlength, hlow, hhigh⟩ := neighbour_near hx hzero hk₁ hk₂ hn₁ hF
  have hten : 10 ^ n ≤ 10 ^ 17 := Nat.pow_le_pow_right (by norm_num) hn₂
  have hlarge : 10 ^ 17 < 2 ^ 2000 := by decide +kernel
  have hpos := magnitude_pos hx hzero
  exact reads_iff hx hzero hne (by omega) (by linarith) (by linarith)

/-- If a decimal of at most `n` digits reads back, a neighbour does that is no farther away. -/
theorem neighbour_reads_of_reads (hdigits : digits < 10 ^ n)
    (h : ofDecimal x.isNegative digits exponent = x) :
    ∃ F : ℕ, IsNeighbour x.magnitude (k - n) F ∧ ofDecimal x.isNegative F (k - n) = x ∧
      |F * 10 ^ (k - n) - x.magnitude| ≤ |digits * 10 ^ exponent - x.magnitude| := by
  obtain ⟨hne, hbits⟩ := roundBits_of_ofDecimal hx hzero h
  have hself := roundBits_magnitude hx hzero
  have hpos := magnitude_pos hx hzero
  have hvalue : 0 < digits * (10 : ℚ) ^ exponent := by
    have hdigits' : (0 : ℚ) < digits := by exact_mod_cast Nat.pos_of_ne_zero hne
    positivity
  obtain ⟨hlow, hhigh⟩ := steps_bounds hpos.le (k - n)
  rcases le_or_gt (digits * (10 : ℚ) ^ exponent) x.magnitude with hle | hgt
  · -- The lower neighbour is between the decimal and the double.
    have hbetween := le_lower hk₁ hk₂ hn₁ hdigits hle
    refine ⟨_, .inl rfl, (neighbour_reads_iff hx hzero hk₁ hk₂ hn₁ hn₂ (.inl rfl)).mpr ?_, ?_⟩
    · exact le_antisymm (hself ▸ roundBits_mono (hvalue.trans_le hbetween) hlow)
        (hbits ▸ roundBits_mono hvalue hbetween)
    · rw [abs_of_nonpos (by linarith), abs_of_nonpos (by linarith)]
      linarith
  · -- The upper neighbour is between the double and the decimal.
    have hbetween := upper_le hk₁ hdigits hgt
    refine ⟨_, .inr rfl, (neighbour_reads_iff hx hzero hk₁ hk₂ hn₁ hn₂ (.inr rfl)).mpr ?_, ?_⟩ <;>
      push_cast
    · exact le_antisymm (hbits ▸ roundBits_mono (hpos.trans hhigh) hbetween)
        (hself ▸ roundBits_mono hpos hhigh.le)
    · rw [abs_of_nonneg (by linarith), abs_of_nonneg (by linarith)]
      linarith

/-- On the grid of seventeen digits one of the neighbours reads back. -/
theorem neighbour_reads_seventeen (hn : n = 17) :
    ∃ F, IsNeighbour x.magnitude (k - n) F ∧ ofDecimal x.isNegative F (k - n) = x := by
  have hpos := magnitude_pos hx hzero
  obtain ⟨hlow, hhigh⟩ := steps_bounds hpos.le (k - n)
  have hfirst := first_le_steps hk₁ hk₂ hn₁
  have hstep : 10 ^ 16 * (10 : ℚ) ^ (k - n) ≤ x.magnitude := by
    refine le_trans (le_of_eq ?_) hk₁
    rw [hn, ← zpow_natCast, ← zpow_add₀ (by norm_num)]
    congr 1
    push_cast
    ring
  have hpart : (10 : ℚ) ^ (k - n) / 2 < x.magnitude / 2 ^ 54 := by
    rw [lt_div_iff₀ (by positivity)]
    have hpow : (0 : ℚ) < 10 ^ (k - n) := by positivity
    linarith
  have hten : (0 : ℚ) < 10 ^ (k - 1) := by positivity
  -- The nearer neighbour is at most half a step away.
  rcases le_or_gt (x.magnitude - steps x.magnitude (k - n) * 10 ^ (k - n)) (10 ^ (k - n) / 2) with
    hnear | hfar
  · refine ⟨_, .inl rfl, (neighbour_reads_iff hx hzero hk₁ hk₂ hn₁ hn₂ (.inl rfl)).mpr ?_⟩
    exact roundBits_of_close hx (by linarith) (by linarith) (by linarith)
  · refine ⟨_, .inr rfl, (neighbour_reads_iff hx hzero hk₁ hk₂ hn₁ hn₂ (.inr rfl)).mpr ?_⟩
    push_cast
    exact roundBits_of_close hx (by linarith) (by linarith) (by linarith)

end Neighbours

/-! ## The choice between two neighbours -/

/-- Which neighbour is nearer is decided by the part of a step that is left. -/
theorem nearer_neighbour (hr : 0 ≤ r) (exponent : ℤ) :
    (r / 10 ^ exponent - steps r exponent ≤ 1 / 2 →
      |steps r exponent * 10 ^ exponent - r| ≤ |(steps r exponent + 1) * 10 ^ exponent - r|) ∧
    (1 / 2 ≤ r / 10 ^ exponent - steps r exponent →
      |(steps r exponent + 1) * 10 ^ exponent - r| ≤ |steps r exponent * 10 ^ exponent - r|) := by
  obtain ⟨hlow, hhigh⟩ := steps_bounds hr exponent
  have hpos : (0 : ℚ) < 10 ^ exponent := by positivity
  rw [abs_of_nonpos (by linarith), abs_of_nonneg (by linarith)]
  constructor
  · intro h
    rw [sub_le_iff_le_add, div_le_iff₀ hpos] at h
    linarith
  · intro h
    rw [le_sub_iff_add_le, le_div_iff₀ hpos] at h
    linarith

/-- A neighbour that reads back, and no other one that does is nearer. -/
structure IsChoice (x : Binary64) (exponent : ℤ) (F : ℕ) : Prop where
  /-- It is a neighbour. -/
  neighbour : IsNeighbour x.magnitude exponent F
  /-- It reads back. -/
  reads : ofDecimal x.isNegative F exponent = x
  /-- It is the nearest one. -/
  nearest : ∀ F' : ℕ, IsNeighbour x.magnitude exponent F' →
    ofDecimal x.isNegative F' exponent = x →
    |F * 10 ^ exponent - x.magnitude| ≤ |F' * 10 ^ exponent - x.magnitude|

/-- The lower neighbour is the choice if it reads back and the upper one is no nearer. -/
theorem isChoice_lower {f : ℕ} (hf : f = steps x.magnitude exponent)
    (hlow : ofDecimal x.isNegative f exponent = x)
    (h : ofDecimal x.isNegative (f + 1) exponent = x →
      |f * 10 ^ exponent - x.magnitude| ≤ |(f + 1) * 10 ^ exponent - x.magnitude|) :
    IsChoice x exponent f := by
  subst hf
  refine ⟨.inl rfl, hlow, ?_⟩
  rintro F' (rfl | rfl) hread
  · exact le_rfl
  · push_cast
    exact h hread

/-- The upper neighbour is the choice if it reads back and the lower one is no nearer. -/
theorem isChoice_upper {f : ℕ} (hf : f = steps x.magnitude exponent)
    (hhigh : ofDecimal x.isNegative (f + 1) exponent = x)
    (h : ofDecimal x.isNegative f exponent = x →
      |(f + 1) * 10 ^ exponent - x.magnitude| ≤ |f * 10 ^ exponent - x.magnitude|) :
    IsChoice x exponent (f + 1) := by
  subst hf
  refine ⟨.inr rfl, hhigh, ?_⟩
  rintro F' (rfl | rfl) hread
  · push_cast
    exact h hread
  · exact le_rfl

/-- A double without its sign. -/
def unsigned (x : Binary64) : Binary64 := ofMagnitude false x.magnitudeBits

/-- A decimal reads back exactly if it does without the sign. -/
theorem reads_unsigned_iff (hx : x.isFinite = true) (digits : ℕ) (exponent : ℤ) :
    ofDecimal false digits exponent = unsigned x ↔
      ofDecimal x.isNegative digits exponent = x := by
  have hlt : x.magnitudeBits < infinityBits := of_decide_eq_true hx
  obtain ⟨n, hn, hof⟩ := exists_ofDecimal digits exponent
  rw [hof, hof, unsigned]
  constructor <;> intro h
  · have hbits := congrArg magnitudeBits h
    rw [(ofMagnitude_spec false hn).2, (ofMagnitude_spec false hlt.le).2] at hbits
    rw [hbits, ofMagnitude_self]
  · have hbits := congrArg magnitudeBits h
    rw [(ofMagnitude_spec _ hn).2] at hbits
    rw [hbits]

/-- What is chosen on a grid is the nearest neighbour that reads back, and nothing is chosen only if
neither does. -/
theorem nearestOfLength_cases (hx : x.isFinite = true) {num den : ℕ} (hden : 0 < den)
    (hratio : (num / den : ℚ) = x.magnitude) (k : ℤ) (n : ℕ) :
    (nearestOfLength (unsigned x) num den k n = none ∧
      ∀ F, IsNeighbour x.magnitude (k - n) F → ofDecimal x.isNegative F (k - n) ≠ x) ∨
    ∃ F, IsChoice x (k - n) F ∧ nearestOfLength (unsigned x) num den k n = some ⟨F, k - n⟩ := by
  unfold nearestOfLength
  dsimp only [Decimal.toBinary64]
  -- The magnitude in steps of the grid, as a fraction of natural numbers.
  generalize hquotient : (if 0 ≤ k - n then (num, den * Nat.pow 10 (k - n).toNat)
    else (num * Nat.pow 10 (-(k - n)).toNat, den)) = quotient
  have hvalue : (quotient.1 / quotient.2 : ℚ) = x.magnitude / 10 ^ (k - n) := by
    have hten : ((10 : ℕ) : ℚ) = 10 := Nat.cast_ofNat
    rw [← hquotient, ← hten, ← hratio]
    split_ifs with h
    · exact quotient_of_nonneg 10 h
    · exact quotient_of_neg 10 h
  have hpos : 0 < quotient.2 := by
    rw [← hquotient]
    split_ifs
    · exact Nat.mul_pos hden (Nat.pow_pos (by decide))
    · exact hden
  -- Its quotient is the lower neighbour, and the remainder tells which of the two is nearer.
  have hsteps : quotient.1 / quotient.2 = steps x.magnitude (k - n) := by
    rw [steps, ← hvalue, Nat.floor_div_eq_div]
  have hr : 0 ≤ x.magnitude := by
    rw [← hratio]
    positivity
  obtain ⟨hless, hmore⟩ := fraction_half_iff quotient.1 hpos
  obtain ⟨hlower, hupper⟩ := nearer_neighbour hr (k - n)
  rw [hvalue] at hless hmore
  rw [← hsteps] at hlower hupper
  -- Which of the two neighbours reads back as the double.
  cases hlow : ofDecimal false (quotient.1 / quotient.2) (k - n) == unsigned x <;>
    cases hhigh : ofDecimal false (quotient.1 / quotient.2 + 1) (k - n) == unsigned x <;>
    simp only [beq_iff_eq, beq_eq_false_iff_ne, ne_eq, reads_unsigned_iff hx] at hlow hhigh
  · -- Neither: nothing is found.
    refine .inl ⟨rfl, ?_⟩
    rintro F (rfl | rfl)
    · rwa [← hsteps]
    · rwa [← hsteps]
  · -- Only the upper one,
    exact .inr ⟨_, isChoice_upper hsteps hhigh fun h => absurd h hlow, rfl⟩
  · -- only the lower one,
    exact .inr ⟨_, isChoice_lower hsteps hlow fun h => absurd h hhigh, rfl⟩
  · -- The remainder decides between the two, and a tie the last digit.
    dsimp only
    split_ifs with hfirst hsecond
    · exact .inr ⟨_, isChoice_lower hsteps hlow fun _ => hlower (hless.mpr hfirst).le, rfl⟩
    · exact .inr ⟨_, isChoice_upper hsteps hhigh fun _ => hupper (hmore.mpr hsecond).le, rfl⟩
    · have htie := not_lt.mp (mt hmore.mp hsecond)
      exact .inr ⟨_, isChoice_lower hsteps hlow fun _ => hlower htie, rfl⟩
    · have htie := not_lt.mp (mt hless.mp hfirst)
      exact .inr ⟨_, isChoice_upper hsteps hhigh fun _ => hupper htie, rfl⟩

/-! ## The search -/

/-- Dropping the sign keeps the magnitude. -/
theorem unsigned_magnitude (hx : x.isFinite = true) : (unsigned x).magnitude = x.magnitude := by
  have hlt : x.magnitudeBits < infinityBits := of_decide_eq_true hx
  rw [magnitude, magnitude, scaled, scaled, unsigned, (ofMagnitude_spec false hlt.le).2]

/-- The numbers in front of one in a range are the smaller ones. -/
theorem mem_of_range_append {m i j : ℕ} {l l' : List ℕ} (h : List.range m = l ++ i :: l')
    (hj : j < i) : j ∈ l := by
  have hi : i ∈ List.range m := by rw [h]; simp
  have hmem : j ∈ l ++ i :: l' := by
    rw [← h, List.mem_range]
    exact hj.trans (List.mem_range.mp hi)
  have hsorted : (l ++ i :: l').Pairwise (· < ·) := h ▸ List.pairwise_lt_range
  rcases List.mem_append.mp hmem with hl | hl
  · exact hl
  · have hrest := (List.pairwise_cons.mp (List.pairwise_append.mp hsorted).2.1).1
    rcases List.mem_cons.mp hl with rfl | hl
    · exact absurd hj (lt_irrefl _)
    · exact absurd (hrest j hl) (by omega)

/-- The search ends on the first grid with a neighbour that reads back. -/
theorem search_spec (hx : x.isFinite = true) (hzero : x.isZero = false) {num den : ℕ}
    (hden : 0 < den) (hratio : (num / den : ℚ) = x.magnitude)
    (hk₁ : (10 : ℚ) ^ (k - 1) ≤ x.magnitude) (hk₂ : x.magnitude < 10 ^ k) :
    ∃ n F : ℕ, 1 ≤ n ∧ n ≤ 17 ∧ IsChoice x (k - n) F ∧
      ((List.range 17).findSome? fun i => nearestOfLength (unsigned x) num den k (i + 1)) =
        some ⟨F, k - n⟩ ∧
      ∀ m : ℕ, 1 ≤ m → m < n → ∀ F', IsNeighbour x.magnitude (k - m) F' →
        ofDecimal x.isNegative F' (k - m) ≠ x := by
  have hcases := nearestOfLength_cases hx hden hratio k
  cases hfound : (List.range 17).findSome? fun i =>
      nearestOfLength (unsigned x) num den k (i + 1) with
  | none =>
    -- On the grid of seventeen digits there is such a neighbour.
    obtain ⟨F, hF, hread⟩ := neighbour_reads_seventeen hx hzero hk₁ hk₂ (by omega) le_rfl rfl
    have hnone := List.findSome?_eq_none_iff.mp hfound 16 (by decide)
    obtain ⟨-, hnot⟩ | ⟨F', -, hsome⟩ := hcases 17
    · exact absurd hread (hnot F hF)
    · cases hnone.symm.trans hsome
  | some d =>
    -- The search is in the order of the lengths, so nothing shorter was found.
    obtain ⟨before, i, after, hrange, hsome, hbefore⟩ := List.findSome?_eq_some_iff.mp hfound
    have hi : i < 17 := by
      rw [← List.mem_range, hrange]
      simp
    obtain ⟨hnone, -⟩ | ⟨F, hF, hnearest⟩ := hcases (i + 1)
    · cases hnone.symm.trans hsome
    obtain rfl := Option.some.inj (hsome.symm.trans hnearest)
    refine ⟨i + 1, F, by omega, by omega, hF, rfl, ?_⟩
    intro m hm₁ hm₂ F' hF'
    obtain ⟨m, rfl⟩ := Nat.exists_eq_add_of_le' hm₁
    have hnone := hbefore m (mem_of_range_append hrange (by omega))
    obtain ⟨-, hnot⟩ | ⟨F'', -, hsome'⟩ := hcases (m + 1)
    · exact hnot F' hF'
    · cases hnone.symm.trans hsome'

/-- The search is made for the double without its sign. -/
theorem shortest_eq (hzero : x.isZero = false) :
    shortest x =
      match (List.range 17).findSome? fun i => nearestOfLength (unsigned x) (unsigned x).ratio.1
        (unsigned x).ratio.2 (decimalExponent (unsigned x).ratio.1 (unsigned x).ratio.2)
        (i + 1) with
      | some d => d.trimZeros
      | none =>
        let (m, q) := (unsigned x).scaled
        if 0 ≤ q then Decimal.trimZeros ⟨m * Nat.pow 2 q.toNat, 0⟩
        else Decimal.trimZeros ⟨m * Nat.pow 5 (-q).toNat, q⟩ := by
  rw [shortest, if_neg (by rw [hzero]; exact Bool.false_ne_true)]
  rfl

/-- The shortest decimal of a double is the choice on the first grid that has one, without trailing
zeros; and no decimal with fewer digits than the grid reads back. -/
theorem exists_shortest (hx : x.isFinite = true) (hzero : x.isZero = false) :
    ∃ (k : ℤ) (n F : ℕ), (10 : ℚ) ^ (k - 1) ≤ x.magnitude ∧ x.magnitude < 10 ^ k ∧ 1 ≤ n ∧
      n ≤ 17 ∧ IsChoice x (k - n) F ∧ shortest x = Decimal.trimZeros ⟨F, k - n⟩ ∧
      ∀ m : ℕ, 1 ≤ m → m < n → ∀ digits exponent, digits < 10 ^ m →
        ofDecimal x.isNegative digits exponent ≠ x := by
  obtain ⟨hden, hratio⟩ := ratio_spec (unsigned x)
  rw [unsigned_magnitude hx] at hratio
  have hpos := magnitude_pos hx hzero
  have hnum : 0 < (unsigned x).ratio.1 := by
    refine Nat.pos_of_ne_zero fun h => ?_
    rw [← hratio, h, Nat.cast_zero, zero_div] at hpos
    exact lt_irrefl _ hpos
  obtain ⟨hlow, hhigh⟩ := magnitude_bounds hx hzero
  -- The bounds of the doubles put the logarithm where `decimalExponent` is right.
  have hlog₁ : -1074 ≤ Int.log 2 x.magnitude :=
    (Int.zpow_le_iff_le_log (b := 2) one_lt_two hpos).mp (by exact_mod_cast hlow)
  have hlog₂ : Int.log 2 x.magnitude < 1024 :=
    (Int.lt_zpow_iff_log_lt (b := 2) one_lt_two hpos).mp (by exact_mod_cast hhigh)
  obtain ⟨hk₁, hk₂⟩ :=
    decimalExponent_spec hnum hden (by rw [hratio]; omega) (by rw [hratio]; omega)
  rw [hratio] at hk₁ hk₂
  obtain ⟨n, F, hn₁, hn₂, hF, hfound, hless⟩ := search_spec hx hzero hden hratio hk₁ hk₂
  refine ⟨_, n, F, hk₁, hk₂, hn₁, hn₂, hF, ?_, ?_⟩
  · rw [shortest_eq hzero, hfound]
  · intro m hm₁ hm₂ digits exponent hdigits h
    -- A shorter decimal that reads back has a neighbour on its grid that does, too.
    obtain ⟨F', hF', hread, -⟩ :=
      neighbour_reads_of_reads hx hzero hk₁ hk₂ hm₁ (by omega) hdigits h
    exact hless m hm₁ hm₂ F' hF' hread

/-! ## What is found -/

/-- The shortest decimal of a zero is zero. -/
theorem shortest_of_isZero (hzero : x.isZero = true) : shortest x = ⟨0, 0⟩ := if_pos hzero

/-- The shortest decimal of a double is near it and is rounded to it. -/
theorem shortest_spec (hx : x.isFinite = true) (hzero : x.isZero = false) :
    (shortest x).digits % 10 ≠ 0 ∧ (shortest x).digits ≤ 10 ^ 17 ∧
      x.magnitude ≤ 2 * (shortest x).value ∧ (shortest x).value ≤ 2 * x.magnitude ∧
      roundBits (shortest x).value = x.magnitudeBits := by
  obtain ⟨k, n, F, hk₁, hk₂, hn₁, hn₂, hF, hshortest, -⟩ := exists_shortest hx hzero
  obtain ⟨hne, hlength, hlow, hhigh⟩ := neighbour_near hx hzero hk₁ hk₂ hn₁ hF.neighbour
  obtain ⟨hvalue, hle, hlast⟩ := trimZeros_spec (d := ⟨F, k - n⟩) hne
  have hten : 10 ^ n ≤ 10 ^ 17 := Nat.pow_le_pow_right (by norm_num) hn₂
  have hround := (roundBits_of_ofDecimal hx hzero hF.reads).2
  rw [hshortest, hvalue]
  exact ⟨hlast, hle.trans (hlength.trans hten), hlow, hhigh, hround⟩

/-- A decimal with the value of the shortest one reads back, unless it is extremely long. -/
theorem reads_of_value (hx : x.isFinite = true) (hzero : x.isZero = false)
    (hvalue : digits * (10 : ℚ) ^ exponent = (shortest x).value) (hlength : digits < 2 ^ 2000) :
    ofDecimal x.isNegative digits exponent = x := by
  obtain ⟨-, -, hlow, hhigh, hround⟩ := shortest_spec hx hzero
  have hpos := magnitude_pos hx hzero
  rw [← hvalue] at hlow hhigh hround
  have hne : digits ≠ 0 := by
    rintro rfl
    rw [Nat.cast_zero, zero_mul] at hlow
    linarith
  exact (reads_iff hx hzero hne hlength (by linarith) (by linarith)).mpr hround

/-- A zero is the zero of its sign. -/
theorem zero_isNegative (hzero : x.isZero = true) : Binary64.zero x.isNegative = x := by
  have hbits : x.magnitudeBits = 0 := by simpa [isZero] using hzero
  rw [Binary64.zero, ← hbits, ofMagnitude_self]

/-- A zero has no magnitude. -/
theorem magnitude_of_isZero (hzero : x.isZero = true) : x.magnitude = 0 := by
  have hbits : x.magnitudeBits = 0 := by simpa [isZero] using hzero
  rw [magnitude, scaled, hbits]
  simp

/-- How many digits the numeral of a decimal has. -/
def Decimal.length (d : Decimal) : ℕ := (Text.ofNat d.digits).length

/-- A decimal has at least one digit. -/
theorem Decimal.length_pos (d : Decimal) : 0 < d.length :=
  List.length_pos_iff.mpr (Text.ofNat_ne_nil _)

/-- A decimal has at most so many digits as its digits are below that power of ten. -/
theorem Decimal.length_le_iff {d : Decimal} (hn : 0 < n) : d.length ≤ n ↔ d.digits < 10 ^ n :=
  Text.length_ofNat_le_iff hn

/-- A decimal reads back as a double, none with fewer digits does, and none with as many is
nearer. -/
structure IsShortest (x : Binary64) (d : Decimal) : Prop where
  /-- The decimal reads back. -/
  reads : d.toBinary64 x.isNegative = x
  /-- Every decimal that reads back has as many digits. -/
  least : ∀ d' : Decimal, d'.toBinary64 x.isNegative = x → d.length ≤ d'.length
  /-- A decimal that reads back and is nearer has more digits. -/
  nearest : ∀ d' : Decimal, d'.toBinary64 x.isNegative = x → d'.length ≤ d.length →
    |d.value - x.magnitude| ≤ |d'.value - x.magnitude|

/-- The zero that is found for a zero is as short as decimals are. -/
theorem isShortest_of_isZero (hzero : x.isZero = true) : IsShortest x (shortest x) := by
  have hvalue : Decimal.value ⟨0, 0⟩ = 0 := by simp [Decimal.value]
  rw [shortest_of_isZero hzero]
  refine ⟨zero_isNegative hzero, fun d' _ => d'.length_pos, fun d' _ _ => ?_⟩
  rw [hvalue, magnitude_of_isZero hzero, sub_zero, abs_zero]
  exact abs_nonneg _

/-- The decimal that is found for a finite double is its shortest one. -/
theorem isShortest_shortest (hx : x.isFinite = true) : IsShortest x (shortest x) := by
  cases hzero : x.isZero with
  | true => exact isShortest_of_isZero hzero
  | false =>
    obtain ⟨k, n, F, hk₁, hk₂, hn₁, hn₂, hF, hshortest, hless⟩ := exists_shortest hx hzero
    obtain ⟨hne, hF', -, -⟩ := neighbour_near hx hzero hk₁ hk₂ hn₁ hF.neighbour
    obtain ⟨hvalue, hle, hlast⟩ := trimZeros_spec (d := ⟨F, k - n⟩) hne
    have hlarge : 10 ^ 17 < 2 ^ 2000 := by decide +kernel
    have hdigits := (shortest_spec hx hzero).2.1
    rw [← hshortest] at hvalue hle hlast
    -- The first power of ten with more digits than the grid is trimmed.
    have hpow : (shortest x).digits ≠ 10 ^ n := by
      intro h
      obtain ⟨m, rfl⟩ := Nat.exists_eq_add_of_le' hn₁
      rw [h, pow_succ, Nat.mul_mod_left] at hlast
      exact hlast rfl
    have hlength : (shortest x).length ≤ n :=
      (Decimal.length_le_iff hn₁).mpr (lt_of_le_of_ne (hle.trans hF') hpow)
    refine ⟨reads_of_value hx hzero rfl (by omega), fun d' hread => ?_, fun d' hread hmost => ?_⟩
    · -- No decimal with fewer digits reads back,
      by_contra hnot
      have hdigits' := (Decimal.length_le_iff d'.length_pos).mp le_rfl
      exact hless d'.length d'.length_pos (by omega) _ _ hdigits' hread
    · -- and none with as many is nearer.
      have hdigits' := (Decimal.length_le_iff hn₁).mp (hmost.trans hlength)
      obtain ⟨F', hF', hread', hnear⟩ :=
        neighbour_reads_of_reads hx hzero hk₁ hk₂ hn₁ hn₂ hdigits' hread
      rw [hvalue]
      exact (hF.nearest F' hF' hread').trans hnear

end RemoteRead.Number
