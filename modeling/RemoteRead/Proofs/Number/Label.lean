import RemoteRead.Cell
import RemoteRead.Proofs.Number.Shortest
import RemoteRead.Proofs.Number.Written

/-!
# Label values of doubles

The label of a double and the text that messages give for it are two spellings of its shortest
decimal, the first always written out, the second with an exponent for very large and very small
numbers. So they denote one number (`Cell.floatLabel_exact`), the label is read as the double again,
and only one double has that label.
-/

namespace RemoteRead

open Binary64 Number Json

variable {x : Binary64} {whole fraction t : Text} {exponent : Option Int} {negative : Bool} {r : ℚ}

namespace Number

/-- A text is a numeral of the given sign and magnitude. -/
def Denotes (t : Text) (negative : Bool) (r : ℚ) : Prop :=
  ∃ whole fraction exponent, NumeralAt t negative whole fraction exponent [] ∧
    magnitudeOf whole fraction exponent = r

/-- A text is a numeral of the given sign and magnitude, without an exponent and without a zero at
the end of its fraction. -/
def DenotesPlainly (t : Text) (negative : Bool) (r : ℚ) : Prop :=
  ∃ whole fraction, NumeralAt t negative whole fraction none [] ∧
    fraction.getLast? ≠ some (CodePoint.ofChar '0') ∧ magnitudeOf whole fraction none = r

/-! ## Reading the digits back -/

/-- The digits of a whole number that is written out are not extremely many. -/
theorem shortest_scaled_lt (hx : x.isFinite = true) :
    (shortest x).digits * 10 ^ (shortest x).exponent.toNat < 2 * 10 ^ 309 := by
  cases hzero : x.isZero
  · obtain ⟨-, hdigits, -, hhigh, -⟩ := shortest_spec hx hzero
    have hmagnitude := (magnitude_bounds_ten hx hzero).2
    rcases lt_or_ge (shortest x).exponent 0 with hneg | hnonneg
    · rw [Int.toNat_of_nonpos hneg.le, pow_zero, mul_one]
      exact hdigits.trans_lt (by decide +kernel)
    · have hvalue : (((shortest x).digits * 10 ^ (shortest x).exponent.toNat : ℕ) : ℚ) <
          2 * 10 ^ 309 := by
        rw [cast_digits_scaled hnonneg]
        have hpow : (10 : ℚ) ^ (309 : ℤ) = 10 ^ 309 := zpow_natCast 10 309
        rw [hpow] at hmagnitude
        exact hhigh.trans_lt (mul_lt_mul_of_pos_left hmagnitude two_pos)
      exact_mod_cast hvalue
  · rw [shortest_of_isZero hzero]
    decide +kernel

/-- A numeral with the value of the shortest decimal is read as the double. -/
theorem decimalNumber_eq (hx : x.isFinite = true)
    (hvalue : magnitudeOf whole fraction exponent = (shortest x).value)
    (hdigits : digitsVal (whole ++ fraction) ≤
      10 * ((shortest x).digits * 10 ^ (shortest x).exponent.toNat)) :
    decimalNumber x.isNegative whole fraction exponent = x := by
  cases hzero : x.isZero
  · have hlarge : 20 * 10 ^ 309 < 2 ^ 2000 := by decide +kernel
    have hless := shortest_scaled_lt hx
    exact reads_of_value hx hzero hvalue (by omega)
  · rw [shortest_of_isZero hzero] at hdigits
    have hnone : digitsVal (whole ++ fraction) = 0 := by simpa using hdigits
    rw [decimalNumber, hnone]
    exact zero_isNegative hzero

/-! ## Notations -/

/-- A finite double is written with its sign in front of its magnitude. -/
theorem render_of_isFinite (style : Notation) (hx : x.isFinite = true) :
    style.render x = signed x.isNegative (style.magnitude x) := by
  have hlt : x.magnitudeBits < infinityBits := of_decide_eq_true hx
  have hnan : x.isNaN = false := decide_eq_false (by omega)
  have hinfinite : x.isInfinite = false := beq_false_of_ne hlt.ne
  rw [Notation.render, if_neg (by rw [hnan]; decide), if_neg (by rw [hinfinite]; decide), signed]

/-- The label of a finite double is a plain numeral of its shortest decimal, and is read as the
double. -/
theorem label_spec (hx : x.isFinite = true) :
    DenotesPlainly (labelNotation.render x) x.isNegative (shortest x).value ∧
      readFloat (labelNotation.render x) = some x := by
  have hmagnitude : labelNotation.magnitude x = positional (shortest x) := by
    simp [Notation.magnitude, labelNotation]
  obtain ⟨whole, fraction, hnumeral, hvalue, hdigits, hlast⟩ :=
    positional_numeral x.isNegative (shortest x)
  rw [render_of_isFinite _ hx, hmagnitude]
  refine ⟨⟨whole, fraction, hnumeral, hlast ?_, hvalue⟩, ?_⟩
  · intro hten
    cases hzero : x.isZero
    · exact absurd hten (shortest_spec hx hzero).1
    · rw [shortest_of_isZero hzero]
  · rw [hnumeral.readFloat_eq, decimalNumber_eq hx hvalue (by omega)]

/-- The text of a finite double in messages is a numeral of its shortest decimal, and is read as the
double. -/
theorem plain_spec (hx : x.isFinite = true) :
    Denotes (plainNotation.render x) x.isNegative (shortest x).value ∧
      readFloat (plainNotation.render x) = some x := by
  -- Each notation writes a numeral of the right value whose digits stay below the limit of reading.
  suffices h : ∃ whole fraction exponent,
      NumeralAt (plainNotation.render x) x.isNegative whole fraction exponent [] ∧
        magnitudeOf whole fraction exponent = (shortest x).value ∧
        digitsVal (whole ++ fraction) ≤
          10 * ((shortest x).digits * 10 ^ (shortest x).exponent.toNat) by
    obtain ⟨whole, fraction, exponent, hnumeral, hvalue, hdigits⟩ := h
    refine ⟨⟨whole, fraction, exponent, hnumeral, hvalue⟩, ?_⟩
    rw [hnumeral.readFloat_eq, decimalNumber_eq hx hvalue hdigits]
  rw [render_of_isFinite _ hx]
  unfold Notation.magnitude
  dsimp only
  split_ifs with hwritten hneg
  · -- The digits with a point among them,
    obtain ⟨whole, fraction, hnumeral, hvalue, hdigits, -⟩ :=
      positional_numeral x.isNegative (shortest x)
    exact ⟨whole, fraction, none, hnumeral, hvalue, by omega⟩
  · -- a whole number with a zero behind its point,
    obtain ⟨whole, fraction, hnumeral, hvalue, hdigits⟩ :=
      pointZero_numeral x.isNegative (not_lt.mp hneg)
    exact ⟨whole, fraction, none, hnumeral, hvalue, hdigits.le⟩
  · -- or one digit before the point and an exponent.
    obtain ⟨whole, fraction, exponent, hnumeral, hvalue, hdigits⟩ :=
      scientific_numeral x.isNegative (shortest x)
    have hpow : 1 ≤ 10 ^ (shortest x).exponent.toNat := Nat.one_le_pow _ _ (by decide)
    have hscaled := Nat.le_mul_of_pos_right (shortest x).digits hpow
    exact ⟨whole, fraction, exponent, hnumeral, hvalue, by omega⟩

end Number

namespace Cell

/-- The label of a double other than NaN is read as the double. -/
theorem readFloat_floatLabel (hx : x.isNaN = false) : readFloat (floatLabel x) = some x := by
  have hle : ¬ infinityBits < x.magnitudeBits := of_decide_eq_false hx
  rcases (not_lt.mp hle).lt_or_eq with hlt | heq
  · exact (label_spec (decide_eq_true hlt)).2
  · have hself := ofMagnitude_self x
    rw [heq] at hself
    have hinfinite : x.isInfinite = true := beq_iff_eq.mpr heq
    have hlabel : floatLabel x =
        if x.isNegative then Text.ofString "-Inf" else Text.ofString "+Inf" := by
      rw [floatLabel, Notation.render, if_neg (by rw [hx]; decide), if_pos hinfinite]
      rfl
    have hread (negative : Bool) :
        readFloat (if negative then Text.ofString "-Inf" else Text.ofString "+Inf") =
          some (Binary64.infinity negative) := by
      cases negative <;> decide +kernel
    rw [hlabel, hread]
    exact congrArg some hself

/-- Different doubles have different labels, NaNs apart. -/
theorem floatLabel_inj {y : Binary64} (hx : x.isNaN = false) (hy : y.isNaN = false)
    (h : floatLabel x = floatLabel y) : x = y := by
  have hread := readFloat_floatLabel hx
  rw [h, readFloat_floatLabel hy] at hread
  exact (Option.some.inj hread).symm

/-- The label of a finite double is a plain numeral that denotes what the text of the double in
messages denotes, the sign of zero included: both spell the shortest decimal that reads back. The
label itself is read as the double, and no other double but a NaN has the same label. -/
theorem floatLabel_exact (x : Binary64) :
    (x.isFinite = true →
      (∃ d : Decimal, IsShortest x d ∧
        Denotes (plainNotation.render x) x.isNegative d.value ∧
        DenotesPlainly (floatLabel x) x.isNegative d.value) ∧
      readFloat (floatLabel x) = some x) ∧
    (x.isNaN = false → ∀ y : Binary64, y.isNaN = false → floatLabel x = floatLabel y → x = y) := by
  refine ⟨fun hx => ?_, fun hx y hy h => floatLabel_inj hx hy h⟩
  obtain ⟨hlabel, hread⟩ := label_spec hx
  exact ⟨⟨shortest x, isShortest_shortest hx, (plain_spec hx).1, hlabel⟩, hread⟩

/-- Ten to the power of 22 is written out in the label and has an exponent in messages. -/
theorem floatLabel_exact_largePower :
    (∃ d : Decimal, IsShortest (ofDecimal false 1 22) d ∧
      Denotes (Text.ofString "1e+22") false d.value ∧
      DenotesPlainly (Text.ofString "10000000000000000000000") false d.value) ∧
    readFloat (Text.ofString "10000000000000000000000") = some (ofDecimal false 1 22) ∧
    ofDecimal false 1 22 = ofDecimal false 10 21 := by
  have hlabel : floatLabel (ofDecimal false 1 22) = Text.ofString "10000000000000000000000" := by
    decide +kernel
  have hplain : plainNotation.render (ofDecimal false 1 22) = Text.ofString "1e+22" := by
    decide +kernel
  have hsign : (ofDecimal false 1 22).isNegative = false := by decide +kernel
  obtain ⟨hexact, hinj⟩ := floatLabel_exact (ofDecimal false 1 22)
  obtain ⟨hdenotes, hread⟩ := hexact (by decide +kernel)
  rw [hlabel, hplain, hsign] at hdenotes
  rw [hlabel] at hread
  exact ⟨hdenotes, hread, hinj (by decide +kernel) _ (by decide +kernel) (by decide +kernel)⟩

end Cell

end RemoteRead
