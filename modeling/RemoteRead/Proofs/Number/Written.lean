import Mathlib.Algebra.Order.Field.Rat
import Mathlib.Tactic.NormNum
import Mathlib.Tactic.Positivity
import Mathlib.Tactic.Ring
import RemoteRead.Proofs.Number.Decimal
import RemoteRead.Proofs.Number.Numeral

/-!
# Decimals written out

The forms in which decimals are written are numerals of documents: digits with a point among them
(`positional_numeral`), a whole number with a point and a zero behind it (`pointZero_numeral`), and
digits with an exponent (`scientific_numeral`). Each denotes the value of the decimal. Of the parts
of a numeral, `IsWhole` says which digits may be its whole part, and `pointed` is its fraction as it
is written.
-/

namespace RemoteRead.Json

variable {whole fraction power rest : Text} {exponent : Option Int}

/-! ## The parts of a numeral -/

/-- Digits that may be the whole part of a numeral: a zero, or digits that start with none. -/
def IsWhole (ds : Text) : Prop :=
  ds = [CodePoint.ofChar '0'] ∨ IsDigits ds ∧ ds.head? ≠ some (CodePoint.ofChar '0')

/-- A fraction behind its point, nothing for an empty one. -/
def pointed : Text → Text
  | [] => []
  | ds => CodePoint.ofChar '.' :: ds

/-- A text with a minus in front of it for a negative number. -/
def signed (negative : Bool) (t : Text) : Text := if negative then CodePoint.ofChar '-' :: t else t

/-- The magnitude that the parts of a numeral denote. -/
def magnitudeOf (whole fraction : Text) (exponent : Option Int) : ℚ :=
  Number.digitsVal (whole ++ fraction) * 10 ^ (exponent.getD 0 - fraction.length)

/-- A whole part is made of digits. -/
theorem IsWhole.isDigits (h : IsWhole whole) : IsDigits whole := by
  rcases h with rfl | h
  · exact ⟨List.cons_ne_nil _ _, by decide⟩
  · exact h.1

/-- A whole part stands in front of what does not go on with a digit. -/
theorem IsWhole.wholeAt (h : IsWhole whole) (hrest : NoDigit rest) :
    WholeAt (whole ++ rest) whole rest := by
  rcases h with rfl | ⟨hdigits, hzero⟩
  · exact .zero rest
  · exact .digits hdigits hzero hrest

/-- What no exponent or the letter of one starts with is neither a digit nor a point. -/
theorem noDigit_of_exponentAt (h : ExponentAt power exponent []) :
    NoDigit power ∧ ∀ ds rest, ¬ PointAt power ds rest := by
  constructor
  · intro c hc
    have hmem := h.head c hc
    clear hc
    revert c
    decide
  · rintro ds rest ⟨rfl, -⟩
    exact absurd (h.head _ rfl) (by decide)

/-- The end of a text has no exponent. -/
theorem exponentAt_nil : ExponentAt [] none [] := by
  refine .absent ?_
  rintro e rest ⟨c, u, -, -, hnil, -⟩
  cases hnil

/-- The parts of a numeral, put together. -/
theorem numeralAt_of_parts (negative : Bool) (hwhole : IsWhole whole)
    (hfraction : ∀ c ∈ fraction, c.isDigit = true) (hpower : ExponentAt power exponent []) :
    NumeralAt (signed negative (whole ++ (pointed fraction ++ power))) negative whole fraction
      exponent [] := by
  obtain ⟨hnoDigit, hnoPoint⟩ := noDigit_of_exponentAt hpower
  refine ⟨whole ++ (pointed fraction ++ power), pointed fraction ++ power, power, ?_, ?_, ?_,
    hpower⟩
  · -- The sign: a numeral without one starts with a digit.
    cases negative with
    | true => exact .minus _
    | false =>
      obtain ⟨hne, hdigits⟩ := hwhole.isDigits
      refine .absent ?_
      rw [signed, if_neg Bool.false_ne_true, List.head?_append_of_ne_nil _ hne]
      intro hminus
      exact absurd (hdigits _ (List.mem_of_mem_head? hminus)) (by decide)
  · -- The whole part ends before the point, or before the exponent where there is none.
    refine hwhole.wholeAt ?_
    cases fraction with
    | nil => exact hnoDigit
    | cons c ds =>
      rintro d hd
      obtain rfl := Option.some.inj hd
      decide
  · cases fraction with
    | nil => exact .absent hnoPoint
    | cons c ds => exact .point ⟨rfl, ⟨List.cons_ne_nil _ _, hfraction⟩, hnoDigit⟩

end RemoteRead.Json

namespace RemoteRead.Number

open Json

/-! ## Whole numbers and points -/

/-- The numeral of a number is a whole part. -/
theorem isWhole_ofNat (n : Nat) : IsWhole (Text.ofNat n) := by
  rcases Nat.eq_zero_or_pos n with rfl | hn
  · exact .inl rfl
  · exact .inr ⟨⟨Text.ofNat_ne_nil n, fun _ => Text.isDigit_of_mem_ofNat⟩, Text.head?_ofNat hn.ne'⟩

/-- A padded number is made of digits. -/
theorem isDigit_of_mem_padded {width n : Nat} {c : CodePoint} (h : c ∈ Text.padded width n) :
    c.isDigit = true := by
  rcases List.mem_append.mp h with h | h
  · rw [List.eq_of_mem_replicate h]
    decide
  · exact Text.isDigit_of_mem_ofNat h

/-- A padded number is as long as its width, or longer if its digits are. -/
theorem length_padded (width n : Nat) :
    (Text.padded width n).length = max width (Text.ofNat n).length := by
  rw [Text.padded, List.length_append, List.length_replicate]
  omega

/-- In front of the last `places` digits there is a whole part. -/
theorem isWhole_take_padded (n : Nat) {places : Nat} (hplaces : places ≠ 0) :
    IsWhole ((Text.padded (places + 1) n).take ((Text.padded (places + 1) n).length - places)) := by
  have hnumeral := List.length_pos_iff.mpr (Text.ofNat_ne_nil n)
  rw [length_padded]
  rcases Nat.lt_or_ge places (Text.ofNat n).length with hlong | hshort
  · -- The numeral is long enough, and a part of it.
    have hn : n ≠ 0 := by
      rintro rfl
      exact hplaces (Nat.lt_one_iff.mp hlong)
    have hpadded : Text.padded (places + 1) n = Text.ofNat n := by
      rw [Text.padded, Nat.sub_eq_zero_of_le hlong]
      rfl
    rw [hpadded, Nat.max_eq_right hlong]
    refine .inr ⟨⟨?_, fun c hc => Text.isDigit_of_mem_ofNat (List.mem_of_mem_take hc)⟩, ?_⟩
    · exact List.ne_nil_of_length_pos (by rw [List.length_take]; omega)
    · rw [List.head?_take, if_neg (by omega)]
      exact Text.head?_ofNat hn
  · -- The zero in front of all digits is the whole part.
    obtain ⟨k, hk⟩ : ∃ k, places + 1 - (Text.ofNat n).length = k + 1 :=
      Nat.exists_eq_add_of_le' (by omega)
    have hcount : max (places + 1) (Text.ofNat n).length - places = 1 := by omega
    rw [hcount, Text.padded, hk]
    exact .inl rfl

/-- Digits with a point in front of the last `places` of them. -/
theorem withPoint_spec (n : Nat) {places : Nat} (hplaces : places ≠ 0) :
    ∃ whole fraction, withPoint (Text.ofNat n) places = whole ++ pointed fraction ∧
      IsWhole whole ∧ (∀ c ∈ fraction, c.isDigit = true) ∧ fraction.length = places ∧
      digitsVal (whole ++ fraction) = n ∧ fraction.getLast? = (Text.ofNat n).getLast? := by
  have hlength := length_padded (places + 1) n
  have hwhole := isWhole_take_padded n hplaces
  -- Padded to one digit more than the places, the digits leave one before the point.
  have heq : withPoint (Text.ofNat n) places =
      (Text.padded (places + 1) n).take ((Text.padded (places + 1) n).length - places) ++
        CodePoint.ofChar '.' ::
          (Text.padded (places + 1) n).drop ((Text.padded (places + 1) n).length - places) := by
    rw [withPoint, if_neg hplaces]
    rfl
  have hvalue := digitsVal_padded (places + 1) n
  have hlast : (Text.padded (places + 1) n).getLast? = (Text.ofNat n).getLast? := by
    rw [Text.padded, List.getLast?_append_of_ne_nil _ (Text.ofNat_ne_nil n)]
  have hdigits : ∀ c ∈ Text.padded (places + 1) n, c.isDigit = true :=
    fun c => isDigit_of_mem_padded
  generalize Text.padded (places + 1) n = digits at *
  have hrest : (digits.drop (digits.length - places)).length = places := by
    rw [List.length_drop]
    omega
  refine ⟨digits.take (digits.length - places), digits.drop (digits.length - places), ?_, hwhole,
    ?_, hrest, ?_, ?_⟩
  · rw [heq]
    obtain ⟨c, ds, hfraction⟩ := List.exists_cons_of_length_pos
      (l := digits.drop (digits.length - places)) (by omega)
    rw [hfraction]
    rfl
  · exact fun c hc => hdigits c (List.mem_of_mem_drop hc)
  · rw [List.take_append_drop, hvalue]
  · rw [List.getLast?_drop, if_neg (by omega), hlast]

/-! ## Decimals -/

variable {d : Decimal}

/-- A whole number is scaled by a natural power of ten. -/
theorem cast_digits_scaled (h : 0 ≤ d.exponent) :
    ((d.digits * 10 ^ d.exponent.toNat : ℕ) : ℚ) = d.value := by
  rw [Decimal.value, Nat.cast_mul, Nat.cast_pow, Nat.cast_ofNat, ← zpow_natCast,
    Int.toNat_of_nonneg h]

/-- A decimal written out is a numeral of its value, without an exponent. A zero ends its fraction
only if it ends the digits. -/
theorem positional_numeral (negative : Bool) (d : Decimal) :
    ∃ whole fraction, NumeralAt (signed negative (positional d)) negative whole fraction none [] ∧
      magnitudeOf whole fraction none = d.value ∧
      digitsVal (whole ++ fraction) = d.digits * 10 ^ d.exponent.toNat ∧
      ((d.digits % 10 = 0 → 0 ≤ d.exponent) →
        fraction.getLast? ≠ some (CodePoint.ofChar '0')) := by
  rcases lt_or_ge d.exponent 0 with hneg | hnonneg
  · -- A negative exponent: the point stands among the digits, or in front of them.
    have hplaces : (-d.exponent).toNat ≠ 0 := by omega
    obtain ⟨whole, fraction, htext, hwhole, hfraction, hlength, hdigits, hlast⟩ :=
      withPoint_spec d.digits hplaces
    have htext' : positional d = whole ++ (pointed fraction ++ []) := by
      rw [positional, if_neg (by omega), htext, List.append_nil]
    refine ⟨whole, fraction, ?_, ?_, ?_, fun hzero => ?_⟩
    · rw [htext']
      exact numeralAt_of_parts negative hwhole hfraction exponentAt_nil
    · rw [magnitudeOf, hdigits, hlength, Decimal.value]
      congr 2
      rw [Option.getD_none]
      omega
    · rw [hdigits, Int.toNat_of_nonpos hneg.le, pow_zero, mul_one]
    · rw [hlast]
      exact Text.getLast?_ofNat (by omega)
  · -- Otherwise the digits are followed by zeros, and there is no fraction.
    have htext : positional d =
        Text.ofNat (d.digits * 10 ^ d.exponent.toNat) ++ (pointed [] ++ []) := by
      rw [positional, if_pos hnonneg, pointed, List.append_nil, List.append_nil]
      rfl
    refine ⟨Text.ofNat (d.digits * 10 ^ d.exponent.toNat), [], ?_, ?_, ?_, fun _ => ?_⟩
    · rw [htext]
      exact numeralAt_of_parts negative (isWhole_ofNat _) (List.forall_mem_nil _) exponentAt_nil
    · rw [magnitudeOf, List.append_nil, digitsVal_ofNat, cast_digits_scaled hnonneg]
      norm_num
    · rw [List.append_nil, digitsVal_ofNat]
    · simp

/-- A whole number with a point and a zero behind it is a numeral of its value. -/
theorem pointZero_numeral (negative : Bool) (hnonneg : 0 ≤ d.exponent) :
    ∃ whole fraction,
      NumeralAt (signed negative (positional d ++ Text.ofString ".0")) negative whole fraction none
        [] ∧
      magnitudeOf whole fraction none = d.value ∧
      digitsVal (whole ++ fraction) = 10 * (d.digits * 10 ^ d.exponent.toNat) := by
  have hzero : digitsVal (Text.ofNat (d.digits * 10 ^ d.exponent.toNat) ++ Text.ofString "0") =
      10 * (d.digits * 10 ^ d.exponent.toNat) := by
    show digitsVal (_ ++ [CodePoint.ofChar '0']) = _
    rw [digitsVal_concat, digitsVal_ofNat]
    rfl
  have htext : positional d ++ Text.ofString ".0" =
      Text.ofNat (d.digits * 10 ^ d.exponent.toNat) ++ (pointed (Text.ofString "0") ++ []) := by
    rw [positional, if_pos hnonneg]
    rfl
  refine ⟨Text.ofNat (d.digits * 10 ^ d.exponent.toNat), Text.ofString "0", ?_, ?_, hzero⟩
  · rw [htext]
    exact numeralAt_of_parts negative (isWhole_ofNat _) (by decide) exponentAt_nil
  · have hlength : (Text.ofString "0").length = 1 := rfl
    rw [magnitudeOf, hzero, hlength, Nat.cast_mul, cast_digits_scaled hnonneg, Option.getD_none]
    norm_num
    ring

/-- An exponent with a sign and at least two digits. -/
def powerText (e : Int) : Text :=
  CodePoint.ofChar 'e' :: (if e < 0 then CodePoint.ofChar '-' else CodePoint.ofChar '+') ::
    Text.padded 2 e.natAbs

/-- The written power of ten is spelled as an exponent. -/
theorem exponentAt_powerText (e : Int) : ExponentAt (powerText e) (some e) [] := by
  have hne : Text.padded 2 e.natAbs ≠ [] :=
    List.append_ne_nil_of_right_ne_nil _ (Text.ofNat_ne_nil _)
  refine .power ⟨_, _, decide (e < 0), Text.padded 2 e.natAbs, rfl, .inl rfl, ?_,
    ⟨hne, fun _ => isDigit_of_mem_padded⟩, by simp [NoDigit], ?_⟩
  · rw [List.append_nil]
    split_ifs with h
    · rw [decide_eq_true h]
      rfl
    · rw [decide_eq_false h]
      rfl
  · rw [wholeNumber, digitsVal_padded]
    simp only [decide_eq_true_eq]
    split_ifs <;> omega

/-- A decimal with an exponent is a numeral of its value. -/
theorem scientific_numeral (negative : Bool) (d : Decimal) :
    ∃ whole fraction exponent,
      NumeralAt (signed negative (scientific d)) negative whole fraction exponent [] ∧
      magnitudeOf whole fraction exponent = d.value ∧ digitsVal (whole ++ fraction) = d.digits := by
  obtain ⟨c, ds, hdigits⟩ := List.exists_cons_of_ne_nil (Text.ofNat_ne_nil d.digits)
  have hall : ∀ c' ∈ c :: ds, c'.isDigit = true := by
    rw [← hdigits]
    exact fun _ => Text.isDigit_of_mem_ofNat
  have hvalue : digitsVal ([c] ++ ds) = d.digits := by
    rw [List.singleton_append, ← hdigits, digitsVal_ofNat]
  -- One digit alone is a whole part, also when it is zero.
  have hwhole : IsWhole [c] := by
    by_cases hc : c = CodePoint.ofChar '0'
    · exact .inl (by rw [hc])
    · refine .inr ⟨⟨List.cons_ne_nil _ _, fun c' hc' => hall c' ?_⟩, by simpa using hc⟩
      exact List.mem_cons.mpr (.inl (List.mem_singleton.mp hc'))
  have htext : scientific d = [c] ++ (pointed ds ++ powerText (d.exponent + ds.length)) := by
    have hexponent : d.exponent + ((c :: ds).length : Int) - 1 = d.exponent + ds.length := by
      rw [List.length_cons]
      omega
    unfold scientific
    dsimp only
    rw [hdigits, hexponent]
    cases ds <;> rfl
  refine ⟨[c], ds, some (d.exponent + ds.length), ?_, ?_, hvalue⟩
  · rw [htext]
    exact numeralAt_of_parts negative hwhole (fun c' hc' => hall c' (List.mem_cons_of_mem c hc'))
      (exponentAt_powerText _)
  · rw [magnitudeOf, hvalue, Decimal.value, Option.getD_some, add_sub_cancel_right]

end RemoteRead.Number
