import Mathlib.Algebra.Group.Nat.Defs
import Mathlib.Data.List.Basic
import RemoteRead.Text.CodePoint

/-!
# Decimal numerals

The decimal form of a number consists of digits, at least one, and determines the number. In front
of a code point that is no digit, it can therefore be cut off again (`ofNat_append_inj`).
-/

namespace RemoteRead

/-- Different characters have different code points. -/
theorem CodePoint.ofChar_injective : Function.Injective CodePoint.ofChar := by
  intro c d h
  have hval : c.val.toNat = d.val.toNat := congrArg CodePoint.val h
  exact Char.ext (UInt32.toNat_inj.mp hval)

/-- Different strings are different texts. -/
theorem Text.ofString_injective : Function.Injective Text.ofString := fun _ _ h =>
  String.toList_inj.mp (List.map_injective_iff.mpr CodePoint.ofChar_injective h)

/-- The code point of a digit is a digit. -/
theorem CodePoint.isDigit_ofChar {c : Char} (h : c.isDigit = true) :
    (CodePoint.ofChar c).isDigit = true := by
  obtain ⟨hlow, hhigh⟩ := Char.isDigit_iff_toNat.mp h
  have hval : (CodePoint.ofChar c).val = c.toNat := rfl
  simp only [CodePoint.isDigit, CodePoint.within, hval, Bool.and_eq_true, decide_eq_true_eq]
  exact ⟨hlow, hhigh⟩

namespace Text

/-- A numeral has a digit. -/
theorem ofNat_ne_nil (n : Nat) : ofNat n ≠ [] := by
  simp [ofNat, Nat.toDigits_ne_nil]

/-- A numeral has digits only. -/
theorem isDigit_of_mem_ofNat {n : Nat} {c : CodePoint} (h : c ∈ ofNat n) : c.isDigit = true := by
  obtain ⟨d, hd, rfl⟩ := List.mem_map.mp h
  exact CodePoint.isDigit_ofChar (Nat.isDigit_of_mem_toDigits (by decide) (by decide) hd)

/-- A numeral has at most so many digits as its number is below that power of ten. -/
theorem length_ofNat_le_iff {n k : Nat} (hk : 0 < k) : (ofNat n).length ≤ k ↔ n < 10 ^ k := by
  rw [ofNat, List.length_map]
  exact Nat.length_toDigits_le_iff (by decide) hk

/-- Different numbers have different numerals. -/
theorem ofNat_injective : Function.Injective ofNat := by
  intro m n h
  have hdigits : Nat.toDigits 10 m = Nat.toDigits 10 n :=
    List.map_injective_iff.mpr CodePoint.ofChar_injective h
  rw [← Nat.ofDigitChars_ten_toDigits (n := m), hdigits, Nat.ofDigitChars_ten_toDigits]

/-- A numeral is all that stands before the first code point that is no digit. -/
theorem takeWhile_ofNat_append (n : Nat) {c : CodePoint} (hc : c.isDigit = false) (t : Text) :
    (ofNat n ++ c :: t).takeWhile CodePoint.isDigit = ofNat n := by
  rw [List.takeWhile_append_of_pos fun _ h => isDigit_of_mem_ofNat h]
  simp [hc]

/-- Two numerals in front of the same code point, which is no digit, are of one number and have the
same text behind them. -/
theorem ofNat_append_inj {m n : Nat} {c : CodePoint} (hc : c.isDigit = false) {s t : Text}
    (h : ofNat m ++ c :: s = ofNat n ++ c :: t) : m = n ∧ s = t := by
  have hnumeral : ofNat m = ofNat n := by
    rw [← takeWhile_ofNat_append m hc s, h, takeWhile_ofNat_append n hc t]
  rw [hnumeral] at h
  exact ⟨ofNat_injective hnumeral, (List.cons.inj (List.append_cancel_left h)).2⟩

end Text

end RemoteRead
