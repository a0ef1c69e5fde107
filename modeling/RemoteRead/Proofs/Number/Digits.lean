import RemoteRead.Number.Numeral
import RemoteRead.Proofs.Text.Decimal

/-!
# Digits

What a list of digits denotes when digits are put behind it or zeros in front of it, and that
a number is denoted by its numeral (`digitsVal_ofNat`). A numeral starts with a zero only for zero,
and ends in one only for a multiple of ten.
-/

namespace RemoteRead

variable {n : Nat} {c : CodePoint} {ds rest : Text}

/-! ## First and last digits -/

namespace Text

/-- The numeral of a number ends in its last digit. -/
theorem ofNat_eq (n : Nat) :
    ofNat n = (if n < 10 then [] else ofNat (n / 10)) ++ [CodePoint.ofChar (n % 10).digitChar] := by
  unfold ofNat
  rw [Nat.toDigits_eq_if (by decide)]
  split_ifs with h
  · rw [Nat.mod_eq_of_lt h]
    rfl
  · rw [List.map_append]
    rfl

/-- The code point of a digit is that of its character. -/
theorem ofChar_digitChar_eq_zero {d : Nat} :
    CodePoint.ofChar d.digitChar = CodePoint.ofChar '0' ↔ d = 0 := by
  rw [CodePoint.ofChar_injective.eq_iff, Nat.digitChar_eq_zero]

/-- The numeral of a number other than zero starts with no zero. -/
theorem head?_ofNat (hn : n ≠ 0) : (ofNat n).head? ≠ some (CodePoint.ofChar '0') := by
  induction n using Nat.strongRecOn with
  | ind n ih =>
    rw [ofNat_eq]
    split_ifs with h
    · rw [List.nil_append, List.head?_cons, Ne, Option.some.injEq, ofChar_digitChar_eq_zero]
      omega
    · rw [List.head?_append_of_ne_nil _ (ofNat_ne_nil _)]
      exact ih (n / 10) (by omega) (by omega)

/-- The numeral of a number ends in a zero only if ten divides the number. -/
theorem getLast?_ofNat (hn : n % 10 ≠ 0) : (ofNat n).getLast? ≠ some (CodePoint.ofChar '0') := by
  rw [ofNat_eq, List.getLast?_concat, Ne, Option.some.injEq, ofChar_digitChar_eq_zero]
  exact hn

end Text

/-! ## What digits denote -/

namespace Number

/-- The digits of a number denote it. -/
theorem digitsVal_ofNat (n : Nat) : digitsVal (Text.ofNat n) = n := by
  unfold digitsVal Text.ofNat
  rw [List.foldl_map]
  exact Nat.ofDigitChars_ten_toDigits

/-- A digit that is put behind others. -/
theorem digitsVal_concat (ds : Text) (c : CodePoint) :
    digitsVal (ds ++ [c]) = 10 * digitsVal ds + c.digitVal :=
  List.foldl_concat ..

/-- A zero in front of digits does not count. -/
theorem digitsVal_zero_cons (ds : Text) :
    digitsVal (CodePoint.ofChar '0' :: ds) = digitsVal ds := rfl

/-- Zeros in front of digits do not count. -/
theorem digitsVal_zeros_append (k : Nat) (ds : Text) :
    digitsVal (List.replicate k (CodePoint.ofChar '0') ++ ds) = digitsVal ds := by
  induction k with
  | zero => rfl
  | succ k ih => rw [List.replicate_succ, List.cons_append, digitsVal_zero_cons, ih]

/-- Zeros in front do not change what digits denote. -/
theorem digitsVal_padded (width n : Nat) : digitsVal (Text.padded width n) = n := by
  rw [Text.padded, digitsVal_zeros_append, digitsVal_ofNat]

/-! ## Runs of digits -/

/-- A run of digits ends in front of what is neither a digit nor an underscore. -/
theorem digitRun_append (hds : ∀ c ∈ ds, c.isDigit = true)
    (hrest : ∀ c ∈ rest.head?, c.isDigit = false ∧ c ≠ CodePoint.ofChar '_') :
    digitRun (ds ++ rest) = some (ds, rest) := by
  induction ds with
  | nil =>
    cases rest with
    | nil => rfl
    | cons c r =>
      have hc := (hrest c rfl).1
      unfold digitRun
      simp [hc]
  | cons d ds ih =>
    have hd := hds d List.mem_cons_self
    have ih := ih fun c hc => hds c (List.mem_cons_of_mem d hc)
    -- An underscore is no digit, so none stands behind the first one.
    have hnext : ∀ c ∈ (ds ++ rest).head?, c ≠ CodePoint.ofChar '_' := by
      intro c hc
      cases ds with
      | nil => exact (hrest c hc).2
      | cons d' ds =>
        obtain rfl := Option.some.inj hc
        rintro rfl
        have hdigit := hds _ (List.mem_cons_of_mem _ List.mem_cons_self)
        exact absurd hdigit (by decide)
    rw [List.cons_append]
    generalize ds ++ rest = t at ih hnext
    -- `digitRun` looks two characters ahead for an underscore.
    match t with
    | [] =>
      obtain ⟨rfl, rfl⟩ := Prod.mk.inj (Option.some.inj ih)
      simp [digitRun, hd]
    | [u] =>
      have hu := hnext u rfl
      rw [digitRun, if_pos hd]
      dsimp only
      rw [if_neg hu, ih]
      rfl
    | u :: v :: s =>
      have hu := hnext u rfl
      rw [digitRun, if_pos hd]
      dsimp only
      rw [if_neg hu, ih]
      rfl

end Number

end RemoteRead
