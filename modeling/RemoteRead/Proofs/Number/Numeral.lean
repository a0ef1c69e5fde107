import RemoteRead.Proofs.Json.Token
import RemoteRead.Proofs.Number.Digits

/-!
# The numerals of documents as texts of their own

Text cells, sample values and settings may be written with digits of any script, underscores and
blanks. A numeral of a document uses none of these, so a text that consists of one is read as
written, and as the double that the document has there (`Json.NumeralAt.readFloat_eq`).
-/

namespace RemoteRead.Json

variable {t rest whole fraction : Text} {negative : Bool} {exponent : Option Int} {c : CodePoint}

/-! ## The code points of numerals -/

/-- The code points that numerals consist of. -/
def IsNumeralPoint (c : CodePoint) : Prop := c.isDigit = true ∨ c ∈ Text.ofString "-+.eE"

/-- A sign in front of the code points of a numeral is one of them. -/
theorem SignAt.isNumeralPoint (h : SignAt t negative rest) (hrest : ∀ c ∈ rest, IsNumeralPoint c) :
    ∀ c ∈ t, IsNumeralPoint c := by
  cases h with
  | minus =>
    refine List.forall_mem_cons.mpr ⟨.inr ?_, hrest⟩
    decide
  | absent => exact hrest

/-- A whole part is made of digits. -/
theorem WholeAt.isDigit (h : WholeAt t whole rest) : ∀ c ∈ whole, c.isDigit = true := by
  cases h with
  | zero =>
    refine List.forall_mem_cons.mpr ⟨?_, List.forall_mem_nil _⟩
    decide
  | digits hds => exact hds.2

/-- A fraction in front of the code points of a numeral is made of them. -/
theorem FractionAt.isNumeralPoint (h : FractionAt t fraction rest)
    (hrest : ∀ c ∈ rest, IsNumeralPoint c) : ∀ c ∈ t, IsNumeralPoint c := by
  cases h with
  | point h =>
    obtain ⟨rfl, hds, -⟩ := h
    refine List.forall_mem_cons.mpr ⟨.inr ?_, List.forall_mem_append.mpr ⟨?_, hrest⟩⟩
    · decide
    · exact fun c hc => .inl (hds.2 c hc)
  | absent => exact hrest

/-- An exponent is made of the code points of a numeral. -/
theorem ExponentAt.isNumeralPoint (h : ExponentAt t exponent []) : ∀ c ∈ t, IsNumeralPoint c := by
  cases h with
  | power h =>
    obtain ⟨c, u, negative, ds, rfl, hc, hsign, hds, -, -⟩ := h
    have hletter : c ∈ Text.ofString "-+.eE" := by
      rcases hc with rfl | rfl <;> decide
    refine List.forall_mem_cons.mpr ⟨.inr hletter, ?_⟩
    obtain ⟨sign, hu, hpoints⟩ := exists_takeSign u
    rw [hu, hsign, List.append_nil]
    refine List.forall_mem_append.mpr ⟨fun d hd => .inr ?_, fun d hd => .inl (hds.2 d hd)⟩
    exact List.mem_append_left _ (hpoints d hd)
  | absent => exact List.forall_mem_nil _

/-- A numeral consists of digits, signs, points and letters of exponents. -/
theorem NumeralAt.isNumeralPoint (h : NumeralAt t negative whole fraction exponent []) :
    ∀ c ∈ t, IsNumeralPoint c := by
  obtain ⟨t₁, t₂, t₃, hsign, hwhole, hfraction, hexponent⟩ := h
  refine hsign.isNumeralPoint ?_
  rw [hwhole.eq_append]
  refine List.forall_mem_append.mpr ⟨fun c hc => .inl (hwhole.isDigit c hc), ?_⟩
  exact hfraction.isNumeralPoint hexponent.isNumeralPoint

/-- The digits of numerals are ASCII ones already. -/
theorem asciiDigits_of_isNumeralPoint (h : ∀ c ∈ t, IsNumeralPoint c) :
    Number.asciiDigits t = t := by
  refine (List.map_congr_left fun c hc => ?_).trans (List.map_id t)
  rcases h c hc with hdigit | hmem
  · have hlow : 0x30 ≤ c.val := by
      simp only [CodePoint.isDigit, CodePoint.within, Bool.and_eq_true, decide_eq_true_eq] at hdigit
      exact hdigit.1
    rw [CodePoint.decimalVal?, if_pos hdigit]
    dsimp only
    rw [CodePoint.digitVal, Nat.add_sub_cancel' hlow, CodePoint.ofNat, dif_pos c.val_lt]
    rfl
  · clear hc
    revert c
    decide

/-- Numerals hold no blanks. -/
theorem isNumeralBlank_of_isNumeralPoint (h : IsNumeralPoint c) : c.isNumeralBlank = false := by
  rcases h with hdigit | hmem
  · simp only [CodePoint.isDigit, CodePoint.within, Bool.and_eq_true, decide_eq_true_eq] at hdigit
    simp only [CodePoint.isNumeralBlank, CodePoint.isWideBlank, CodePoint.within,
      Bool.or_eq_false_iff, Bool.and_eq_false_iff, decide_eq_false_iff_not, beq_eq_false_iff_ne]
    omega
  · revert c
    decide

/-- There are no blanks to be trimmed around the code points of a numeral. -/
theorem trim_of_isNumeralPoint (h : ∀ c ∈ t, IsNumeralPoint c) :
    Text.trim CodePoint.isNumeralBlank t = t :=
  Text.trim_eq_self
    (fun c hc => isNumeralBlank_of_isNumeralPoint (h c (List.mem_of_mem_head? hc)))
    (fun c hc => isNumeralBlank_of_isNumeralPoint (h c (List.mem_of_mem_getLast? hc)))

/-! ## Reading -/

/-- The exponent at the end of a numeral is read. -/
theorem ExponentAt.readExponent_eq (h : ExponentAt t exponent []) :
    Number.readExponent t = some (exponent.getD 0) := by
  cases h with
  | power h =>
    obtain ⟨c, u, negative, ds, rfl, hc, hsign, hds, -, rfl⟩ := h
    have hrun : Number.digitRun (ds ++ []) = some (ds, []) := Number.digitRun_append hds.2 (by simp)
    rw [List.append_nil] at hrun
    rw [Number.readExponent, if_pos hc, hsign]
    dsimp only
    rw [List.append_nil, hrun]
    obtain ⟨d, ds, rfl⟩ := List.exists_cons_of_ne_nil hds.1
    rfl
  | absent => rfl

/-- The letter of an exponent is no digit and no underscore. -/
theorem ExponentAt.head (h : ExponentAt t exponent []) :
    ∀ c ∈ t.head?, c ∈ Text.ofString "eE" := by
  cases h with
  | power h =>
    obtain ⟨c, u, -, -, rfl, hc, -⟩ := h
    rintro d hd
    obtain rfl := Option.some.inj hd
    rcases hc with rfl | rfl <;> decide
  | absent => simp

/-- Behind the whole part of a numeral stands a point, the letter of an exponent or nothing. -/
theorem FractionAt.head (h : FractionAt t fraction rest) (hrest : ExponentAt rest exponent []) :
    ∀ c ∈ t.head?, c ∈ Text.ofString ".eE" := by
  cases h with
  | point h =>
    obtain ⟨rfl, -⟩ := h
    rintro c hc
    obtain rfl := Option.some.inj hc
    decide
  | absent =>
    intro c hc
    exact List.mem_cons_of_mem _ (hrest.head c hc)

/-- A run of digits goes on up to the point or the exponent of a numeral. -/
theorem digitRun_of_head {ds : Text} (hds : ∀ c ∈ ds, c.isDigit = true)
    (hrest : ∀ c ∈ rest.head?, c ∈ Text.ofString ".eE") :
    Number.digitRun (ds ++ rest) = some (ds, rest) := by
  refine Number.digitRun_append hds fun c hc => ?_
  have hmem := hrest c hc
  clear hc
  revert c
  decide

/-- No word for infinity or NaN starts with a digit. -/
theorem readSpecial_digit_cons {d : CodePoint} (hd : d.isDigit = true) (negative : Bool)
    (t : Text) : Number.readSpecial negative (d :: t) = none := by
  have hlower : (if d.within 0x41 0x5a then CodePoint.ofNat (d.val + 0x20) else d) = d := by
    simp only [CodePoint.isDigit, CodePoint.within, Bool.and_eq_true, decide_eq_true_eq] at hd ⊢
    exact if_neg (by omega)
  have hword {w s : Text} (hs : ∀ c ∈ s.head?, c.isDigit = false) : d :: w ≠ s := by
    rintro rfl
    exact absurd (hs d rfl) (by rw [hd]; decide)
  unfold Number.readSpecial
  dsimp only
  rw [List.map_cons, hlower, if_neg, if_neg (hword (by decide))]
  exact not_or.mpr ⟨hword (by decide), hword (by decide)⟩

/-- A numeral of a document is read as the double that it denotes. -/
theorem NumeralAt.readFloat_eq (h : NumeralAt t negative whole fraction exponent []) :
    Number.readFloat t = some (decimalNumber negative whole fraction exponent) := by
  have hpoints := h.isNumeralPoint
  obtain ⟨t₁, t₂, t₃, hsign, hwhole, hfraction, hexponent⟩ := h
  obtain ⟨-, hne, -⟩ := hwhole.wholePart_eq
  obtain ⟨d, ds, rfl⟩ := List.exists_cons_of_ne_nil hne
  have hd := hwhole.isDigit d List.mem_cons_self
  have ht₁ := hwhole.eq_append
  -- The sign. Without one the text starts with a digit, which is neither `+` nor `-`.
  have hstart : Number.takeSign t = (negative, t₁) := by
    cases hsign with
    | minus => rfl
    | absent h =>
      subst ht₁
      rw [List.cons_append, Number.takeSign, if_neg, if_neg]
      · rintro rfl
        exact absurd hd (by decide)
      · rintro rfl
        exact absurd hd (by decide)
  -- A digit starts none of the names of the special doubles.
  have hspecial : Number.readSpecial negative t₁ = none := by
    rw [ht₁]
    exact readSpecial_digit_cons hd negative _
  -- The whole part runs up to the point, the exponent or the end.
  have hrun : Number.digitRun t₁ = some (d :: ds, t₂) := by
    rw [ht₁]
    exact digitRun_of_head hwhole.isDigit (hfraction.head hexponent)
  rw [Number.readFloat, asciiDigits_of_isNumeralPoint hpoints, trim_of_isNumeralPoint hpoints,
    hstart]
  dsimp only
  rw [hspecial, hrun]
  -- The fraction, then the exponent up to the end of the text.
  cases hfraction with
  | point h =>
    obtain ⟨rfl, hfraction, -⟩ := h
    have hpoint : ∀ c ∈ t₃.head?, c ∈ Text.ofString ".eE" :=
      fun c hc => List.mem_cons_of_mem _ (hexponent.head c hc)
    simp [digitRun_of_head hfraction.2 hpoint, hexponent.readExponent_eq, decimalNumber]
  | absent =>
    cases t₂ with
    | nil => simp [hexponent.readExponent_eq, decimalNumber]
    | cons c r =>
      have hc : c ≠ CodePoint.ofChar '.' := by
        rintro rfl
        exact absurd (hexponent.head _ rfl) (by decide)
      simp [hc, hexponent.readExponent_eq, decimalNumber]

end RemoteRead.Json
