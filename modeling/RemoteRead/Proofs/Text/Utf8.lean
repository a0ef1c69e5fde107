import Mathlib.Tactic.SplitIfs
import RemoteRead.Text.Utf8

/-!
# Encoded texts read back

The octets of a text without surrogates decode to the text (`decode_octets`). One step of decoding
takes the octets of one code point off the front and no more (`decodeFrom_octets`), whatever stands
behind them; the text follows by induction.
-/

namespace RemoteRead.Text.Utf8

/-- A code point is the one of its number. -/
theorem ofNat_val (c : CodePoint) : CodePoint.ofNat c.val = c := by
  rw [CodePoint.ofNat, dif_pos c.val_lt]

/-- Octets that are passed over count for the position only. -/
theorem decodeFrom_skip (passing : Bool) (pos : Nat) (tail r : List UInt8) :
    decodeFrom passing pos tail.length (tail ++ r) =
      decodeFrom passing (pos + tail.length) 0 r := by
  induction tail generalizing pos with
  | nil => rfl
  | cons b tail ih =>
    have h := ih (pos + 1)
    rw [show pos + 1 + tail.length = pos + (b :: tail).length by simp; omega] at h
    rw [← h]
    simp only [List.length_cons, List.cons_append, decodeFrom]

/-- An octet made of six bits continues a code point. -/
theorem continues_ofNat {n : Nat} (h : n < 0x40) : continues (UInt8.ofNat (0x80 + n)) = true := by
  simp only [continues, UInt8.toNat_ofNat_of_lt' (show 0x80 + n < 0x100 by omega), Bool.and_eq_true,
    decide_eq_true_eq]
  omega

/-- A number below `0x80` is an octet of its own. -/
theorem decodeStep_one {n : Nat} (h : n < 0x80) (r : List UInt8) :
    decodeStep (UInt8.ofNat n) r = .char (CodePoint.ofNat n) 1 := by
  simp only [decodeStep, UInt8.toNat_ofNat_of_lt' (show n < 0x100 by omega), if_pos h]

/-- The first of two octets holds the upper bits, and the second the lower six. -/
theorem decodeStep_two {n : Nat} (hlow : 0x80 ≤ n) (hhigh : n < 0x800) (r : List UInt8) :
    decodeStep (UInt8.ofNat (0xc0 + n / 0x40)) (UInt8.ofNat (0x80 + n % 0x40) :: r) =
      .char (CodePoint.ofNat n) 2 := by
  have ha := UInt8.toNat_ofNat_of_lt' (show 0xc0 + n / 0x40 < 0x100 by omega)
  have hb := UInt8.toNat_ofNat_of_lt' (show 0x80 + n % 0x40 < 0x100 by omega)
  have hn : (0xc0 + n / 0x40 - 0xc0) * 0x40 + (0x80 + n % 0x40 - 0x80) = n := by omega
  simp only [decodeStep, ha, hb, hn, continues_ofNat (show n % 0x40 < 0x40 by omega), if_true]
  rw [if_neg (by omega), if_neg (by omega), if_pos (by omega)]

/-- Of three octets, the second keeps the number from being small or a surrogate. -/
theorem decodeStep_three {n : Nat} (hlow : 0x800 ≤ n) (hhigh : n < 0x10000)
    (hscalar : n < 0xd800 ∨ 0xe000 ≤ n) (r : List UInt8) :
    decodeStep (UInt8.ofNat (0xe0 + n / 0x1000))
        (UInt8.ofNat (0x80 + n / 0x40 % 0x40) :: UInt8.ofNat (0x80 + n % 0x40) :: r) =
      .char (CodePoint.ofNat n) 3 := by
  have ha := UInt8.toNat_ofNat_of_lt' (show 0xe0 + n / 0x1000 < 0x100 by omega)
  have hb := UInt8.toNat_ofNat_of_lt' (show 0x80 + n / 0x40 % 0x40 < 0x100 by omega)
  have hc := UInt8.toNat_ofNat_of_lt' (show 0x80 + n % 0x40 < 0x100 by omega)
  have hn : (0xe0 + n / 0x1000 - 0xe0) * 0x1000 + (0x80 + n / 0x40 % 0x40 - 0x80) * 0x40 +
      (0x80 + n % 0x40 - 0x80) = n := by omega
  have hfits : secondFits (UInt8.ofNat (0xe0 + n / 0x1000))
      (UInt8.ofNat (0x80 + n / 0x40 % 0x40)) = true := by
    simp only [secondFits, ha, hb, continues_ofNat (show n / 0x40 % 0x40 < 0x40 by omega),
      Bool.and_eq_true, Bool.not_eq_true', Bool.and_eq_false_iff, beq_eq_false_iff_ne,
      decide_eq_false_iff_not, true_and]
    omega
  simp only [decodeStep, ha, hb, hc, hn, hfits, continues_ofNat (show n % 0x40 < 0x40 by omega),
    Bool.not_true, Bool.false_eq_true, if_false, if_true]
  rw [if_neg (by omega), if_neg (by omega), if_neg (by omega), if_pos (by omega)]

/-- Of four octets, the second keeps the number from being small or beyond the last one. -/
theorem decodeStep_four {n : Nat} (hlow : 0x10000 ≤ n) (hhigh : n < 0x110000) (r : List UInt8) :
    decodeStep (UInt8.ofNat (0xf0 + n / 0x40000))
        (UInt8.ofNat (0x80 + n / 0x1000 % 0x40) :: UInt8.ofNat (0x80 + n / 0x40 % 0x40) ::
          UInt8.ofNat (0x80 + n % 0x40) :: r) =
      .char (CodePoint.ofNat n) 4 := by
  have ha := UInt8.toNat_ofNat_of_lt' (show 0xf0 + n / 0x40000 < 0x100 by omega)
  have hb := UInt8.toNat_ofNat_of_lt' (show 0x80 + n / 0x1000 % 0x40 < 0x100 by omega)
  have hc := UInt8.toNat_ofNat_of_lt' (show 0x80 + n / 0x40 % 0x40 < 0x100 by omega)
  have hd := UInt8.toNat_ofNat_of_lt' (show 0x80 + n % 0x40 < 0x100 by omega)
  have hn : (0xf0 + n / 0x40000 - 0xf0) * 0x40000 + (0x80 + n / 0x1000 % 0x40 - 0x80) * 0x1000 +
      (0x80 + n / 0x40 % 0x40 - 0x80) * 0x40 + (0x80 + n % 0x40 - 0x80) = n := by omega
  -- An overlong form or one beyond the last code point shows in the second octet.
  have hfits : secondFits (UInt8.ofNat (0xf0 + n / 0x40000))
      (UInt8.ofNat (0x80 + n / 0x1000 % 0x40)) = true := by
    simp only [secondFits, ha, hb, continues_ofNat (show n / 0x1000 % 0x40 < 0x40 by omega),
      Bool.and_eq_true, Bool.not_eq_true', Bool.and_eq_false_iff, beq_eq_false_iff_ne,
      decide_eq_false_iff_not, true_and]
    omega
  simp only [decodeStep, ha, hb, hc, hd, hn, hfits,
    continues_ofNat (show n / 0x40 % 0x40 < 0x40 by omega),
    continues_ofNat (show n % 0x40 < 0x40 by omega), Bool.not_true, Bool.false_eq_true, if_false,
    if_true]
  rw [if_neg (by omega), if_neg (by omega), if_neg (by omega), if_neg (by omega),
    if_pos (by omega)]

/-- The octets of a scalar value are read as that value, with nothing left over. -/
theorem exists_decodeStep {c : CodePoint} (hc : c.isScalar = true) :
    ∃ a tail, octets c = a :: tail ∧
      ∀ r, decodeStep a (tail ++ r) = .char c (tail.length + 1) := by
  have hlt := c.val_lt
  have hscalar : c.val < 0xd800 ∨ 0xe000 ≤ c.val := by
    simpa [CodePoint.isScalar, CodePoint.isSurrogate] using hc
  unfold octets
  dsimp only
  -- As many octets as the size of the number calls for.
  split_ifs with h₁ h₂ h₃
  · exact ⟨_, _, rfl, fun r => by rw [List.nil_append, decodeStep_one h₁, ofNat_val]; rfl⟩
  · refine ⟨_, _, rfl, fun r => ?_⟩
    exact (decodeStep_two (by omega) h₂ r).trans (by rw [ofNat_val]; rfl)
  · refine ⟨_, _, rfl, fun r => ?_⟩
    exact (decodeStep_three (by omega) h₃ hscalar r).trans (by rw [ofNat_val]; rfl)
  · refine ⟨_, _, rfl, fun r => ?_⟩
    exact (decodeStep_four (by omega) hlt r).trans (by rw [ofNat_val]; rfl)

/-- A scalar value in front is decoded first, and decoding goes on behind its octets. -/
theorem decodeFrom_octets {c : CodePoint} (hc : c.isScalar = true) (passing : Bool) (pos : Nat)
    (r : List UInt8) :
    decodeFrom passing pos 0 (octets c ++ r) =
      (decodeFrom passing (pos + (octets c).length) 0 r).map (c :: ·) := by
  obtain ⟨a, tail, hoctets, hstep⟩ := exists_decodeStep hc
  have hlength : pos + (octets c).length = pos + 1 + tail.length := by
    rw [hoctets, List.length_cons]
    omega
  rw [hlength, ← decodeFrom_skip, hoctets, List.cons_append, decodeFrom, hstep]
  rfl

/-- The octets of a text without surrogates decode to the text. -/
theorem decode_octets {t : Text} (ht : t.all CodePoint.isScalar = true) :
    decode (t.flatMap octets) = .ok t := by
  -- By induction on the text, for every position that it may start at.
  have hfrom : ∀ pos, decodeFrom false pos 0 (t.flatMap octets) = .ok t := by
    induction t with
    | nil => intro pos; rfl
    | cons c t ih =>
      intro pos
      rw [List.all_cons, Bool.and_eq_true] at ht
      rw [List.flatMap_cons, decodeFrom_octets ht.1, ih ht.2]
      rfl
  exact hfrom 0

end RemoteRead.Text.Utf8
