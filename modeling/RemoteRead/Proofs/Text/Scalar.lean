import Mathlib.Tactic.SplitIfs
import RemoteRead.Cell
import RemoteRead.Series.Tag

/-!
# Texts without surrogates

A surrogate can only come from outside: literals and numerals hold none, and joining, cutting and
padding bring none in. So the label of a cell has an encoded form unless the cell is a text that has
none itself (`Cell.isScalar_of_labelText`), and the label name of a column has one if the column's
name has (`Tag.isScalar_labelName`).
-/

namespace RemoteRead

/-- No character is a surrogate. -/
@[simp]
theorem CodePoint.isScalar_ofChar (c : Char) : (CodePoint.ofChar c).isScalar = true := by
  have hval : (CodePoint.ofChar c).val = c.val.toNat := rfl
  have hvalid : c.val.toNat < 0xd800 ∨ 0xdfff < c.val.toNat ∧ c.val.toNat < 0x110000 := c.valid
  simp only [isScalar, isSurrogate, hval, Bool.not_eq_true', Bool.and_eq_false_iff,
    decide_eq_false_iff_not]
  omega

namespace Text

/-- A literal has no surrogates. -/
@[simp]
theorem isScalar_ofString (s : String) : (ofString s).all CodePoint.isScalar = true := by
  simp [ofString, Function.comp_def]

/-- A literal in front of a text brings no surrogate. -/
theorem isScalar_literal_append (s : String) {t : Text} (h : t.all CodePoint.isScalar = true) :
    List.all (@HAppend.hAppend String Text Text _ s t) CodePoint.isScalar = true := by
  show (ofString s ++ t).all CodePoint.isScalar = true
  rw [List.all_append, isScalar_ofString, h, Bool.and_self]

/-- A written number has no surrogates. -/
@[simp]
theorem isScalar_ofNat (n : Nat) : (ofNat n).all CodePoint.isScalar = true := by
  simp [ofNat, Function.comp_def]

/-- A written integer has no surrogates. -/
@[simp]
theorem isScalar_ofInt (n : Int) : (ofInt n).all CodePoint.isScalar = true := by
  unfold ofInt
  split_ifs <;> simp

/-- A padded number has no surrogates. -/
@[simp]
theorem isScalar_padded (width n : Nat) : (padded width n).all CodePoint.isScalar = true := by
  simp [padded]

end Text

/-- A point among digits brings no surrogate. -/
theorem Number.isScalar_withPoint {digits : Text} (places : Nat)
    (h : digits.all CodePoint.isScalar = true) :
    (Number.withPoint digits places).all CodePoint.isScalar = true := by
  have hzero : (CodePoint.ofChar '0').isScalar = true := CodePoint.isScalar_ofChar '0'
  unfold withPoint
  split_ifs
  · exact h
  · rw [List.all_eq_true] at h ⊢
    intro c hc
    -- Each code point is the point, a leading zero or one of the digits.
    simp only [List.mem_append, List.mem_cons] at hc
    rcases hc with hc | rfl | hc
    · rcases List.mem_append.mp (List.mem_of_mem_take hc) with hc | hc
      · rw [List.eq_of_mem_replicate hc, hzero]
      · exact h c hc
    · exact CodePoint.isScalar_ofChar '.'
    · rcases List.mem_append.mp (List.mem_of_mem_drop hc) with hc | hc
      · rw [List.eq_of_mem_replicate hc, hzero]
      · exact h c hc

/-- A double has a label without surrogates. -/
theorem Cell.isScalar_floatLabel (x : Binary64) :
    (Cell.floatLabel x).all CodePoint.isScalar = true := by
  have hpositional (d : Number.Decimal) :
      (Number.positional d).all CodePoint.isScalar = true := by
    unfold Number.positional
    split_ifs
    · exact Text.isScalar_ofNat _
    · exact Number.isScalar_withPoint _ (Text.isScalar_ofNat _)
  have hmagnitude : Number.labelNotation.magnitude x = Number.positional (Number.shortest x) := by
    simp [Number.Notation.magnitude, Number.labelNotation]
  unfold Cell.floatLabel Number.Notation.render
  split_ifs
  · exact Text.isScalar_ofString _
  · exact Text.isScalar_ofString _
  · exact Text.isScalar_ofString _
  · rw [hmagnitude, List.all_cons, hpositional, CodePoint.isScalar_ofChar, Bool.and_self]
  · rw [hmagnitude, hpositional]

/-- The ISO form of a moment has no surrogates. -/
theorem Calendar.Moment.isScalar_isoText (m : Moment) :
    (m.isoText " ").all CodePoint.isScalar = true := by
  have hpart {p : Prop} [Decidable p] {t : Text} (h : t.all CodePoint.isScalar = true) :
      List.all (if p then [] else t) CodePoint.isScalar = true := by
    split_ifs
    · rfl
    · exact h
  have hoffset (us : Int) : (offsetText us).all CodePoint.isScalar = true := by
    simp only [offsetText, List.all_append, hpart, Text.isScalar_padded,
      Text.isScalar_ofString, Text.isScalar_literal_append, Bool.and_self]
  have htime : m.time.isoText.all CodePoint.isScalar = true := by
    simp only [TimeOfDay.isoText, List.all_append, hpart, Text.isScalar_padded,
      Text.isScalar_ofString, Text.isScalar_literal_append, Bool.and_self]
  have hdate : m.date.isoText.all CodePoint.isScalar = true := by
    simp [Date.isoText]
  unfold isoText
  cases m.offset <;> simp [hdate, htime, hoffset]

/-- A cell has a label if it is of a kind that has, and its number, if it is one, is not too long to
be written out. -/
theorem Cell.labelText_eq_ok_iff {c : Cell} {value : Text} :
    c.labelText = .ok value ↔ c.value.isWritable = true ∧ c.label = .ok value := by
  unfold labelText
  split_ifs with hwritable
  · cases c.label <;> simp [Except.mapError, hwritable]
  · simp [hwritable]

/-- The label of a cell has an encoded form if the texts among cells have. -/
theorem Cell.isScalar_of_labelText {c : Cell} {value : Text} (h : c.labelText = .ok value)
    (htext : ∀ t, c = .text t → t.all CodePoint.isScalar = true) :
    value.all CodePoint.isScalar = true := by
  replace h := (labelText_eq_ok_iff.mp h).2
  cases c with
  | int n => rw [← Except.ok.inj h, Text.isScalar_ofInt]
  | float x => rw [← Except.ok.inj h, isScalar_floatLabel]
  | moment m => rw [← Except.ok.inj h, m.isScalar_isoText]
  | text t => rw [← Except.ok.inj h, htext t rfl]
  | nullableFloat x => simp [label] at h

/-- The label name of a column has an encoded form if the name of the column has. -/
theorem Tag.isScalar_labelName {column : Text} (h : column.all CodePoint.isScalar = true) :
    (Tag.labelName column).all CodePoint.isScalar = true := by
  rw [List.all_eq_true] at h ⊢
  intro c hc
  obtain ⟨d, hd, rfl⟩ := List.mem_map.mp hc
  split_ifs
  · exact CodePoint.isScalar_ofChar '_'
  · exact h d hd

end RemoteRead
