import RemoteRead.Proofs.Series.BareTag
import RemoteRead.Proofs.Wire.Message

/-!
# What a decoded response holds

A table that is decoded gives one result with at most as many series as the cap admits
(`length_timeseries_le`), and everything in it has an encoded form (`decode_encodable`): each label
and each time was checked when it was made.
-/

namespace RemoteRead

open Outcome Accumulator

variable {layout : Layout} {columns : List Value} {row : List Cell} {labels : List Label}

/-- No more keys are admissible than the cap allows. -/
theorem Accumulator.length_admissible_le (limit : Int) (offered : List Text) :
    (admissible limit offered).length ≤ limit.toNat := List.length_take_le _ _

/-- The labels of a blob have encoded forms. -/
theorem Tag.encodable_of_blobLabels [Host] {blob : Text} (h : Tag.blobLabels blob = .ok labels) :
    ∀ l ∈ labels, l.Encodable := by
  unfold Tag.blobLabels at h
  -- A blob has no labels, is refused, or has each of its pairs checked.
  split at h
  · obtain rfl := Except.ok.inj h
    simp
  · simp at h
  · simp at h
  · split at h
    · obtain rfl := Except.ok.inj h
      simp
    · intro l hl
      obtain ⟨pair, -, hpair⟩ := exists_of_mem_right (mapM_eq_ok_iff.mp h) hl
      obtain ⟨hname, hvalue, rfl⟩ := Label.checked_eq_ok_iff.mp hpair
      exact ⟨hname, hvalue⟩

/-- The labels of the tags of a row have encoded forms. -/
theorem encodable_of_tagLabels [Host] (h : tagLabels row layout columns = .ok labels) :
    ∀ l ∈ labels, l.Encodable := by
  unfold tagLabels at h
  split at h
  · simp only [bind_eq_ok_iff, mapError_eq_ok_iff] at h
    obtain ⟨cell, -, blob, -, hlabels⟩ := h
    exact Tag.encodable_of_blobLabels hlabels
  · intro l hl
    obtain ⟨tags, -, hlabels⟩ := bareLabels_eq_ok_iff.mp h
    obtain ⟨tag, -, htag⟩ := exists_of_mem_right hlabels hl
    obtain ⟨column, -, hname, hvalue, rfl⟩ := tagLabel_eq_ok_iff.mp htag
    exact ⟨hname, hvalue⟩

/-- The series of a key has an encoded form. -/
theorem SeriesOf.encodable_series [Host] {kind : ColumnKind} {rows : List (List Cell)} {key : Text}
    {series : TimeSeries} (h : SeriesOf layout kind columns rows key series) :
    series.Encodable := by
  obtain ⟨first, tags, -, htags, hlabels⟩ := h.labels
  have hname : metricNameLabel.all CodePoint.isScalar = true := by decide
  refine ⟨?_, ?_, ?_⟩
  · rw [hlabels]
    exact List.forall_mem_cons.mpr ⟨⟨hname, h.encodable⟩, encodable_of_tagLabels htags⟩
  · intro x hx
    obtain ⟨row, -, hsample⟩ := exists_of_mem_right h.samples hx
    exact hsample.fits
  · simp [h.exemplars]

variable {result : ResultSet} {limit : Int} {response : ReadResponse}

/-- A decoded response has one result, with at most as many series as the cap admits. -/
theorem length_timeseries_le [Host] (h : result.decode limit = .ok response) :
    ∃ answer, response.results = [answer] ∧ answer.timeseries.length ≤ limit.toNat := by
  obtain ⟨layout, kind, keys, series, -, -, -, hseries, rfl⟩ := IsGrouping.of_decode h
  refine ⟨⟨series⟩, rfl, ?_⟩
  rw [← hseries.length_eq]
  exact length_admissible_le limit keys

/-- A decoded response has an encoded form. -/
theorem decode_encodable [Host] (h : result.decode limit = .ok response) : response.Encodable := by
  obtain ⟨layout, kind, keys, series, -, -, -, hseries, rfl⟩ := IsGrouping.of_decode h
  intro answer hanswer s hs
  obtain rfl := List.mem_singleton.mp hanswer
  obtain ⟨key, -, hof⟩ := exists_of_mem_right hseries hs
  exact hof.encodable_series

end RemoteRead
