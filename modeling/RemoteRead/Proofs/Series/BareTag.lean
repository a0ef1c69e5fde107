import RemoteRead.Proofs.Series.Grouping
import RemoteRead.Proofs.Series.Layout

/-!
# Bare tags in keys and labels

The key and the labels of a row without a blob come from the same list, `presentTags`: the places
and values of the bare tags that the row has. The labels name each value by its column
(`bareLabels_eq_ok_iff`), and the key puts places and values in a row (`seriesKey_bare`). Where
columns have distinct label names, equal labels come from equal lists, and so from one key:
`labels_determine_key` says so of rows, and of the series of a decoded table, no two of which have
the same labels.
-/

namespace RemoteRead

open Outcome Accumulator

variable {layout : Layout} {columns : List Value} {row : List Cell} {indexes : List Nat}
  {tags : List (Nat × Text)} {labels : List Label} {key : Text}

/-! ## The list behind both -/

/-- The tags of a row at a place and those behind it: an absent tag is passed over, and a present
one comes first with its place and value. -/
theorem presentTags_cons_eq_ok_iff {i : Nat} :
    presentTags row (i :: indexes) = .ok tags ↔ ∃ cell, row[i]? = some cell ∧
      ((cell.isNil = true ∧ presentTags row indexes = .ok tags) ∨
        (cell.isNil = false ∧ ∃ value rest, cell.labelText = .ok value ∧
          presentTags row indexes = .ok rest ∧ tags = (i, value) :: rest)) := by
  simp only [presentTags, bind_eq_ok_iff, cellAt_eq_ok_iff]
  refine exists_congr fun cell => and_congr_right fun _ => ?_
  cases cell.isNil
  · simp only [Bool.false_eq_true, if_false, bind_eq_ok_iff, pure_eq_ok_iff, false_and, false_or,
      true_and, exists_and_left, eq_comm (a := tags)]
  · simp

/-- The places of the present tags are among those asked for. -/
theorem fst_mem_of_mem_presentTags (h : presentTags row indexes = .ok tags) :
    ∀ tag ∈ tags, tag.1 ∈ indexes := by
  induction indexes generalizing tags with
  | nil =>
    obtain rfl := Except.ok.inj h
    simp
  | cons i indexes ih =>
    obtain ⟨cell, -, ⟨-, hrest⟩ | ⟨-, value, rest, -, hrest, rfl⟩⟩ :=
      presentTags_cons_eq_ok_iff.mp h
    · exact fun tag ht => List.mem_cons_of_mem _ (ih hrest tag ht)
    · intro tag ht
      rcases List.mem_cons.mp ht with rfl | ht
      · exact List.mem_cons_self
      · exact List.mem_cons_of_mem _ (ih hrest tag ht)

/-- A present tag has the label of the cell at its place as its value. -/
theorem exists_label_of_mem_presentTags (h : presentTags row indexes = .ok tags) :
    ∀ tag ∈ tags, ∃ cell, row[tag.1]? = some cell ∧ cell.labelText = .ok tag.2 := by
  induction indexes generalizing tags with
  | nil =>
    obtain rfl := Except.ok.inj h
    simp
  | cons i indexes ih =>
    obtain ⟨cell, hcell, ⟨-, hrest⟩ | ⟨-, value, rest, hvalue, hrest, rfl⟩⟩ :=
      presentTags_cons_eq_ok_iff.mp h
    · exact ih hrest
    · exact List.forall_mem_cons.mpr ⟨⟨cell, hcell, hvalue⟩, ih hrest⟩

/-- The label of a tag is the label name of its column with the value of the tag. -/
theorem tagLabel_eq_ok_iff {tag : Nat × Text} {label : Label} :
    tagLabel columns tag = .ok label ↔ ∃ column, columns[tag.1]? = some (.text column) ∧
      (Tag.labelName column).all CodePoint.isScalar = true ∧
      tag.2.all CodePoint.isScalar = true ∧ label = ⟨Tag.labelName column, tag.2⟩ := by
  unfold tagLabel
  split
  · rename_i column hcolumn
    simp [hcolumn, Label.checked_eq_ok_iff]
  · rename_i hcolumn
    simp only [reduceCtorEq, false_iff]
    rintro ⟨column, hc, -⟩
    exact hcolumn column hc

/-- The labels of tags have the values of the tags. -/
theorem map_value_of_tagLabels
    (h : List.Forall₂ (fun tag label => tagLabel columns tag = .ok label) tags labels) :
    labels.map Label.value = tags.map Prod.snd := by
  induction h with
  | nil => rfl
  | cons htag _ ih =>
    obtain ⟨column, -, -, -, rfl⟩ := tagLabel_eq_ok_iff.mp htag
    rw [List.map_cons, List.map_cons, ih]

/-- The labels of the bare tags are those of the present tags. -/
theorem bareLabels_eq_ok_iff :
    bareLabels row columns indexes = .ok labels ↔ ∃ tags, presentTags row indexes = .ok tags ∧
      List.Forall₂ (fun tag label => tagLabel columns tag = .ok label) tags labels := by
  induction indexes generalizing labels with
  | nil => simp [bareLabels, presentTags, eq_comm]
  | cons i indexes ih =>
    simp only [bareLabels, bind_eq_ok_iff, cellAt_eq_ok_iff, presentTags_cons_eq_ok_iff]
    constructor
    · rintro ⟨cell, hcell, h⟩
      -- A cell that holds nothing gives no tag, hence no label.
      cases hnil : cell.isNil with
      | true =>
        rw [hnil, if_pos rfl, ih] at h
        obtain ⟨tags, htags, hlabels⟩ := h
        exact ⟨tags, ⟨cell, hcell, .inl ⟨hnil, htags⟩⟩, hlabels⟩
      | false =>
        simp only [hnil, Bool.false_eq_true, if_false, bind_eq_ok_iff, pure_eq_ok_iff,
          mapError_eq_ok_iff, ih] at h
        obtain ⟨value, hvalue, label, hlabel, rest, ⟨tags, htags, hrest⟩, rfl⟩ := h
        exact ⟨(i, value) :: tags, ⟨cell, hcell, .inr ⟨hnil, value, tags, hvalue, htags, rfl⟩⟩,
          .cons hlabel hrest⟩
    · rintro ⟨tags, ⟨cell, hcell, ⟨hnil, htags⟩ | ⟨hnil, value, rest, hvalue, hrest, rfl⟩⟩, hlabels⟩
      · exact ⟨cell, hcell, by rw [hnil, if_pos rfl, ih]; exact ⟨tags, htags, hlabels⟩⟩
      · obtain ⟨label, labels, hlabel, hrestLabels, rfl⟩ := List.forall₂_cons_left_iff.mp hlabels
        refine ⟨cell, hcell, ?_⟩
        simp only [hnil, Bool.false_eq_true, if_false, bind_eq_ok_iff, pure_eq_ok_iff,
          mapError_eq_ok_iff, ih]
        exact ⟨value, hvalue, label, hlabel, labels, ⟨rest, hrest, hrestLabels⟩, rfl⟩

/-- Without a blob, the key of a row puts the places and values of its present tags in a row. -/
theorem seriesKey_bare (hlayout : layout.tagIndex = none) :
    seriesKey row layout = .ok key ↔ ∃ tags, presentTags row layout.bareIndexes = .ok tags ∧
      key = Text.join "-" (tags.flatMap fun (i, value) => [Text.ofNat i, value]) := by
  simp only [seriesKey, hlayout, bind_eq_ok_iff, pure_eq_ok_iff, eq_comm (a := key)]

/-- Without a blob, the labels of a row are the name of the metric and those of its present tags,
whatever the key. -/
theorem seriesLabels_bare [Host] (hlayout : layout.tagIndex = none) :
    seriesLabels row layout columns key = .ok labels ↔
      layout.metricName.all CodePoint.isScalar = true ∧
        ∃ tags rest, presentTags row layout.bareIndexes = .ok tags ∧
          List.Forall₂ (fun tag label => tagLabel columns tag = .ok label) tags rest ∧
          labels = ⟨metricNameLabel, layout.metricName⟩ :: rest := by
  have hname : metricNameLabel.all CodePoint.isScalar = true := by decide
  simp only [seriesLabels, hlayout, bind_eq_ok_iff, pure_eq_ok_iff, mapError_eq_ok_iff,
    Label.checked_eq_ok_iff, bareLabels_eq_ok_iff]
  constructor
  · rintro ⟨_, ⟨-, hscalar, rfl⟩, rest, ⟨tags, htags, hrest⟩, rfl⟩
    exact ⟨hscalar, tags, rest, htags, hrest, rfl⟩
  · rintro ⟨hscalar, tags, rest, htags, hrest, rfl⟩
    exact ⟨_, ⟨hname, hscalar, rfl⟩, rest, ⟨tags, htags, hrest⟩, rfl⟩

/-! ## Labels determine keys -/

/-- No two bare tags have the same label name. -/
def DistinctLabelNames (columns : List Value) (layout : Layout) : Prop :=
  ∀ i ∈ layout.bareIndexes, ∀ j ∈ layout.bareIndexes, ∀ c d,
    columns[i]? = some (.text c) → columns[j]? = some (.text d) →
      Tag.labelName c = Tag.labelName d → i = j

/-- With distinct label names, a label determines the place and value of its bare tag. -/
theorem DistinctLabelNames.leftUnique (hdistinct : DistinctLabelNames columns layout) :
    Relator.LeftUnique fun (tag : Nat × Text) label =>
      tag.1 ∈ layout.bareIndexes ∧ tagLabel columns tag = .ok label := by
  rintro tag label tag' ⟨hi, h⟩ ⟨hj, h'⟩
  obtain ⟨c, hc, -, -, hlabel⟩ := tagLabel_eq_ok_iff.mp h
  obtain ⟨d, hd, -, -, hlabel'⟩ := tagLabel_eq_ok_iff.mp h'
  obtain ⟨hname, hvalue⟩ := Label.mk.inj (hlabel.symm.trans hlabel')
  exact Prod.ext (hdistinct _ hi _ hj c d hc hd hname) hvalue

/-- With distinct label names, rows with the same labels have the same key. -/
theorem DistinctLabelNames.exists_key [Host] (hdistinct : DistinctLabelNames columns layout)
    (hlayout : layout.tagIndex = none) {row₁ row₂ : List Cell} {key₁ key₂ : Text}
    (h₁ : seriesLabels row₁ layout columns key₁ = .ok labels)
    (h₂ : seriesLabels row₂ layout columns key₂ = .ok labels) :
    ∃ key, seriesKey row₁ layout = .ok key ∧ seriesKey row₂ layout = .ok key := by
  obtain ⟨-, tags₁, rest₁, htags₁, hrest₁, hlabels₁⟩ := (seriesLabels_bare hlayout).mp h₁
  obtain ⟨-, tags₂, rest₂, htags₂, hrest₂, hlabels₂⟩ := (seriesLabels_bare hlayout).mp h₂
  obtain ⟨-, rfl⟩ := List.cons.inj (hlabels₁.symm.trans hlabels₂)
  -- Each label gives back its tag.
  have htags : tags₁ = tags₂ := hdistinct.leftUnique.forall₂
    ((List.forall₂_and_left _ _).mpr ⟨fst_mem_of_mem_presentTags htags₁, hrest₁⟩)
    ((List.forall₂_and_left _ _).mpr ⟨fst_mem_of_mem_presentTags htags₂, hrest₂⟩)
  refine ⟨_, (seriesKey_bare hlayout).mpr ⟨tags₁, htags₁, rfl⟩, ?_⟩
  exact (seriesKey_bare hlayout).mpr ⟨tags₂, htags₂, by rw [htags]⟩

/-- With distinct label names, a table without a blob is never split: rows with the same labels have
one key, and no two series of the decoded table have the same labels. -/
theorem labels_determine_key [Host] (result : ResultSet) (layout : Layout)
    (hlayout : Layout.locate result.columns = .ok layout)
    (htag : Value.text tagColumn ∉ result.columns)
    (hdistinct : DistinctLabelNames result.columns layout) :
    (∀ row₁ row₂ key₁ key₂ labels,
      seriesLabels row₁ layout result.columns key₁ = .ok labels →
      seriesLabels row₂ layout result.columns key₂ = .ok labels →
        ∃ key, seriesKey row₁ layout = .ok key ∧ seriesKey row₂ layout = .ok key) ∧
    (∀ limit response, result.decode limit = .ok response →
      ∀ answer ∈ response.results, (answer.timeseries.map TimeSeries.labels).Nodup) := by
  have hnone : layout.tagIndex = none := Layout.locate_tagIndex hlayout htag
  refine ⟨fun row₁ row₂ key₁ key₂ labels h₁ h₂ => hdistinct.exists_key hnone h₁ h₂, ?_⟩
  intro limit response hdecode answer hanswer
  obtain ⟨layout', kind, keys, series, hlayout', -, -, hseries, rfl⟩ :=
    IsGrouping.of_decode hdecode
  obtain rfl := Except.ok.inj (hlayout.symm.trans hlayout')
  obtain rfl := List.mem_singleton.mp hanswer
  -- Two series with the same labels have first rows with the same labels, and so one key.
  have hunique : Relator.LeftUnique fun key labels =>
      ∃ s, SeriesOf layout kind result.columns result.rows key s ∧ s.labels = labels := by
    rintro key labels key' ⟨s, hs, rfl⟩ ⟨s', hs', hlabels⟩
    obtain ⟨first, -, hkey, hfirst⟩ := hs.exists_first
    obtain ⟨first', -, hkey', hfirst'⟩ := hs'.exists_first
    rw [hlabels] at hfirst'
    obtain ⟨k, hk, hk'⟩ := hdistinct.exists_key hnone hfirst hfirst'
    rw [Except.ok.inj (hkey.symm.trans hk), Except.ok.inj (hkey'.symm.trans hk')]
  -- The keys are distinct, so the labels are.
  refine nodup_of_forall₂ hunique ?_ (admissible_nodup limit keys)
  rw [List.forall₂_map_right_iff]
  exact hseries.imp fun key s hs => ⟨s, hs, rfl⟩

/-- The columns of a table with two bare tags. -/
def podZone : List Value :=
  [.text timeColumn, .text "metrics.load", .text "pod", .text "zone"]

/-- The layout of these columns. -/
def podZoneLayout : Layout := ⟨"load", 1, 0, none, [2, 3]⟩

/-- A table with two rows of one pod. -/
def podZoneTable : ResultSet where
  columns := podZone
  kinds := [.int, .int, .text, .text]
  rows := [
    [.int 1, .int 5, .text "x", .text "y"],
    [.int 2, .int 7, .text "x", .text "y"]]
  query := []

/-- The table has no blob. -/
theorem tagColumn_not_mem_podZone : Value.text tagColumn ∉ podZone := by
  simp [podZone]
  decide

/-- The two bare tags have different label names. -/
theorem distinctLabelNames_podZone : DistinctLabelNames podZone podZoneLayout := by
  have hne : Tag.labelName "pod" ≠ Tag.labelName "zone" := by decide
  intro i hi j hj c d hc hd hname
  simp only [podZoneLayout, List.mem_cons, List.not_mem_nil, or_false] at hi hj
  rcases hi with rfl | rfl <;> rcases hj with rfl | rfl <;>
    simp only [podZone, List.getElem?_cons_succ, List.getElem?_cons_zero, Option.some.injEq,
      Value.text.injEq] at hc hd
  · rfl
  · exact absurd (hc ▸ hd ▸ hname) hne
  · exact absurd (hc ▸ hd ▸ hname.symm) hne
  · rfl

-- From here on the host is a concrete one.
attribute [local instance] Host.utc

/-- The two rows of one pod have one key, and the table is decoded without repeated labels. -/
theorem labels_determine_key_podZone :
    Layout.locate podZoneTable.columns = .ok podZoneLayout ∧
    Value.text tagColumn ∉ podZoneTable.columns ∧
    DistinctLabelNames podZoneTable.columns podZoneLayout ∧
    (∃ key, ∀ row ∈ podZoneTable.rows, seriesKey row podZoneLayout = .ok key) ∧
    ∀ limit response, podZoneTable.decode limit = .ok response →
      ∀ answer ∈ response.results, (answer.timeseries.map TimeSeries.labels).Nodup := by
  have h := labels_determine_key podZoneTable podZoneLayout rfl tagColumn_not_mem_podZone
    distinctLabelNames_podZone
  refine ⟨rfl, tagColumn_not_mem_podZone, distinctLabelNames_podZone, ?_, h.2⟩
  obtain ⟨key, hfirst, hsecond⟩ := h.1 [.int 1, .int 5, .text "x", .text "y"]
    [.int 2, .int 7, .text "x", .text "y"] [] [] _ rfl rfl
  refine ⟨key, fun row hrow => ?_⟩
  simp only [podZoneTable, List.mem_cons, List.not_mem_nil, or_false] at hrow
  rcases hrow with rfl | rfl
  · exact hfirst
  · exact hsecond

end RemoteRead
