import RemoteRead.Proofs.Series.Grouping
import RemoteRead.Proofs.Series.Layout

/-!
# Series of tag blobs

In a table with a column of all tags, the key of a row is the text of its blob as it stands, and the
labels are what the text says. Rows with the same text are therefore in one series, and each
admitted text has a series of its own (`series_are_those_of_blobs`). Texts that say the same in
different ways, such as with other blanks or in another order, are different keys
(`respelled_blobs_apart`), and no other two series have the same set of labels.
-/

namespace RemoteRead

open Outcome Accumulator

/-- The blob of a row in the column at a place: the label of the cell that it has there. -/
def blobOf? (row : List Cell) (i : Nat) : Option Text :=
  row[i]?.bind fun cell => cell.labelText.toOption

/-- The series of a blob: its labels are the name of the metric and those that the blob says, and it
has one sample for each row whose blob is this text, in the order of the rows. -/
structure SeriesOfBlob [Host] (layout : Layout) (kind : ColumnKind) (i : Nat)
    (rows : List (List Cell)) (blob : Text) (series : TimeSeries) : Prop where
  /-- The labels are the name of the metric and those of the blob. -/
  labels : ∃ tags, Tag.blobLabels blob = .ok tags ∧
    series.labels = ⟨metricNameLabel, layout.metricName⟩ :: tags
  /-- The samples are those of the rows with the blob. -/
  samples : List.Forall₂ (SampleOf layout kind) (rows.filter fun row => blobOf? row i == some blob)
    series.samples

/-- Different texts that give a series of a metric the same set of labels. -/
def Respelled [Host] (metricName blob blob' : Text) : Prop :=
  blob ≠ blob' ∧ ∃ tags tags', Tag.blobLabels blob = .ok tags ∧ Tag.blobLabels blob' = .ok tags' ∧
    ∀ l, l ∈ Label.mk metricNameLabel metricName :: tags ↔
      l ∈ Label.mk metricNameLabel metricName :: tags'

variable {layout : Layout} {kind : ColumnKind} {columns : List Value} {rows : List (List Cell)}
  {row : List Cell} {blob : Text} {series : TimeSeries} {i : Nat}

/-- With a column of all tags, the key of a row is its blob. -/
theorem seriesKey_eq_ok_iff_blob (htag : layout.tagIndex = some i) :
    seriesKey row layout = .ok blob ↔ blobOf? row i = some blob := by
  simp only [seriesKey, htag, bind_eq_ok_iff, cellAt_eq_ok_iff, blobOf?, Option.bind_eq_some_iff]
  refine exists_congr fun cell => and_congr_right fun _ => ?_
  cases cell.labelText <;> simp [Except.toOption]

/-- With a column of all tags, a row is in the series of its blob. -/
theorem inSeries_eq_blob (htag : layout.tagIndex = some i) :
    inSeries layout blob row = (blobOf? row i == some blob) := by
  rw [Bool.eq_iff_iff, inSeries_iff, seriesKey_eq_ok_iff_blob htag, beq_iff_eq]

/-- With a column of all tags, the series of a key is that of the blob. -/
theorem SeriesOf.ofBlob [Host] (htag : layout.tagIndex = some i)
    (h : SeriesOf layout kind columns rows blob series) :
    SeriesOfBlob layout kind i rows blob series := by
  -- The labels are those of the first row of the series, which has the blob as well.
  obtain ⟨first, tags, hfirst, htags, hlabels⟩ := h.labels
  have hblob : blobOf? first i = some blob := by
    rw [← seriesKey_eq_ok_iff_blob htag, ← inSeries_iff]
    exact List.find?_some hfirst
  obtain ⟨cell, hcell, hlabel⟩ := Option.bind_eq_some_iff.mp hblob
  refine ⟨⟨tags, ?_, hlabels⟩, ?_⟩
  · simp only [tagLabels, htag, bind_eq_ok_iff, mapError_eq_ok_iff, cellAt_eq_ok_iff] at htags
    obtain ⟨cell', hcell', blob', hlabel', htags⟩ := htags
    obtain rfl := Option.some.inj (hcell.symm.trans hcell')
    rw [hlabel'] at hlabel
    obtain rfl : blob' = blob := Option.some.inj hlabel
    exact htags
  · rw [← List.filter_congr fun row _ => inSeries_eq_blob htag]
    exact h.samples

/-- The series of a decoded table with a column of all tags are those of the first `limit` distinct
texts of its blobs. Each has the labels that its text says and a sample for every row with this very
text; and two series have the same set of labels only where different texts say it. -/
theorem series_are_those_of_blobs [Host] (result : ResultSet) (limit : Int)
    (response : ReadResponse)
    (htag : Value.text tagColumn ∈ result.columns) (h : result.decode limit = .ok response) :
    ∃ layout kind i blobs series,
      Layout.locate result.columns = .ok layout ∧
      layout.tagIndex = some i ∧ result.columns[i]? = some (.text tagColumn) ∧
      result.rows.map (blobOf? · i) = blobs.map some ∧
      response = ⟨[⟨series⟩]⟩ ∧
      List.Forall₂ (SeriesOfBlob layout kind i result.rows) (admissible limit blobs) series ∧
      (admissible limit blobs).Nodup ∧
      series.Pairwise fun s s' => (∀ l, l ∈ s.labels ↔ l ∈ s'.labels) →
        ∃ blob ∈ blobs, ∃ blob' ∈ blobs, Respelled layout.metricName blob blob' := by
  obtain ⟨layout, kind, blobs, series, hlayout, -, hread, hseries, rfl⟩ := IsGrouping.of_decode h
  obtain ⟨i, hi, hcolumn⟩ := Layout.exists_locate_tagIndex hlayout htag
  have hblobs : List.Forall₂ (SeriesOfBlob layout kind i result.rows) (admissible limit blobs)
      series := hseries.imp fun _ _ hof => hof.ofBlob hi
  have hnodup : (admissible limit blobs).Nodup := admissible_nodup limit blobs
  refine ⟨layout, kind, i, blobs, series, hlayout, hi, hcolumn, ?_, rfl, hblobs, hnodup, ?_⟩
  · have hrows := hread.imp fun _ _ hkey => (seriesKey_eq_ok_iff_blob hi).mp hkey
    rw [← List.forall₂_eq_eq_eq, List.forall₂_map_left_iff, List.forall₂_map_right_iff]
    exact hrows
  · -- Two series have different texts, whose labels are theirs.
    have hmem : ∀ blob ∈ admissible limit blobs, blob ∈ blobs := fun _ => mem_of_mem_admissible
    have hwithin := (List.forall₂_and_left _ _).mpr ⟨hmem, hblobs⟩
    -- Series with the same labels come from texts of the same tags.
    refine pairwise_of_forall₂ (fun hs hs' hne hsame => ?_) hwithin hnodup
    obtain ⟨tags, htags, hlabels⟩ := hs.2.labels
    obtain ⟨tags', htags', hlabels'⟩ := hs'.2.labels
    rw [hlabels, hlabels'] at hsame
    exact ⟨_, hs.1, _, hs'.1, hne, tags, tags', htags, htags', hsame⟩

/-- A blob without blanks. -/
def plainBlob : Text := "\x7b\"job\":\"api\"\x7d"

/-- A blob that says the same with a blank behind the colon. -/
def spacedBlob : Text := "\x7b\"job\": \"api\"\x7d"

/-- A table with a row for each of the two blobs. -/
def spellingTable : ResultSet where
  columns := [.text timeColumn, .text "metrics.up", .text tagColumn]
  kinds := [.int, .int, .text]
  rows := [[.int 20, .int 1, .text plainBlob], [.int 10, .int 0, .text spacedBlob]]
  query := []

/-- The layout of its columns. -/
def spellingLayout : Layout := ⟨"up", 1, 0, some 2, []⟩

/-- The series of the first row. -/
def plainSeries : TimeSeries where
  labels := [⟨metricNameLabel, "up"⟩, ⟨"job", "api"⟩]
  samples := [⟨Binary64.ofInt 1, 20000⟩]

/-- The series of the second row. -/
def spacedSeries : TimeSeries where
  labels := [⟨metricNameLabel, "up"⟩, ⟨"job", "api"⟩]
  samples := [⟨Binary64.ofInt 0, 10000⟩]

-- From here on the host is a concrete one.
attribute [local instance] Host.utc

/-- The labels of the blob without blanks. -/
theorem blobLabels_plainBlob : Tag.blobLabels plainBlob = .ok [⟨"job", "api"⟩] := by cbv

/-- The labels of the blob with a blank. -/
theorem blobLabels_spacedBlob : Tag.blobLabels spacedBlob = .ok [⟨"job", "api"⟩] := by cbv

/-- The table has a series for each of its rows. -/
theorem decode_spellingTable :
    spellingTable.decode 10 = .ok ⟨[⟨[plainSeries, spacedSeries]⟩]⟩ := by
  have hname : spellingLayout.metricName.all CodePoint.isScalar = true := by decide
  have hplain : seriesLabels [.int 20, .int 1, .text plainBlob] spellingLayout
      spellingTable.columns plainBlob = .ok plainSeries.labels := by
    refine (seriesLabels_eq_ok_iff rfl).mpr ⟨hname, _, ?_, rfl⟩
    exact congrArg (Except.mapError Error.fault) blobLabels_plainBlob
  have hspaced : seriesLabels [.int 10, .int 0, .text spacedBlob] spellingLayout
      spellingTable.columns spacedBlob = .ok spacedSeries.labels := by
    refine (seriesLabels_eq_ok_iff rfl).mpr ⟨hname, _, ?_, rfl⟩
    exact congrArg (Except.mapError Error.fault) blobLabels_spacedBlob
  -- Each row opens a series, since the text of its blob is new.
  have hfirst : addRow spellingLayout .int spellingTable.columns (Accumulator.empty 10)
      [.int 20, .int 1, .text plainBlob] = .ok ⟨10, [(plainBlob, plainSeries)], 0⟩ :=
    addRow_eq_ok_iff.mpr ⟨plainBlob, rfl, .inr (.inr ⟨by decide, by decide, _, _, hplain,
      rowSample_eq_ok_iff.mp rfl, rfl⟩)⟩
  have hsecond : addRow spellingLayout .int spellingTable.columns
      ⟨10, [(plainBlob, plainSeries)], 0⟩ [.int 10, .int 0, .text spacedBlob] =
        .ok ⟨10, [(plainBlob, plainSeries), (spacedBlob, spacedSeries)], 0⟩ :=
    addRow_eq_ok_iff.mpr ⟨spacedBlob, rfl, .inr (.inr ⟨by decide, by decide, _, _, hspaced,
      rowSample_eq_ok_iff.mp rfl, rfl⟩)⟩
  have hfold : spellingTable.rows.foldlM (addRow spellingLayout .int spellingTable.columns)
      (Accumulator.empty 10) =
        .ok ⟨10, [(plainBlob, plainSeries), (spacedBlob, spacedSeries)], 0⟩ := by
    simp only [spellingTable, List.foldlM_cons, bind_eq_ok_iff]
    exact ⟨_, hfirst, _, hsecond, rfl⟩
  simp only [ResultSet.decode, bind_eq_ok_iff]
  refine ⟨spellingLayout, rfl, ?_⟩
  show (do
    let a ← spellingTable.rows.foldlM (addRow spellingLayout .int spellingTable.columns)
      (Accumulator.empty 10)
    return ReadResponse.mk [a.result] : Except Error ReadResponse) = _
  rw [hfold]
  rfl

/-- Blobs that say the same in different texts have different series with the same labels. -/
theorem respelled_blobs_apart :
    Value.text tagColumn ∈ spellingTable.columns ∧
    Tag.blobLabels plainBlob = Tag.blobLabels spacedBlob ∧
    ∃ answer, spellingTable.decode 10 = .ok ⟨[answer]⟩ ∧
      ¬ answer.timeseries.Pairwise fun s s' => ¬ ∀ l, l ∈ s.labels ↔ l ∈ s'.labels := by
  refine ⟨by simp [spellingTable], ?_, _, decode_spellingTable, ?_⟩
  · rw [blobLabels_plainBlob, blobLabels_spacedBlob]
  · simp [plainSeries, spacedSeries]

/-- The two series of the table have the same labels, and so come from different texts. -/
theorem series_are_those_of_blobs_spelling :
    Value.text tagColumn ∈ spellingTable.columns ∧
    spellingTable.decode 10 = .ok ⟨[⟨[plainSeries, spacedSeries]⟩]⟩ ∧
    ∃ metricName blob blob', Respelled metricName blob blob' := by
  have htag : Value.text tagColumn ∈ spellingTable.columns := by simp [spellingTable]
  obtain ⟨layout, -, -, blobs, series, -, -, -, -, hresponse, -, -, hpairs⟩ :=
    series_are_those_of_blobs spellingTable 10 _ htag decode_spellingTable
  obtain rfl : [plainSeries, spacedSeries] = series := by simpa using hresponse
  obtain ⟨hpair, -⟩ := List.pairwise_cons.mp hpairs
  obtain ⟨blob, -, blob', -, hrespelled⟩ := hpair spacedSeries (by simp) fun l => Iff.rfl
  exact ⟨htag, decode_spellingTable, _, blob, blob', hrespelled⟩

end RemoteRead
