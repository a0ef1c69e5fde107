import RemoteRead.Proofs.Json.RoundTrip
import RemoteRead.Proofs.Series.Blob

/-!
# Tag maps as labels

The store hands over all tags of a row as a map from texts to texts. In a text column the map
becomes a cell that holds its document (`Cell.make_ofPairs`), and the labels of that document are
the entries of the map, in their order (`Tag.blobLabels_document`). `tag_map_becomes_labels` follows
a map from the store to the series of a response: the series that a row creates has the name of the
metric and the entries of the map as its labels.

`ResultSet.Creates` says which series a row creates: the one behind those that are there when its
key is admitted. A decoded table keeps that place (`Creates.exists_series`), because keys stay
admitted and the series of an answer are in the order of the admissible keys.
-/

namespace RemoteRead

open Outcome Accumulator

/-! ## From the map to labels -/

/-- The labels of the entries of a tag map. -/
def tagMapLabels (tags : List (Text × Text)) : List Label :=
  tags.map fun (name, value) => ⟨name, value⟩

/-- In a text column a mapping from texts to texts is a cell that holds its document. -/
theorem Cell.make_ofPairs (tags : List (Text × Text)) :
    Cell.make (Value.ofPairs tags) .text = .ok (.text (Json.document tags)) := by
  have hwrite := Json.write_ofPairs tags
  rw [Value.ofPairs] at hwrite ⊢
  simp only [Cell.make, textOf, hwrite, Except.mapError, Except.map]

/-- A mapping from texts to texts is flat. -/
theorem Tag.flatPairs?_ofPairs (tags : List (Text × Text)) :
    Tag.flatPairs? (Value.ofPairs tags) = some tags := by
  rw [Value.ofPairs, Tag.flatPairs?, Value.textEntries, List.mapM_map]
  induction tags with
  | nil => rfl
  | cons tag tags ih => simp [ih]

/-- The labels of the document of a tag map are its entries. -/
theorem Tag.blobLabels_document [Host] {tags : List (Text × Text)}
    (hkeys : (tags.map Prod.fst).Nodup)
    (hscalar : ∀ tag ∈ tags, tag.1.all CodePoint.isScalar = true ∧
      tag.2.all CodePoint.isScalar = true) :
    Tag.blobLabels (Json.document tags) = .ok (tagMapLabels tags) := by
  rw [Tag.blobLabels, Json.read_document hkeys .tags]
  simp only [Tag.flatPairs?_ofPairs]
  rw [mapM_eq_ok_iff, tagMapLabels, List.forall₂_map_right_iff, List.forall₂_same]
  intro tag htag
  obtain ⟨hname, hvalue⟩ := hscalar tag htag
  exact Label.checked_eq_ok_iff.mpr ⟨hname, hvalue, rfl⟩

/-! ## The series that a row creates -/

/-- A row creates the series at place `k` of the answer: it comes behind rows that leave `k` series,
and its key is admitted then. -/
def ResultSet.Creates [Host] (result : ResultSet) (limit : Int) (row : List Cell) (k : Nat) :
    Prop :=
  ∃ layout kind before after a key,
    Layout.locate result.columns = .ok layout ∧
    result.kinds[layout.metricIndex]? = some kind ∧
    result.rows = before ++ row :: after ∧
    before.foldlM (addRow layout kind result.columns) (Accumulator.empty limit) = .ok a ∧
    seriesKey row layout = .ok key ∧ (a.offer key).2 = .created ∧ a.admitted.length = k

variable {result : ResultSet} {limit : Int} {row : List Cell} {k : Nat} {layout : Layout}

/-- In a decoded table the series that a row creates is that of its key, at its place. -/
theorem ResultSet.Creates.exists_series [Host] (h : result.Creates limit row k)
    (hlayout : Layout.locate result.columns = .ok layout) {response : ReadResponse}
    (hdecode : result.decode limit = .ok response) :
    ∃ answer kind key series, response.results = [answer] ∧ answer.timeseries[k]? = some series ∧
      seriesKey row layout = .ok key ∧
      SeriesOf layout kind result.columns result.rows key series := by
  obtain ⟨_, _, before, after, a, key, hlayout', hkind, hrows, hbefore, hkey, hcreated, rfl⟩ := h
  obtain rfl := Except.ok.inj (hlayout.symm.trans hlayout')
  obtain ⟨_, kind, keys', series, hlayout', hkind', hread', hseries, rfl⟩ :=
    IsGrouping.of_decode hdecode
  obtain rfl := Except.ok.inj (hlayout.symm.trans hlayout')
  obtain rfl := Option.some.inj (hkind.symm.trans hkind')
  -- The accumulator in front of the row holds the admissible keys of the rows so far.
  obtain ⟨keys, hgroups⟩ := (Groups.empty limit layout _ result.columns).foldlM before hbefore
  rw [hrows] at hread'
  obtain ⟨more, rfl⟩ := exists_keys_append hgroups.read hkey hread'
  have hplace : (admissible limit (keys ++ [key] ++ more))[a.admitted.length]? = some key := by
    have hoffer := keys_offer a keys key (hgroups.capped ▸ hgroups.keys)
    obtain ⟨-, h⟩ | ⟨-, -, h⟩ | ⟨-, -, h⟩ := a.offer_cases key
    · rw [h] at hcreated
      cases hcreated
    · rw [h] at hcreated
      cases hcreated
    · -- What is admissible then stays so, at its place.
      rw [h, hgroups.capped] at hoffer
      obtain ⟨rest, hrest⟩ := admissible_prefix limit (keys ++ [key]) more
      rw [← hrest, ← hoffer]
      simp [Accumulator.keys]
  obtain ⟨s, hs, hof⟩ := exists_getElem?_right hseries hplace
  exact ⟨⟨series⟩, _, key, s, rfl, hs, hkey, hof⟩

/-! ## From the store to the response -/

/-- A tag map with distinct names becomes the labels of a series. Its cell in a text column holds a
blob whose labels are the entries of the map, in their order; and in every decoded table the series
that a row with this cell creates has the name of the metric and these entries as its labels. -/
theorem tag_map_becomes_labels [Host] (tags : List (Text × Text))
    (hkeys : (tags.map Prod.fst).Nodup)
    (hscalar : ∀ tag ∈ tags, tag.1.all CodePoint.isScalar = true ∧
      tag.2.all CodePoint.isScalar = true) :
    ∃ blob, Cell.make (Value.ofPairs tags) .text = .ok (.text blob) ∧
      Tag.blobLabels blob = .ok (tagMapLabels tags) ∧
      ∀ (result : ResultSet) (limit : Int) (response : ReadResponse) (layout : Layout) (i : Nat)
        (row : List Cell) (k : Nat),
        Layout.locate result.columns = .ok layout → layout.tagIndex = some i →
        row[i]? = some (.text blob) → result.Creates limit row k →
        result.decode limit = .ok response →
        ∃ answer series, response.results = [answer] ∧ answer.timeseries[k]? = some series ∧
          series.labels = ⟨metricNameLabel, layout.metricName⟩ :: tagMapLabels tags := by
  have hblob : Tag.blobLabels (Json.document tags) = .ok (tagMapLabels tags) :=
    Tag.blobLabels_document hkeys hscalar
  refine ⟨Json.document tags, Cell.make_ofPairs tags, hblob, ?_⟩
  intro result limit response layout i row k hlayout htag hcell hcreates hdecode
  obtain ⟨answer, kind, key, series, hanswer, hseries, hkey, hof⟩ :=
    hcreates.exists_series hlayout hdecode
  refine ⟨answer, series, hanswer, hseries, ?_⟩
  -- The key of the row is the blob in its cell, and the series has the labels that the blob says.
  have hrow : blobOf? row i = some (Json.document tags) := by
    rw [blobOf?, hcell]
    rfl
  obtain rfl := Except.ok.inj (((seriesKey_eq_ok_iff_blob htag).mpr hrow).symm.trans hkey)
  obtain ⟨labels, hlabels, hseriesLabels⟩ := (hof.ofBlob htag).labels
  obtain rfl := Except.ok.inj (hblob.symm.trans hlabels)
  exact hseriesLabels

/-- A tag map whose texts need escapes. -/
def escapedTags : List (Text × Text) :=
  [("pod", "a\"b\\c"), ("zone\n", "\x01é"), ([], [])]

/-- A table with one row, whose tags are in a blob. -/
def blobTable (blob : Text) : ResultSet where
  columns := [.text timeColumn, .text "metrics.up", .text tagColumn]
  kinds := [.int, .int, .text]
  rows := [[.int 20, .int 1, .text blob]]
  query := []

-- From here on the host is a concrete one.
attribute [local instance] Host.utc

/-- The one row creates the first series. -/
theorem creates_blobTable (blob : Text) :
    (blobTable blob).Creates 10 [.int 20, .int 1, .text blob] 0 :=
  ⟨spellingLayout, .int, [], [], Accumulator.empty 10, blob, rfl, rfl, rfl, rfl, rfl, rfl, rfl⟩

/-- The table is decoded if its blob has labels. -/
theorem decode_blobTable {blob : Text} {labels : List Label}
    (h : Tag.blobLabels blob = .ok labels) :
    (blobTable blob).decode 10 = .ok ⟨[⟨[{
      labels := ⟨metricNameLabel, "up"⟩ :: labels
      samples := [⟨Binary64.ofInt 1, 20000⟩] }]⟩]⟩ := by
  have hlabels : seriesLabels [.int 20, .int 1, .text blob] spellingLayout
      (blobTable blob).columns blob = .ok (⟨metricNameLabel, "up"⟩ :: labels) := by
    refine (seriesLabels_eq_ok_iff rfl).mpr ⟨by decide, labels, ?_, rfl⟩
    exact congrArg (Except.mapError Error.fault) h
  have hnew : blob ∉ (Accumulator.empty 10).keys := by simp [Accumulator.empty, Accumulator.keys]
  -- The one row opens the one series.
  have hadd : addRow spellingLayout .int (blobTable blob).columns (Accumulator.empty 10)
      [.int 20, .int 1, .text blob] = .ok ⟨10, [(blob, {
        labels := ⟨metricNameLabel, "up"⟩ :: labels
        samples := [⟨Binary64.ofInt 1, 20000⟩] })], 0⟩ :=
    addRow_eq_ok_iff.mpr ⟨blob, rfl, .inr (.inr ⟨hnew, by decide, _,
      ⟨Binary64.ofInt 1, 20000⟩, hlabels, rowSample_eq_ok_iff.mp rfl, rfl⟩)⟩
  simp only [ResultSet.decode, bind_eq_ok_iff]
  refine ⟨spellingLayout, rfl, ?_⟩
  show (do
    let a ← (blobTable blob).rows.foldlM (addRow spellingLayout .int (blobTable blob).columns)
      (Accumulator.empty 10)
    return ReadResponse.mk [a.result] : Except Error ReadResponse) = _
  simp only [blobTable, List.foldlM_cons, List.foldlM_nil, bind_eq_ok_iff, pure_eq_ok_iff]
  exact ⟨_, ⟨_, hadd, rfl⟩, rfl⟩

/-- Texts with quotes, backslashes and controls come through as they are. -/
theorem tag_map_becomes_labels_escaped :
    (escapedTags.map Prod.fst).Nodup ∧
    (∀ tag ∈ escapedTags, tag.1.all CodePoint.isScalar = true ∧
      tag.2.all CodePoint.isScalar = true) ∧
    ∃ blob, Cell.make (Value.ofPairs escapedTags) .text = .ok (.text blob) ∧
      ∃ response answer series, (blobTable blob).decode 10 = .ok response ∧
        response.results = [answer] ∧ answer.timeseries[0]? = some series ∧
        series.labels =
          [⟨metricNameLabel, "up"⟩, ⟨"pod", "a\"b\\c"⟩, ⟨"zone\n", "\x01é"⟩, ⟨[], []⟩] := by
  have hkeys : (escapedTags.map Prod.fst).Nodup := by decide
  have hscalar : ∀ tag ∈ escapedTags, tag.1.all CodePoint.isScalar = true ∧
      tag.2.all CodePoint.isScalar = true := by decide
  obtain ⟨blob, hcell, hblob, hseries⟩ := tag_map_becomes_labels escapedTags hkeys hscalar
  -- The table with the blob in it is decoded.
  obtain ⟨response, hdecode⟩ : ∃ response, (blobTable blob).decode 10 = .ok response :=
    ⟨_, decode_blobTable hblob⟩
  obtain ⟨answer, series, hanswer, hfirst, hlabels⟩ := hseries (blobTable blob) 10 response
    spellingLayout 2 _ 0 rfl rfl rfl (creates_blobTable blob) hdecode
  exact ⟨hkeys, hscalar, blob, hcell, response, answer, series, hdecode, hanswer, hfirst, hlabels⟩

end RemoteRead
