import RemoteRead.Proofs.Outcome
import RemoteRead.Proofs.Series.Admission
import RemoteRead.Series.Decode

/-!
# Decoding groups the rows of a table

`IsGrouping` says what the answer for a table is without an accumulator: the series are those of the
admissible keys (`Accumulator.admissible`), in their order, and `SeriesOf` says what the series of a
key is: the name of the metric and the tags of the first row that has the key as its labels, and one
sample for each row that has the key, in the order of the rows. `decode_eq_ok_iff` shows that
decoding succeeds exactly with the grouping of the table.

From left to right the proof carries `Groups` over the rows: the keys of the accumulator are the
admissible ones of the rows so far, and each of its series is `SeriesOf` these rows. One row
preserves it by the cases of `addRow_eq_ok_iff`. From right to left every row can be added
(`addRow_succeeds`), because what it needs is part of the grouping of the whole table, and a table
has one grouping only (`IsGrouping.unique`).
-/

namespace RemoteRead

open Outcome Accumulator

/-! ## Keys and cells -/

/-- Whether a row belongs to the series of a key. -/
def inSeries (layout : Layout) (key : Text) (row : List Cell) : Bool :=
  match seriesKey row layout with
  | .ok k => k == key
  | .error _ => false

variable {layout : Layout} {kind : ColumnKind} {columns : List Value} {rows : List (List Cell)}
  {row : List Cell} {key : Text} {keys : List Text} {series : TimeSeries} {sample : Sample}
  {a a' : Accumulator}

/-- A row belongs to the series of its key. -/
theorem inSeries_iff : inSeries layout key row = true ↔ seriesKey row layout = .ok key := by
  unfold inSeries
  cases seriesKey row layout <;> simp

/-- A row with a key belongs to the series of no other. -/
theorem inSeries_of_ne (hkey : seriesKey row layout = .ok key) {k : Text} (hne : k ≠ key) :
    inSeries layout k row = false := by
  simp [inSeries, hkey, hne.symm]

/-- A key that no row so far has is in no series. -/
theorem inSeries_eq_false {keys : List Text}
    (hkeys : List.Forall₂ (fun row key => seriesKey row layout = .ok key) rows keys)
    (hkey : key ∉ keys) : ∀ row ∈ rows, inSeries layout key row = false := by
  intro row hrow
  rw [← Bool.not_eq_true, inSeries_iff]
  intro h
  obtain ⟨k, hk, hread⟩ := exists_of_mem_left hkeys hrow
  obtain rfl : k = key := Except.ok.inj (hread.symm.trans h)
  exact hkey hk

/-- The keys of a table go on from those of its first rows and of one more. -/
theorem exists_keys_append {before after : List (List Cell)} {keys' : List Text}
    (hread : List.Forall₂ (fun row key => seriesKey row layout = .ok key) before keys)
    (hkey : seriesKey row layout = .ok key)
    (hread' : List.Forall₂ (fun row key => seriesKey row layout = .ok key)
      (before ++ row :: after) keys') :
    ∃ more, keys' = keys ++ [key] ++ more := by
  induction hread generalizing keys' with
  | nil =>
    obtain ⟨key', more, hkey', -, rfl⟩ := List.forall₂_cons_left_iff.mp hread'
    obtain rfl := Except.ok.inj (hkey.symm.trans hkey')
    exact ⟨more, rfl⟩
  | cons hfirst _ ih =>
    obtain ⟨first, rest, hfirst', hrest, rfl⟩ := List.forall₂_cons_left_iff.mp hread'
    obtain rfl := Except.ok.inj (hfirst.symm.trans hfirst')
    obtain ⟨more, rfl⟩ := ih hrest
    exact ⟨more, rfl⟩

/-- A text has an encoded form exactly when its code points do. -/
theorem checkedText_eq_ok_iff {t u : Text} :
    checkedText t = .ok u ↔ t.all CodePoint.isScalar = true ∧ t = u := by
  unfold checkedText
  split_ifs with h <;> simp [h]

/-- A label is made of a name and a value with encoded forms. -/
theorem Label.checked_eq_ok_iff {name value : Text} {label : Label} :
    Label.checked name value = .ok label ↔
      name.all CodePoint.isScalar = true ∧ value.all CodePoint.isScalar = true ∧
        label = ⟨name, value⟩ := by
  simp only [Label.checked, bind_eq_ok_iff, pure_eq_ok_iff, checkedText_eq_ok_iff]
  constructor
  · rintro ⟨_, ⟨hname, rfl⟩, _, ⟨hvalue, rfl⟩, rfl⟩
    exact ⟨hname, hvalue, rfl⟩
  · rintro ⟨hname, hvalue, rfl⟩
    exact ⟨name, ⟨hname, rfl⟩, value, ⟨hvalue, rfl⟩, rfl⟩

/-- A cell is there at its place. -/
theorem cellAt_eq_ok_iff {i : Nat} {cell : Cell} :
    cellAt row i = .ok cell ↔ row[i]? = some cell := by
  unfold cellAt
  cases row[i]? <;> simp

/-! ## What a row says -/

variable [Host]

/-- The labels of the tags of a row: those of its blob, or one for each bare tag present. -/
def tagLabels (row : List Cell) (layout : Layout) (columns : List Value) :
    Except Error (List Label) :=
  match layout.tagIndex with
  | some i => do
    let blob ← (← cellAt row i).labelText
    (Tag.blobLabels blob).mapError Error.fault
  | none => bareLabels row columns layout.bareIndexes

/-- The sample that a row contributes: the reading of its metric cell, which is of the kind of its
column, at a thousand times the seconds that its time cell holds. -/
structure SampleOf (layout : Layout) (kind : ColumnKind) (row : List Cell) (sample : Sample) :
    Prop where
  /-- The value is that of the metric cell. -/
  value : ∃ cell, row[layout.metricIndex]? = some cell ∧
    cell.sampleValue (some kind) = .ok sample.value
  /-- The time is that of the time cell, in milliseconds. -/
  timestamp : ∃ cell seconds, row[layout.timeIndex]? = some cell ∧ cell.seconds = .ok seconds ∧
    sample.timestamp = 1000 * seconds
  /-- The time has a form of 64 bits. -/
  fits : fitsInt64 sample.timestamp = true

/-- The series of a key among the rows of a table. -/
structure SeriesOf (layout : Layout) (kind : ColumnKind) (columns : List Value)
    (rows : List (List Cell)) (key : Text) (series : TimeSeries) : Prop where
  /-- The labels are the name of the metric and the tags of the first row that has the key. -/
  labels : ∃ first tags, rows.find? (inSeries layout key) = some first ∧
    tagLabels first layout columns = .ok tags ∧
    series.labels = ⟨metricNameLabel, layout.metricName⟩ :: tags
  /-- The name of the metric has an encoded form. -/
  encodable : layout.metricName.all CodePoint.isScalar = true
  /-- There is one sample for each row that has the key, in the order of the rows. -/
  samples : List.Forall₂ (SampleOf layout kind) (rows.filter (inSeries layout key)) series.samples
  /-- There are no exemplars. -/
  exemplars : series.exemplars = []

/-- The answer for a table under a cap: one result, which holds the series of the first `limit`
distinct keys of the rows, in the order in which they first come. -/
def IsGrouping (result : ResultSet) (limit : Int) (response : ReadResponse) : Prop :=
  ∃ layout kind keys series,
    Layout.locate result.columns = .ok layout ∧
    result.kinds[layout.metricIndex]? = some kind ∧
    List.Forall₂ (fun row key => seriesKey row layout = .ok key) result.rows keys ∧
    List.Forall₂ (SeriesOf layout kind result.columns result.rows) (admissible limit keys) series ∧
    response = ⟨[⟨series⟩]⟩

/-- Reading the sample of a row gives the sample that it contributes. -/
theorem rowSample_eq_ok_iff :
    rowSample row layout kind = .ok sample ↔ SampleOf layout kind row sample := by
  simp only [rowSample, Sample.checked, checkedInt64, bind_eq_ok_iff, pure_eq_ok_iff,
    cellAt_eq_ok_iff, mapError_eq_ok_iff]
  constructor
  · -- The readings of the row, in their order.
    rintro ⟨metric, hmetric, value, hvalue, time, htime, seconds, hseconds, ms, hms, rfl⟩
    split_ifs at hms with hfits
    obtain rfl := Except.ok.inj hms
    exact ⟨⟨metric, hmetric, hvalue⟩, ⟨time, seconds, htime, hseconds, Int.mul_comm _ _⟩, hfits⟩
  · rintro ⟨⟨metric, hmetric, hvalue⟩, ⟨time, seconds, htime, hseconds, hms⟩, hfits⟩
    refine ⟨metric, hmetric, _, hvalue, time, htime, seconds, hseconds, sample.timestamp, ?_, rfl⟩
    rw [Int.mul_comm, ← hms, if_pos hfits]

/-- The labels of a series are the name of the metric and the tags of the row that opens it. -/
theorem seriesLabels_eq_ok_iff (hkey : seriesKey row layout = .ok key) {labels : List Label} :
    seriesLabels row layout columns key = .ok labels ↔
      layout.metricName.all CodePoint.isScalar = true ∧
        ∃ tags, tagLabels row layout columns = .ok tags ∧
          labels = ⟨metricNameLabel, layout.metricName⟩ :: tags := by
  have hname : metricNameLabel.all CodePoint.isScalar = true := by decide
  -- The blob of the row is its key, so the labels read from the key are those of the row.
  have htags : tagLabels row layout columns = match layout.tagIndex with
      | some _ => (Tag.blobLabels key).mapError Error.fault
      | none => bareLabels row columns layout.bareIndexes := by
    unfold seriesKey at hkey
    unfold tagLabels
    cases htag : layout.tagIndex with
    | none => rfl
    | some i =>
      simp only [htag, bind_eq_ok_iff] at hkey
      obtain ⟨cell, hcell, hlabel⟩ := hkey
      simp [hcell, hlabel, Except.mapError, bind, Except.bind]
  have hbind : seriesLabels row layout columns key = do
      let name ← (Label.checked metricNameLabel layout.metricName).mapError Error.fault
      let tags ← tagLabels row layout columns
      return name :: tags := by
    rw [htags, seriesLabels]
    cases layout.tagIndex <;> rfl
  simp only [hbind, bind_eq_ok_iff, pure_eq_ok_iff, mapError_eq_ok_iff, Label.checked_eq_ok_iff]
  constructor
  · rintro ⟨_, ⟨-, hscalar, rfl⟩, tags, htags, rfl⟩
    exact ⟨hscalar, tags, htags, rfl⟩
  · rintro ⟨hscalar, tags, htags, rfl⟩
    exact ⟨_, ⟨hname, hscalar, rfl⟩, tags, htags, rfl⟩

/-- Adding a row succeeds in three ways. If its key is known, its sample is appended to the series
of the key; if the key comes too late, it is counted only; and otherwise it opens a series. -/
theorem addRow_eq_ok_iff :
    addRow layout kind columns a row = .ok a' ↔ ∃ key, seriesKey row layout = .ok key ∧
      ((key ∈ a.keys ∧ ∃ sample, SampleOf layout kind row sample ∧
          a' = a.update key fun s => { s with samples := s.samples ++ [sample] }) ∨
        (key ∉ a.keys ∧ a.limit ≤ a.admitted.length ∧ a' = { a with rejected := a.rejected + 1 }) ∨
        (key ∉ a.keys ∧ a.admitted.length < a.limit ∧ ∃ labels sample,
          seriesLabels row layout columns key = .ok labels ∧ SampleOf layout kind row sample ∧
          a' = { a with admitted := a.admitted ++ [(key, { labels, samples := [sample] })] })) := by
  unfold addRow
  rw [bind_eq_ok_iff]
  refine exists_congr fun key => and_congr_right fun _ => ?_
  -- A known key, one that comes too late, and a new one.
  obtain ⟨hmem, hoffer⟩ | ⟨hmem, hfull, hoffer⟩ | ⟨hmem, hroom, hoffer⟩ := a.offer_cases key
  · simp only [hoffer, bind_eq_ok_iff, pure_eq_ok_iff, rowSample_eq_ok_iff]
    grind
  · simp only [hoffer, pure_eq_ok_iff]
    grind
  · simp only [hoffer, bind_eq_ok_iff, pure_eq_ok_iff, rowSample_eq_ok_iff, update_concat hmem]
    grind

/-! ## One more row -/

/-- A row with another key changes nothing about a series. -/
theorem SeriesOf.concat_other (h : SeriesOf layout kind columns rows key series)
    (hrow : inSeries layout key row = false) :
    SeriesOf layout kind columns (rows ++ [row]) key series := by
  obtain ⟨first, tags, hfirst, htags, hlabels⟩ := h.labels
  refine ⟨⟨first, tags, ?_, htags, hlabels⟩, h.encodable, ?_, h.exemplars⟩
  · rw [List.find?_append, hfirst, Option.some_or]
  · rw [List.filter_append, List.filter_cons_of_neg (by simp [hrow]), List.filter_nil,
      List.append_nil]
    exact h.samples

/-- A row with the key of a series adds its sample to the end. -/
theorem SeriesOf.concat_same (h : SeriesOf layout kind columns rows key series)
    (hrow : inSeries layout key row = true) (hsample : SampleOf layout kind row sample) :
    SeriesOf layout kind columns (rows ++ [row]) key
      { series with samples := series.samples ++ [sample] } := by
  obtain ⟨first, tags, hfirst, htags, hlabels⟩ := h.labels
  refine ⟨⟨first, tags, ?_, htags, hlabels⟩, h.encodable, ?_, h.exemplars⟩
  · rw [List.find?_append, hfirst, Option.some_or]
  · rw [List.filter_append, List.filter_cons_of_pos hrow, List.filter_nil]
    exact List.rel_append h.samples (.cons hsample .nil)

/-- The first row with a key opens its series. -/
theorem SeriesOf.concat_new (hnew : ∀ r ∈ rows, inSeries layout key r = false)
    (hkey : seriesKey row layout = .ok key) {labels : List Label}
    (hlabels : seriesLabels row layout columns key = .ok labels)
    (hsample : SampleOf layout kind row sample) :
    SeriesOf layout kind columns (rows ++ [row]) key { labels, samples := [sample] } := by
  have hrow : inSeries layout key row = true := inSeries_iff.mpr hkey
  obtain ⟨hscalar, tags, htags, hlabels⟩ := (seriesLabels_eq_ok_iff hkey).mp hlabels
  refine ⟨⟨row, tags, ?_, htags, hlabels⟩, hscalar, ?_, rfl⟩
  · rw [List.find?_append, List.find?_eq_none.mpr (by simpa using hnew), Option.none_or,
      List.find?_cons_of_pos hrow]
  · rw [List.filter_append, List.filter_eq_nil_iff.mpr (by simpa using hnew), List.nil_append,
      List.filter_cons_of_pos hrow, List.filter_nil]
    exact .cons hsample .nil

/-- What an accumulator holds after the rows so far, whose keys are given: the admissible keys, each
with its series among these rows. -/
structure Groups (limit : Int) (layout : Layout) (kind : ColumnKind) (columns : List Value)
    (rows : List (List Cell)) (keys : List Text) (a : Accumulator) : Prop where
  /-- Every row has its key. -/
  read : List.Forall₂ (fun row key => seriesKey row layout = .ok key) rows keys
  /-- The cap stays as it is. -/
  capped : a.limit = limit
  /-- The keys are the admissible ones. -/
  keys : a.keys = admissible limit keys
  /-- Each series is that of its key. -/
  series : ∀ p ∈ a.admitted, SeriesOf layout kind columns rows p.1 p.2

/-- While there is room, a key that was not admitted was not met. -/
theorem Groups.not_mem_keys {limit : Int} (h : Groups limit layout kind columns rows keys a)
    (hmem : key ∉ a.keys) (hroom : a.admitted.length < a.limit) : key ∉ keys := by
  intro hk
  have hlt : (admissible limit keys).length < limit := by
    rw [← h.keys, length_keys, ← h.capped]
    exact hroom
  exact hmem (h.keys ▸ mem_admissible_of_lt hlt hk)

/-- One more row keeps an accumulator the grouping of the rows so far. -/
theorem Groups.addRow {limit : Int} (h : Groups limit layout kind columns rows keys a)
    (hadd : addRow layout kind columns a row = .ok a') :
    ∃ key, seriesKey row layout = .ok key ∧
      Groups limit layout kind columns (rows ++ [row]) (keys ++ [key]) a' := by
  obtain ⟨key, hkey, hcases⟩ := addRow_eq_ok_iff.mp hadd
  have hread : List.Forall₂ (fun row key => seriesKey row layout = .ok key) (rows ++ [row])
      (keys ++ [key]) := List.rel_append h.read (.cons hkey .nil)
  have hoffer := keys_offer a keys key (h.capped ▸ h.keys)
  refine ⟨key, hkey, ?_⟩
  obtain ⟨hmem, sample, hsample, rfl⟩ | ⟨hmem, hfull, rfl⟩ |
    ⟨hmem, hroom, labels, sample, hlabels, hsample, rfl⟩ := hcases
  · -- The key is known: its series grows and the others stay.
    rw [offer, if_pos hmem, h.capped] at hoffer
    refine ⟨hread, h.capped, by rw [keys_update, hoffer], fun p hp => ?_⟩
    obtain ⟨s, hs, hp2⟩ := mem_admitted_update hp
    rw [hp2]
    split_ifs with hp1
    · exact (h.series _ hs).concat_same (by rw [inSeries_iff, hp1, hkey]) hsample
    · exact (h.series _ hs).concat_other (inSeries_of_ne hkey hp1)
  · -- The key comes too late: every series stays.
    rw [offer, if_neg hmem, if_pos hfull, h.capped] at hoffer
    refine ⟨hread, h.capped, hoffer, fun p hp => ?_⟩
    have hp1 : p.1 ≠ key := ne_of_mem_of_not_mem (List.mem_map_of_mem hp) hmem
    exact (h.series p hp).concat_other (inSeries_of_ne hkey hp1)
  · -- The key is new: no row so far has it, since there is room for every key so far.
    have hnew : key ∉ keys := h.not_mem_keys hmem hroom
    rw [offer, if_neg hmem, if_neg (by omega), h.capped] at hoffer
    refine ⟨hread, h.capped, by rw [← hoffer]; simp [Accumulator.keys], fun p hp => ?_⟩
    rcases List.mem_append.mp hp with hp | hp
    · have hp1 : p.1 ≠ key := ne_of_mem_of_not_mem (List.mem_map_of_mem hp) hmem
      exact (h.series p hp).concat_other (inSeries_of_ne hkey hp1)
    · rw [List.mem_singleton.mp hp]
      exact SeriesOf.concat_new (inSeries_eq_false h.read hnew) hkey hlabels hsample

/-- Adding rows one after the other keeps an accumulator the grouping of all rows so far. -/
theorem Groups.foldlM {limit : Int} (more : List (List Cell)) :
    ∀ {rows keys a}, Groups limit layout kind columns rows keys a →
      more.foldlM (RemoteRead.addRow layout kind columns) a = .ok a' →
      ∃ keys', Groups limit layout kind columns (rows ++ more) keys' a' := by
  induction more with
  | nil =>
    intro rows keys a h hfold
    rw [List.foldlM_nil, pure_eq_ok_iff] at hfold
    exact ⟨keys, by rw [List.append_nil, ← hfold]; exact h⟩
  | cons row more ih =>
    intro rows keys a h hfold
    rw [List.foldlM_cons, bind_eq_ok_iff] at hfold
    obtain ⟨b, hadd, hfold⟩ := hfold
    obtain ⟨key, -, hb⟩ := h.addRow hadd
    obtain ⟨keys', h'⟩ := ih hb hfold
    exact ⟨keys', by rw [List.append_cons]; exact h'⟩

/-- An empty accumulator groups no rows. -/
theorem Groups.empty (limit : Int) (layout : Layout) (kind : ColumnKind) (columns : List Value) :
    Groups limit layout kind columns [] [] (Accumulator.empty limit) :=
  ⟨.nil, rfl, by simp [Accumulator.keys, Accumulator.empty, admissible],
    by simp [Accumulator.empty]⟩

/-- The series of an accumulator pair off with its keys. -/
theorem Groups.forall₂ {limit : Int} (h : Groups limit layout kind columns rows keys a) :
    List.Forall₂ (SeriesOf layout kind columns rows) (admissible limit keys)
      (a.admitted.map (·.2)) := by
  rw [← h.keys, Accumulator.keys, List.forall₂_map_left_iff, List.forall₂_map_right_iff,
    List.forall₂_same]
  exact h.series

/-- Decoding a table gives its grouping. -/
theorem IsGrouping.of_decode {result : ResultSet} {limit : Int} {response : ReadResponse}
    (h : result.decode limit = .ok response) : IsGrouping result limit response := by
  simp only [ResultSet.decode, bind_eq_ok_iff] at h
  obtain ⟨layout, hlayout, h⟩ := h
  cases hkind : result.kinds[layout.metricIndex]? with
  | none => simp [hkind, throw, throwThe, MonadExceptOf.throw] at h
  | some kind =>
    simp only [hkind, bind_eq_ok_iff, pure_eq_ok_iff] at h
    obtain ⟨a, hfold, rfl⟩ := h
    obtain ⟨keys, hgroups⟩ :=
      (Groups.empty limit layout kind result.columns).foldlM result.rows hfold
    exact ⟨layout, kind, keys, _, hlayout, hkind, hgroups.read, hgroups.forall₂, rfl⟩

/-! ## What has a grouping decodes -/

/-- Some row of the series gave it its labels. -/
theorem SeriesOf.exists_first (h : SeriesOf layout kind columns rows key series) :
    ∃ first ∈ rows, seriesKey first layout = .ok key ∧
      seriesLabels first layout columns key = .ok series.labels := by
  obtain ⟨first, tags, hfirst, htags, hlabels⟩ := h.labels
  have hkey : seriesKey first layout = .ok key := inSeries_iff.mp (List.find?_some hfirst)
  exact ⟨first, List.mem_of_find?_eq_some hfirst, hkey,
    (seriesLabels_eq_ok_iff hkey).mpr ⟨h.encodable, tags, htags, hlabels⟩⟩

/-- A row that belongs to the series of a key contributes a sample to it. -/
theorem SeriesOf.exists_sample (h : SeriesOf layout kind columns rows key series)
    (hrow : row ∈ rows) (hkey : seriesKey row layout = .ok key) :
    ∃ sample, SampleOf layout kind row sample := by
  have hmem : row ∈ rows.filter (inSeries layout key) :=
    List.mem_filter.mpr ⟨hrow, inSeries_iff.mpr hkey⟩
  obtain ⟨sample, -, hsample⟩ := exists_of_mem_left h.samples hmem
  exact ⟨sample, hsample⟩

/-- The row that opens a series has labels. -/
theorem SeriesOf.exists_labels {more : List (List Cell)}
    (h : SeriesOf layout kind columns (rows ++ row :: more) key series)
    (hnew : ∀ r ∈ rows, inSeries layout key r = false) (hkey : seriesKey row layout = .ok key) :
    ∃ labels, seriesLabels row layout columns key = .ok labels := by
  obtain ⟨first, tags, hfirst, htags, -⟩ := h.labels
  rw [List.find?_append, List.find?_eq_none.mpr (by simpa using hnew), Option.none_or,
    List.find?_cons_of_pos (inSeries_iff.mpr hkey)] at hfirst
  obtain rfl := Option.some.inj hfirst
  exact ⟨_, (seriesLabels_eq_ok_iff hkey).mpr ⟨h.encodable, tags, htags, rfl⟩⟩

/-- A row can be added if its key, should it be admissible, has a series in a table that starts with
the rows so far and this one. -/
theorem Groups.addRow_succeeds {limit : Int} {more : List (List Cell)}
    (h : Groups limit layout kind columns rows keys a) (hkey : seriesKey row layout = .ok key)
    (hseries : key ∈ admissible limit (keys ++ [key]) →
      ∃ series, SeriesOf layout kind columns (rows ++ row :: more) key series) :
    ∃ b, RemoteRead.addRow layout kind columns a row = .ok b := by
  have hoffer := keys_offer a keys key (h.capped ▸ h.keys)
  rw [← h.capped] at hseries
  obtain ⟨hmem, -⟩ | ⟨hmem, hfull, -⟩ | ⟨hmem, hroom, -⟩ := a.offer_cases key
  · rw [offer, if_pos hmem] at hoffer
    obtain ⟨series, hof⟩ := hseries (by rw [← hoffer]; exact hmem)
    obtain ⟨sample, hsample⟩ := hof.exists_sample (by simp) hkey
    exact ⟨_, addRow_eq_ok_iff.mpr ⟨key, hkey, .inl ⟨hmem, sample, hsample, rfl⟩⟩⟩
  · exact ⟨_, addRow_eq_ok_iff.mpr ⟨key, hkey, .inr (.inl ⟨hmem, hfull, rfl⟩)⟩⟩
  · rw [offer, if_neg hmem, if_neg (by omega)] at hoffer
    have hnew : key ∉ keys := h.not_mem_keys hmem hroom
    obtain ⟨series, hof⟩ := hseries (by rw [← hoffer]; simp [Accumulator.keys])
    obtain ⟨labels, hlabels⟩ := hof.exists_labels (inSeries_eq_false h.read hnew) hkey
    obtain ⟨sample, hsample⟩ := hof.exists_sample (by simp) hkey
    exact ⟨_, addRow_eq_ok_iff.mpr
      ⟨key, hkey, .inr (.inr ⟨hmem, hroom, labels, sample, hlabels, hsample, rfl⟩)⟩⟩

/-- The rows of a table can all be added if its admissible keys have their series. -/
theorem Groups.foldlM_succeeds {limit : Int} {more : List (List Cell)} {moreKeys : List Text}
    (hread : List.Forall₂ (fun row key => seriesKey row layout = .ok key) more moreKeys) :
    ∀ {rows keys a}, Groups limit layout kind columns rows keys a →
      (∀ key ∈ admissible limit (keys ++ moreKeys),
        ∃ series, SeriesOf layout kind columns (rows ++ more) key series) →
      ∃ b, more.foldlM (RemoteRead.addRow layout kind columns) a = .ok b := by
  induction hread with
  | nil => intro rows keys a _ _; exact ⟨a, rfl⟩
  | @cons row key more moreKeys hkey _ ih =>
    intro rows keys a h hseries
    have hbeginning := admissible_prefix limit (keys ++ [key]) moreKeys
    rw [← List.append_cons] at hbeginning
    obtain ⟨b, hadd⟩ := h.addRow_succeeds hkey fun hmem => hseries key (hbeginning.subset hmem)
    obtain ⟨key', hkey', hb⟩ := h.addRow hadd
    obtain rfl : key = key' := Except.ok.inj (hkey.symm.trans hkey')
    obtain ⟨c, hfold⟩ := ih hb (by rw [← List.append_cons, ← List.append_cons]; exact hseries)
    exact ⟨c, by rw [List.foldlM_cons, bind_eq_ok_iff]; exact ⟨b, hadd, hfold⟩⟩

/-! ## A table has one grouping -/

/-- A row contributes one sample only. -/
theorem SampleOf.unique {sample' : Sample} (h : SampleOf layout kind row sample)
    (h' : SampleOf layout kind row sample') : sample = sample' := by
  have hread := (rowSample_eq_ok_iff.mpr h).symm.trans (rowSample_eq_ok_iff.mpr h')
  exact Except.ok.inj hread

/-- A key has one series only. -/
theorem SeriesOf.unique {series' : TimeSeries} (h : SeriesOf layout kind columns rows key series)
    (h' : SeriesOf layout kind columns rows key series') : series = series' := by
  obtain ⟨first, tags, hfirst, htags, hlabels⟩ := h.labels
  obtain ⟨first', tags', hfirst', htags', hlabels'⟩ := h'.labels
  obtain rfl := Option.some.inj (hfirst.symm.trans hfirst')
  obtain rfl := Except.ok.inj (htags.symm.trans htags')
  have hunique : Relator.RightUnique (SampleOf layout kind) := fun _ _ _ => SampleOf.unique
  have hsamples : series.samples = series'.samples := hunique.forall₂ h.samples h'.samples
  calc series = ⟨series.labels, series.samples, series.exemplars⟩ := rfl
    _ = ⟨series'.labels, series'.samples, series'.exemplars⟩ := by
      rw [hlabels, hlabels', hsamples, h.exemplars, h'.exemplars]
    _ = series' := rfl

/-- A table has one grouping only. -/
theorem IsGrouping.unique {result : ResultSet} {limit : Int} {response response' : ReadResponse}
    (h : IsGrouping result limit response) (h' : IsGrouping result limit response') :
    response = response' := by
  obtain ⟨layout, kind, keys, series, hlayout, hkind, hread, hseries, rfl⟩ := h
  obtain ⟨layout', kind', keys', series', hlayout', hkind', hread', hseries', rfl⟩ := h'
  obtain rfl := Except.ok.inj (hlayout.symm.trans hlayout')
  obtain rfl := Option.some.inj (hkind.symm.trans hkind')
  have hkeyUnique : Relator.RightUnique fun row key => seriesKey row layout = .ok key :=
    fun _ _ _ hk hk' => Except.ok.inj (hk.symm.trans hk')
  obtain rfl : keys = keys' := hkeyUnique.forall₂ hread hread'
  have hseriesUnique : Relator.RightUnique (SeriesOf layout kind result.columns result.rows) :=
    fun _ _ _ => SeriesOf.unique
  obtain rfl : series = series' := hseriesUnique.forall₂ hseries hseries'
  rfl

/-- Decoding succeeds exactly with the grouping of the table: the series are those of the first
`limit` distinct keys, each with the labels of its first row and one sample for each of its rows. -/
theorem decode_eq_ok_iff (result : ResultSet) (limit : Int) (response : ReadResponse) :
    result.decode limit = .ok response ↔ IsGrouping result limit response := by
  refine ⟨IsGrouping.of_decode, fun h => ?_⟩
  obtain ⟨response', hdecode⟩ : ∃ response', result.decode limit = .ok response' := by
    obtain ⟨layout, kind, keys, series, hlayout, hkind, hread, hseries, -⟩ := h
    obtain ⟨a, hfold⟩ := (Groups.empty limit layout kind result.columns).foldlM_succeeds hread
      fun key hkey => (exists_of_mem_left hseries hkey).imp fun _ h => h.2
    refine ⟨⟨[a.result]⟩, ?_⟩
    simp only [ResultSet.decode, bind_eq_ok_iff]
    refine ⟨layout, hlayout, ?_⟩
    simp only [hkind, bind_eq_ok_iff, pure_eq_ok_iff]
    exact ⟨a, hfold, rfl⟩
  rw [hdecode, h.unique (IsGrouping.of_decode hdecode)]

end RemoteRead
