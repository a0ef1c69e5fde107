import Mathlib.Data.Option.Basic
import RemoteRead.Proofs.Identifier
import RemoteRead.Proofs.Series.BareTag
import RemoteRead.Proofs.Series.BlobLabels

/-!
# The names of labels

The first label of a series is the name of the metric, and the others are those of its tags. Names
that come from columns are plain identifiers, because the marks `.`, `-` and `/` of a column are
replaced; and the names that come from a blob are distinct, because a repeated key is kept once.
Nothing else keeps names apart: two columns may have the same label name, and a tag may be called
`__name__`. `Clash` says when this happens in the row that opens a series, and
`label_names_distinct_unless_clash` that the names are distinct in every other case and in no such
case.
-/

namespace RemoteRead

open Outcome Accumulator

/-- The name of a column that becomes a label name: a letter or underscore, then letters, digits,
underscores and marks. -/
def IsColumnName (name : Text) : Prop :=
  ∃ c r, name = c :: r ∧ Identifier.isInitial c = true ∧
    ∀ d ∈ r, Identifier.isFollowing d = true ∨ Tag.isMark d = true

/-- The label name of the column at a place. -/
def labelNameAt (columns : List Value) (i : Nat) : Option Text :=
  match columns[i]? with
  | some (.text column) => some (Tag.labelName column)
  | _ => none

/-- The tags of a row give two labels of its series the same name. -/
inductive Clash [Host] (layout : Layout) (columns : List Value) (row : List Cell) : Prop where
  /-- A tag of the blob is called as the label of the metric. -/
  | ofBlob {i : Nat} {blob : Text} {tags : List (Text × Text)} (hi : layout.tagIndex = some i)
    (hblob : blobOf? row i = some blob) (htags : Tag.IsFlatObject blob tags)
    (hname : metricNameLabel ∈ tags.map Prod.fst)
  /-- A bare tag is called as the label of the metric. -/
  | withMetric {tags : List (Nat × Text)} {tag : Nat × Text} (hnone : layout.tagIndex = none)
    (htags : presentTags row layout.bareIndexes = .ok tags) (htag : tag ∈ tags)
    (hname : labelNameAt columns tag.1 = some metricNameLabel)
  /-- Two bare tags are called the same. -/
  | ofColumns {tags : List (Nat × Text)} {tag tag' : Nat × Text} (hnone : layout.tagIndex = none)
    (htags : presentTags row layout.bareIndexes = .ok tags) (htag : tag ∈ tags)
    (htag' : tag' ∈ tags) (hne : tag.1 ≠ tag'.1)
    (hname : labelNameAt columns tag.1 = labelNameAt columns tag'.1)

/-- What the labels of a series are called, if the given row opens it. -/
structure LabelNames [Host] (layout : Layout) (columns : List Value) (row : List Cell)
    (labels : List Label) : Prop where
  /-- The first label is the name of the metric. -/
  head : labels.head? = some ⟨metricNameLabel, layout.metricName⟩
  /-- Without a blob every label name is a plain identifier. -/
  plain : layout.tagIndex = none → ∀ l ∈ labels, Identifier.isPlain l.name = true
  /-- The names from a blob are distinct. -/
  blob : layout.tagIndex ≠ none → (labels.tail.map Label.name).Nodup
  /-- All names are distinct exactly if the tags of the row do not clash. -/
  distinct : (labels.map Label.name).Nodup ↔ ¬ Clash layout columns row

variable {layout : Layout} {columns : List Value} {row : List Cell} {indexes : List Nat}
  {tags : List (Nat × Text)} {labels : List Label} {name : Text}

/-! ## Names from columns -/

/-- What replaces a mark may follow in an identifier. -/
theorem isPlain_labelName (h : IsColumnName name) :
    Identifier.isPlain (Tag.labelName name) = true := by
  obtain ⟨c, r, rfl, hc, hr⟩ := h
  have hunderscore : Identifier.isFollowing (CodePoint.ofChar '_') = true := by decide
  -- A mark does not start a name, so the first code point stays.
  have hfirst : Tag.isMark c = false := by
    rw [← Bool.not_eq_true]
    intro hmark
    simp only [Tag.isMark, decide_eq_true_eq] at hmark
    rcases hmark with rfl | rfl | rfl <;> exact absurd hc (by decide)
  rw [Tag.labelName, List.map_cons, hfirst, if_neg Bool.false_ne_true, Identifier.isPlain, hc,
    Bool.true_and, List.all_map, List.all_eq_true]
  intro d hd
  rw [Function.comp_apply]
  split_ifs with hmark
  · exact hunderscore
  · exact (hr d hd).resolve_right hmark

/-- The label of a tag has the label name of its column. -/
theorem labelNameAt_of_tagLabel {tag : Nat × Text} {label : Label}
    (h : tagLabel columns tag = .ok label) : labelNameAt columns tag.1 = some label.name := by
  obtain ⟨column, hcolumn, -, -, rfl⟩ := tagLabel_eq_ok_iff.mp h
  simp [labelNameAt, hcolumn]

/-- The labels of tags have the label names of their columns. -/
theorem map_name_of_tagLabels
    (h : List.Forall₂ (fun tag label => tagLabel columns tag = .ok label) tags labels) :
    (labels.map Label.name).map some = tags.map fun tag => labelNameAt columns tag.1 := by
  induction h with
  | nil => rfl
  | cons htag _ ih =>
    rw [List.map_cons, List.map_cons, List.map_cons, ih, labelNameAt_of_tagLabel htag]

/-- The places of the present tags are some of those asked for, in their order. -/
theorem places_sublist (h : presentTags row indexes = .ok tags) :
    (tags.map Prod.fst).Sublist indexes := by
  induction indexes generalizing tags with
  | nil =>
    obtain rfl := Except.ok.inj h
    exact .slnil
  | cons i indexes ih =>
    obtain ⟨cell, -, ⟨-, hrest⟩ | ⟨-, value, rest, -, hrest, rfl⟩⟩ :=
      presentTags_cons_eq_ok_iff.mp h
    · exact (ih hrest).cons i
    · exact (ih hrest).cons_cons i

/-- The bare tags of a row have distinct places. -/
theorem nodup_presentTags (h : presentTags row indexes = .ok tags) (hindexes : indexes.Nodup) :
    (tags.map Prod.fst).Nodup := hindexes.sublist (places_sublist h)

/-- The names of bare tags are distinct exactly if no two of their columns are called the same. -/
theorem nodup_names_iff (h : presentTags row indexes = .ok tags) (hindexes : indexes.Nodup)
    (hlabels : List.Forall₂ (fun tag label => tagLabel columns tag = .ok label) tags labels) :
    (labels.map Label.name).Nodup ↔ ∀ tag ∈ tags, ∀ tag' ∈ tags,
      labelNameAt columns tag.1 = labelNameAt columns tag'.1 → tag.1 = tag'.1 := by
  have htags := nodup_presentTags h hindexes
  rw [← List.nodup_map_iff (Option.some_injective Text), map_name_of_tagLabels hlabels,
    List.nodup_map_iff_inj_on htags.of_map]
  have hplaces := List.inj_on_of_nodup_map htags
  constructor
  · intro hinj tag htag tag' htag' hname
    rw [hinj tag htag tag' htag' hname]
  · intro hinj tag htag tag' htag' hname
    exact hplaces htag htag' (hinj tag htag tag' htag' hname)

/-- A name is that of a bare tag exactly if a column is called so. -/
theorem mem_names_iff
    (hlabels : List.Forall₂ (fun tag label => tagLabel columns tag = .ok label) tags labels) :
    name ∈ labels.map Label.name ↔ ∃ tag ∈ tags, labelNameAt columns tag.1 = some name := by
  rw [← List.mem_map_of_injective (Option.some_injective Text), map_name_of_tagLabels hlabels,
    List.mem_map]

/-! ## Names from a blob -/

/-- The keys of a flat object are distinct. -/
theorem Tag.IsFlatObject.nodup_keys [Host] {blob : Text} {tags : List (Text × Text)}
    (h : Tag.IsFlatObject blob tags) : (tags.map Prod.fst).Nodup := by
  obtain ⟨ms, -, hms⟩ := h
  have hkeys : tags.map Prod.fst = (ms.map Prod.fst).eraseDups := by
    have hfst := congrArg (List.map Prod.fst) hms
    simpa [Json.keptMembers, Function.comp_def] using hfst.symm
  rw [hkeys]
  exact Text.nodup_eraseDups _

/-- The labels of a blob are the tags of a flat object, or there are none. -/
theorem Tag.exists_tags_of_blobLabels [Host] {blob : Text} (h : Tag.blobLabels blob = .ok labels) :
    (∃ tags, Tag.IsFlatObject blob tags ∧ labels = tagMapLabels tags) ∨
      (∀ tags, ¬ Tag.IsFlatObject blob tags) ∧ labels = [] := by
  obtain ⟨fault, hbreaks⟩ | ⟨tags, htags, hlabels⟩ | ⟨hnone, hlabels⟩ := Tag.blobLabels_cases blob
  · cases h.symm.trans hbreaks.blobLabels_eq
  · exact .inl ⟨tags, htags, Except.ok.inj (h.symm.trans hlabels)⟩
  · exact .inr ⟨hnone, Except.ok.inj (h.symm.trans hlabels)⟩

/-- The labels of tags are called by their keys. -/
theorem map_name_tagMapLabels (tags : List (Text × Text)) :
    (tagMapLabels tags).map Label.name = tags.map Prod.fst := by
  rw [tagMapLabels, List.map_map]
  rfl

/-! ## Names of a series -/

/-- The labels of a row without a blob are called as their columns say. -/
theorem labelNames_bare [Host] (hnone : layout.tagIndex = none)
    (hindexes : layout.bareIndexes.Nodup)
    (hnames : ∀ v ∈ columns, ∃ name, v = .text name ∧ IsColumnName name)
    (htags : tagLabels row layout columns = .ok labels) :
    LabelNames layout columns row (⟨metricNameLabel, layout.metricName⟩ :: labels) := by
  rw [tagLabels, hnone] at htags
  obtain ⟨tags, hpresent, hlabels⟩ := bareLabels_eq_ok_iff.mp htags
  have hmetric : Identifier.isPlain metricNameLabel = true := by decide
  refine ⟨rfl, fun _ => List.forall_mem_cons.mpr ⟨hmetric, fun l hl => ?_⟩, fun h => absurd hnone h,
    ?_⟩
  · -- The name of a tag is the label name of a column.
    obtain ⟨tag, -, hlabel⟩ := exists_of_mem_right hlabels hl
    obtain ⟨column, hcolumn, -, -, rfl⟩ := tagLabel_eq_ok_iff.mp hlabel
    obtain ⟨name, hname, hcolumnName⟩ := hnames _ (List.mem_of_getElem? hcolumn)
    obtain rfl := Value.text.inj hname
    exact isPlain_labelName hcolumnName
  · -- The name of the metric is not among the others, and these are distinct.
    rw [List.map_cons, List.nodup_cons, mem_names_iff hlabels,
      nodup_names_iff hpresent hindexes hlabels]
    constructor
    · -- Distinct names leave no way to clash.
      rintro ⟨hmetric, hinj⟩ hclash
      cases hclash with
      | ofBlob hi => cases hnone.symm.trans hi
      | withMetric _ hpresent' htag hname =>
        obtain rfl := Except.ok.inj (hpresent.symm.trans hpresent')
        exact hmetric ⟨_, htag, hname⟩
      | ofColumns _ hpresent' htag htag' hne hname =>
        obtain rfl := Except.ok.inj (hpresent.symm.trans hpresent')
        exact hne (hinj _ htag _ htag' hname)
    · -- Without a clash the names are distinct.
      refine fun hclash => ⟨?_, fun tag htag tag' htag' hname => ?_⟩
      · rintro ⟨tag, htag, hname⟩
        exact hclash (.withMetric hnone hpresent htag hname)
      · by_contra hne
        exact hclash (.ofColumns hnone hpresent htag htag' hne hname)

/-- The labels of a row with a blob are called as the blob says. -/
theorem labelNames_blob [Host] {i : Nat} {blob : Text} (hi : layout.tagIndex = some i)
    (hblob : blobOf? row i = some blob) (htags : Tag.blobLabels blob = .ok labels) :
    LabelNames layout columns row (⟨metricNameLabel, layout.metricName⟩ :: labels) := by
  -- A flat object has distinct keys, and any other blob no labels.
  have hnodup : (labels.map Label.name).Nodup := by
    obtain ⟨tags, hflat, rfl⟩ | ⟨-, rfl⟩ := Tag.exists_tags_of_blobLabels htags
    · rw [map_name_tagMapLabels]
      exact hflat.nodup_keys
    · exact List.nodup_nil
  refine ⟨rfl, fun hnone => ?_, fun _ => hnodup, ?_⟩
  · cases hnone.symm.trans hi
  · rw [List.map_cons, List.nodup_cons, and_iff_left hnodup, not_iff_not]
    constructor
    · intro hname
      obtain ⟨tags, hflat, rfl⟩ | ⟨-, rfl⟩ := Tag.exists_tags_of_blobLabels htags
      · rw [map_name_tagMapLabels] at hname
        exact .ofBlob hi hblob hflat hname
      · simp at hname
    · -- The blob determines its tags.
      intro hclash
      cases hclash with
      | ofBlob hi' hblob' hflat hname =>
        obtain rfl := Option.some.inj (hi.symm.trans hi')
        obtain rfl := Option.some.inj (hblob.symm.trans hblob')
        obtain ⟨tags, hflat', rfl⟩ | ⟨hnone, -⟩ := Tag.exists_tags_of_blobLabels htags
        · rw [map_name_tagMapLabels, ← hflat.unique hflat']
          exact hname
        · exact absurd hflat (hnone _)
      | withMetric hnone => cases hnone.symm.trans hi
      | ofColumns hnone => cases hnone.symm.trans hi

/-- The labels of a series are called as the tags of the row that opens it say: the first is the
name of the metric, names from columns are plain identifiers, names from a blob are distinct, and
all names are distinct unless tags of the row clash. -/
theorem label_names_distinct_unless_clash [Host] (result : ResultSet) (limit : Int)
    (response : ReadResponse)
    (hnames : ∀ v ∈ result.columns, ∃ name, v = .text name ∧ IsColumnName name)
    (hdecode : result.decode limit = .ok response) :
    ∃ layout keys series, Layout.locate result.columns = .ok layout ∧
      response = ⟨[⟨series⟩]⟩ ∧
      List.Forall₂ (fun key s => ∃ first, result.rows.find? (inSeries layout key) = some first ∧
        LabelNames layout result.columns first s.labels) (admissible limit keys) series := by
  obtain ⟨layout, kind, keys, series, hlayout, -, -, hseries, rfl⟩ := IsGrouping.of_decode hdecode
  refine ⟨layout, keys, series, hlayout, rfl, hseries.imp fun key s hs => ?_⟩
  obtain ⟨first, tags, hfirst, htags, hlabels⟩ := hs.labels
  refine ⟨first, hfirst, ?_⟩
  -- The row that opens the series has bare tags or a blob.
  rw [hlabels]
  cases hi : layout.tagIndex with
  | none => exact labelNames_bare hi (Layout.nodup_bareIndexes hlayout) hnames htags
  | some i =>
    obtain ⟨tags', htags', hlabels'⟩ := (hs.ofBlob hi).labels
    have hkey : blobOf? first i = some key := by
      rw [← seriesKey_eq_ok_iff_blob hi, ← inSeries_iff]
      exact List.find?_some hfirst
    obtain ⟨-, rfl⟩ := List.cons.inj (hlabels.symm.trans hlabels')
    exact labelNames_blob hi hkey htags'

/-- The columns of the table have names that become label names. -/
theorem columnNames_blobTable (blob : Text) :
    ∀ v ∈ (blobTable blob).columns, ∃ name, v = .text name ∧ IsColumnName name := by
  intro v hv
  simp only [blobTable, List.mem_cons, List.not_mem_nil, or_false] at hv
  rcases hv with rfl | rfl | rfl
  all_goals exact ⟨_, rfl, _, _, rfl, by decide, by decide⟩

-- From here on the host is a concrete one.
attribute [local instance] Host.utc

/-- The series of a blob without the name of the metric has distinct label names. -/
theorem label_names_distinct_plainBlob :
    (∀ v ∈ (blobTable plainBlob).columns, ∃ name, v = .text name ∧ IsColumnName name) ∧
    ∃ s first, (blobTable plainBlob).decode 10 = .ok ⟨[⟨[s]⟩]⟩ ∧
      LabelNames spellingLayout (blobTable plainBlob).columns first s.labels ∧
      ¬ Clash spellingLayout (blobTable plainBlob).columns first := by
  have hnames := columnNames_blobTable plainBlob
  have hdecode := decode_blobTable blobLabels_plainBlob
  obtain ⟨layout, keys, series, hlayout, hresponse, hseries⟩ :=
    label_names_distinct_unless_clash (blobTable plainBlob) 10 _ hnames hdecode
  obtain rfl : spellingLayout = layout := Except.ok.inj hlayout
  obtain rfl : [_] = series := by simpa using hresponse
  obtain ⟨key, -, first, -, hlabels⟩ := exists_of_mem_right hseries List.mem_cons_self
  exact ⟨hnames, _, first, hdecode, hlabels, hlabels.distinct.mp (by decide)⟩

/-- A blob in which a tag is called as the label of the metric. -/
def namedBlob : Text := "\x7b\"__name__\":\"x\",\"job\":\"api\"\x7d"

/-- The label of the metric comes twice in its series. -/
theorem metricNameLabel_twice :
    (blobTable namedBlob).columns.Nodup ∧
    (∀ v ∈ (blobTable namedBlob).columns, ∃ name, v = .text name ∧ IsColumnName name) ∧
    ∃ s, (blobTable namedBlob).decode 10 = .ok ⟨[⟨[s]⟩]⟩ ∧ ¬ (s.labels.map Label.name).Nodup := by
  have hlabels : Tag.blobLabels namedBlob = .ok [⟨metricNameLabel, "x"⟩, ⟨"job", "api"⟩] := by cbv
  refine ⟨?_, columnNames_blobTable namedBlob, _, decode_blobTable hlabels, by decide⟩
  simp [blobTable]
  decide

end RemoteRead
