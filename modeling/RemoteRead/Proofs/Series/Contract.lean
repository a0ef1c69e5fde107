import RemoteRead.Proofs.Number.Rounding
import RemoteRead.Proofs.Series.BareTag
import RemoteRead.Proofs.Text.Decimal
import RemoteRead.Proofs.Text.Scalar

/-!
# What decoding can fail with

Decoding a table promises two failures: that the metric or the time column is missing, and that a
cell cannot be read as what it should be. No other failure is reported (`raises_decode`), but a
fault can come up instead. A table whose rows fit its columns (`ResultSet.Typed`) leaves two ways
only. A tag of some row is a whole number that is too long to be written out (`IsOverlong`); or a
row of an admitted series has a number beyond the doubles, or a time that has no timestamp of 64
bits (`IsExtreme`), be it too far away or not to be found on the local clock. Such a cell is passed
to a conversion that has no value for it, and never reported as one that cannot be read.

The first part goes through the readings of a row for any kind of error that contains the failures
of cells. It is used twice: for all tables with any fault (`ResultSet.fails_of_decode`), and for
typed tables with the faults of overlong and extreme rows.
-/

namespace RemoteRead

open Outcome Accumulator

/-! ## Overlong and extreme rows -/

/-- A row with a tag that is a whole number too long to be written out. -/
def IsOverlong (layout : Layout) (row : List Cell) : Prop :=
  ∃ i cell, (layout.tagIndex = some i ∨ i ∈ layout.bareIndexes) ∧ row[i]? = some cell ∧
    cell.value.isWritable = false

/-- Some row, be it of an admitted series or not, has an overlong tag. -/
def ResultSet.HasOverlong (result : ResultSet) : Prop :=
  ∃ layout row, Layout.locate result.columns = .ok layout ∧ row ∈ result.rows ∧
    IsOverlong layout row

/-- A whole number beyond the doubles. -/
def Cell.lacksDouble : Cell → Bool
  | int n => !(Binary64.ofInt n).isFinite
  | _ => false

/-- A time whose milliseconds have no form of 64 bits: a number that is too large or none, or a
moment that the local zone has no time for. -/
def Cell.lacksTimestamp [Host] : Cell → Bool
  | int n => !fitsInt64 (1000 * n)
  | float x => !x.isFinite || !fitsInt64 (1000 * x.truncate)
  | moment m =>
    match m.timestamp Host.zone with
    | .ok x => !fitsInt64 (1000 * x.truncate)
    | .error _ => true
  | _ => false

/-- A row whose metric has no double or whose time has no timestamp. -/
def IsExtreme [Host] (layout : Layout) (row : List Cell) : Prop :=
  (∃ cell, row[layout.metricIndex]? = some cell ∧ cell.lacksDouble = true) ∨
    ∃ cell, row[layout.timeIndex]? = some cell ∧ cell.lacksTimestamp = true

/-- A row of an admitted series is extreme. -/
def ResultSet.HasExtreme [Host] (result : ResultSet) (limit : Int) : Prop :=
  ∃ layout before row after keys key,
    Layout.locate result.columns = .ok layout ∧ result.rows = before ++ row :: after ∧
    List.Forall₂ (fun row key => seriesKey row layout = .ok key) before keys ∧
    seriesKey row layout = .ok key ∧ key ∈ admissible limit (keys ++ [key]) ∧
    IsExtreme layout row

/-- The places of a row that a layout asks for. -/
def Layout.Reads (layout : Layout) (i : Nat) : Prop :=
  i = layout.metricIndex ∨ i = layout.timeIndex ∨ layout.tagIndex = some i ∨ i ∈ layout.bareIndexes

/-- A row with a cell that is of no kind that can be read at its place: a tag that is a nullable
float, a metric that is no number or not of the kind of its column, or a time that is none. -/
def IsUnreadable (layout : Layout) (kind : ColumnKind) (row : List Cell) : Prop :=
  (∃ i cell, (layout.tagIndex = some i ∨ i ∈ layout.bareIndexes) ∧ row[i]? = some cell ∧
      cell.columnKind = .nullableFloat) ∨
    (∃ cell, row[layout.metricIndex]? = some cell ∧
      (cell.columnKind ≠ kind ∨ cell.columnKind ∉ [.int, .float, .nullableFloat])) ∨
    ∃ cell, row[layout.timeIndex]? = some cell ∧ cell.columnKind ∉ [.int, .float, .moment]

/-- Some row has a cell that cannot be read at its place. -/
def ResultSet.HasUnreadable (result : ResultSet) : Prop :=
  ∃ layout kind row, Layout.locate result.columns = .ok layout ∧
    result.kinds[layout.metricIndex]? = some kind ∧ row ∈ result.rows ∧
    IsUnreadable layout kind row

/-- Some row, or the list of kinds, has nothing at a place that the layout asks for. -/
def ResultSet.HasGap (result : ResultSet) : Prop :=
  ∃ layout, Layout.locate result.columns = .ok layout ∧
    (result.kinds[layout.metricIndex]? = none ∨
      ∃ row ∈ result.rows, ∃ i, layout.Reads i ∧ row[i]? = none)

/-- A sequence that is too short. -/
def Fault.IsBadIndex : Fault → Prop
  | badIndex _ => True
  | _ => False

/-- A double is finite if it is neither a NaN nor an infinity. -/
theorem Binary64.isFinite_eq (x : Binary64) : x.isFinite = (!x.isNaN && !x.isInfinite) := by
  rw [Bool.eq_iff_iff]
  simp only [isFinite, isNaN, isInfinite, decide_eq_true_eq, Bool.and_eq_true, Bool.not_eq_true',
    decide_eq_false_iff_not, beq_eq_false_iff_ne]
  omega

/-- Texts without an encoded form are no short sequences. -/
theorem not_isBadIndex_checkedText {t : Text} {f : Fault} (h : checkedText t = .error f) :
    ¬ f.IsBadIndex := by
  unfold checkedText at h
  split_ifs at h
  obtain rfl := Except.error.inj h
  exact id

/-- A label is refused for a text without an encoded form. -/
theorem not_isBadIndex_checked {name value : Text} {f : Fault}
    (h : Label.checked name value = .error f) : ¬ f.IsBadIndex := by
  have hraised : Raises (fun f : Fault => ¬ f.IsBadIndex) (Label.checked name value) :=
    Raises.bind (fun _ => not_isBadIndex_checkedText) fun _ _ =>
      Raises.bind (fun _ => not_isBadIndex_checkedText) fun _ _ => .ok _
  exact hraised f h

/-- A tag blob is refused for its form, or for a label. -/
theorem Tag.not_isBadIndex_blobLabels [Host] {blob : Text} {f : Fault}
    (h : blobLabels blob = .error f) : ¬ f.IsBadIndex := by
  have hraised : Raises (fun f : Fault => ¬ f.IsBadIndex) (blobLabels blob) := by
    unfold blobLabels
    split
    · exact .ok _
    · exact .error id
    · exact .error id
    · split
      · exact .ok _
      · exact .mapM fun _ _ _ => not_isBadIndex_checked
  exact hraised f h

/-! ## The readings of a row -/

section Readings

variable {layout : Layout} {kind : ColumnKind} {columns : List Value} {row : List Cell}
  {a : Accumulator} {E : Error → Prop}

/-- A cell is written out as a label, unless it is a nullable float or an overlong number. -/
theorem raises_labelText (c : Cell)
    (hE : c.columnKind = .nullableFloat → ∀ target, E (.failure (c.cannotRead target)))
    (hlong : c.value.isWritable = false → E (.fault Value.overlong)) : Raises E c.labelText := by
  unfold Cell.labelText
  -- Whether the number is short enough is looked at first.
  split_ifs with hwritable
  · cases c with
    | nullableFloat x => exact .error (hE rfl _)
    | _ => exact .ok _
  · exact .error (hlong (by simpa using hwritable))

/-- A cell that is too long to be written out is a whole number beyond the doubles. -/
theorem Cell.lacksDouble_of_overlong {c : Cell} (h : c.value.isWritable = false) :
    c.lacksDouble = true := by
  cases c with
  | int n =>
    have hlength : ¬ (Text.ofNat n.natAbs).length ≤ Number.maxDigits := of_decide_eq_false h
    rw [Text.length_ofNat_le_iff (by decide), not_lt] at hlength
    have hpow : 2 ^ Number.maxDigits ≤ 10 ^ Number.maxDigits := Nat.pow_le_pow_left (by decide) _
    rw [lacksDouble, Binary64.isFinite_ofInt_of_le (by decide) (hpow.trans hlength),
      Bool.not_false]
  | nullableFloat x => cases x <;> cases h
  | _ => cases h

/-- A cell that is read as something else is reported, unless it is overlong. -/
theorem raises_unreadable (c : Cell) (target : Text) (hE : E (.failure (c.cannotRead target)))
    (hlacks : c.lacksDouble = true → E (.fault Value.overlong)) : E (c.unreadable target) := by
  unfold Cell.unreadable
  split_ifs with hwritable
  · exact hE
  · exact hlacks (Cell.lacksDouble_of_overlong (by simpa using hwritable))

/-- A metric cell has a value, unless it is no number or not of the kind, or lacks a double. -/
theorem raises_sampleValue (c : Cell) (kind : ColumnKind)
    (hE : c.columnKind ≠ kind ∨ c.columnKind ∉ [.int, .float, .nullableFloat] →
      ∀ target, E (.failure (c.cannotRead target)))
    (hlacks : c.lacksDouble = true → ∀ f, ¬ f.IsBadIndex → E (.fault f)) :
    Raises E (c.sampleValue (some kind)) := by
  -- The reading once the kind is checked.
  have hread : Raises E (Cell.sampleValue.read c) := by
    cases c with
    | int n =>
      refine .mapError fun f hf => ?_
      unfold Cell.floatOfInt at hf
      dsimp only at hf
      split_ifs at hf with hfinite
      obtain rfl := Except.error.inj hf
      exact hlacks (by simpa [Cell.lacksDouble] using hfinite) _ id
    | float x => exact .ok x
    | nullableFloat x => exact .ok _
    | _ =>
      have hkind := hE (.inr (by simp [Cell.columnKind]))
      exact .error (raises_unreadable _ _ (hkind _) fun h => by cases h)
  -- A cell of another kind is not read.
  unfold Cell.sampleValue
  dsimp only
  split_ifs with hkind
  · exact hread
  · exact .error (raises_unreadable c _ (hE (.inl hkind) _) fun h => hlacks h _ id)

/-- A time cell gives seconds whose milliseconds fit, unless it is no time or lacks a timestamp. -/
theorem raises_timestamp [Host] (c : Cell) (value : Binary64)
    (hE : c.columnKind ∉ [.int, .float, .moment] → ∀ target, E (.failure (c.cannotRead target)))
    (hlacks : c.lacksTimestamp = true → ∀ f, ¬ f.IsBadIndex → E (.fault f)) :
    Raises E (c.seconds >>= fun seconds =>
      (Sample.checked value (seconds * 1000)).mapError Error.fault) := by
  -- Whatever the seconds are, the milliseconds are checked.
  have hchecked (seconds : Int)
      (hseconds : fitsInt64 (1000 * seconds) = false → c.lacksTimestamp = true) :
      Raises E ((Sample.checked value (seconds * 1000)).mapError Error.fault) := by
    refine .mapError fun f hf => ?_
    unfold Sample.checked checkedInt64 at hf
    split_ifs at hf with hfits
    · simp [bind, Except.bind, pure, Except.pure] at hf
    · obtain rfl := Except.error.inj hf
      exact hlacks (hseconds (by rw [Int.mul_comm]; simpa using hfits)) _ id
  cases c with
  -- Whole numbers are seconds as they are.
  | int n => exact hchecked n fun h => by simp [Cell.lacksTimestamp, h]
  -- A double has seconds if it is finite.
  | float x =>
    simp only [Cell.seconds, Cell.intOfFloat]
    split_ifs with hnan hinfinite
    · exact .error (hlacks (by simp [Cell.lacksTimestamp, Binary64.isFinite_eq, hnan]) _ id)
    · exact .error (hlacks (by simp [Cell.lacksTimestamp, Binary64.isFinite_eq, hinfinite]) _ id)
    · exact hchecked x.truncate fun h => by simp [Cell.lacksTimestamp, h]
  -- A moment has seconds if the zone has a time for it.
  | moment m =>
    simp only [Cell.seconds]
    cases hm : m.timestamp Host.zone with
    | ok x => exact hchecked _ fun h => by simp [Cell.lacksTimestamp, hm, h]
    | error e => exact .error (hlacks (by simp [Cell.lacksTimestamp, hm]) _ id)
  | _ => exact .error (raises_unreadable _ _ (hE (by simp [Cell.columnKind]) _) fun h => by cases h)

variable (hE : IsUnreadable layout kind row → ∀ c target, E (.failure (Cell.cannotRead c target)))

include hE

/-- A row has a sample, unless it lacks a cell, cannot be read or is extreme. -/
theorem raises_rowSample [Host] (hmetric : Raises E (cellAt row layout.metricIndex))
    (htime : Raises E (cellAt row layout.timeIndex))
    (hextreme : IsExtreme layout row → ∀ f, ¬ f.IsBadIndex → E (.fault f)) :
    Raises E (rowSample row layout kind) := by
  -- The metric cell comes first, then the time cell.
  refine hmetric.bind fun metric hcell => ?_
  have hat := cellAt_eq_ok_iff.mp hcell
  refine (raises_sampleValue metric kind (fun h => hE (.inr (.inl ⟨metric, hat, h⟩)) metric)
    fun h => hextreme (.inl ⟨metric, hat, h⟩)).bind fun value _ => ?_
  refine htime.bind fun time hcell => ?_
  have hat := cellAt_eq_ok_iff.mp hcell
  exact raises_timestamp time value (fun h => hE (.inr (.inr ⟨time, hat, h⟩)) time)
    fun h => hextreme (.inr ⟨time, hat, h⟩)

variable (hlong : IsOverlong layout row → E (.fault Value.overlong))

include hlong

/-- A cell at the place of a tag is written out, unless it cannot be read or is overlong. -/
theorem raises_tagText {i : Nat} {cell : Cell}
    (hi : layout.tagIndex = some i ∨ i ∈ layout.bareIndexes) (hat : cellAt row i = .ok cell) :
    Raises E cell.labelText := by
  have hcell := cellAt_eq_ok_iff.mp hat
  exact raises_labelText cell (fun h => hE (.inl ⟨i, cell, hi, hcell, h⟩) cell)
    fun h => hlong ⟨i, cell, hi, hcell, h⟩

/-- A row has its tags, unless it lacks a cell, cannot be read or is overlong. -/
theorem raises_presentTags {indexes : List Nat} (hsub : ∀ i ∈ indexes, i ∈ layout.bareIndexes)
    (hcells : ∀ i ∈ indexes, Raises E (cellAt row i)) : Raises E (presentTags row indexes) := by
  induction indexes with
  | nil => exact .ok []
  | cons i indexes ih =>
    obtain ⟨hcell, hrest⟩ := List.forall_mem_cons.mp hcells
    obtain ⟨hi, hsub⟩ := List.forall_mem_cons.mp hsub
    refine hcell.bind fun cell hat => ?_
    split_ifs
    · exact ih hsub hrest
    · exact (raises_tagText hE hlong (.inr hi) hat).bind fun _ _ =>
        (ih hsub hrest).bind fun _ _ => .ok _

/-- A row has a key, unless it lacks a cell, cannot be read or is overlong. -/
theorem raises_seriesKey
    (hcells : ∀ i, layout.tagIndex = some i ∨ i ∈ layout.bareIndexes → Raises E (cellAt row i)) :
    Raises E (seriesKey row layout) := by
  unfold seriesKey
  split
  · rename_i i htag
    exact (hcells i (.inl htag)).bind fun cell hat => raises_tagText hE hlong (.inl htag) hat
  · have htags := raises_presentTags hE hlong (fun _ hi => hi) fun i hi => hcells i (.inr hi)
    exact htags.bind fun _ _ => .ok _

/-- A row has the labels of its bare tags, unless it lacks a cell, cannot be read or is overlong, or
a label has no encoded form. -/
theorem raises_bareLabels (hfault : ∀ f, ¬ f.IsBadIndex → E (.fault f)) {indexes : List Nat}
    (hsub : ∀ i ∈ indexes, i ∈ layout.bareIndexes)
    (hcells : ∀ i ∈ indexes, Raises E (cellAt row i))
    (htexts : ∀ i ∈ indexes, ∃ name, columns[i]? = some (.text name)) :
    Raises E (bareLabels row columns indexes) := by
  induction indexes with
  | nil => exact .ok []
  | cons i indexes ih =>
    obtain ⟨hcell, hcells⟩ := List.forall_mem_cons.mp hcells
    obtain ⟨hi, hsub⟩ := List.forall_mem_cons.mp hsub
    obtain ⟨⟨name, hname⟩, htexts⟩ := List.forall_mem_cons.mp htexts
    have hrest := ih hsub hcells htexts
    refine hcell.bind fun cell hat => ?_
    split_ifs
    · exact hrest
    · have hlabel := raises_tagText hE hlong (.inr hi) hat
      refine hlabel.bind fun value _ => Raises.bind ?_ fun _ _ => hrest.bind fun _ _ => .ok _
      rw [tagLabel, hname]
      exact .mapError fun f hf => hfault f (not_isBadIndex_checked hf)

/-- A row has labels, unless it lacks a cell, cannot be read or is overlong, or a label has no
encoded form. -/
theorem raises_seriesLabels [Host] (hfault : ∀ f, ¬ f.IsBadIndex → E (.fault f)) (key : Text)
    (hcells : ∀ i ∈ layout.bareIndexes, Raises E (cellAt row i))
    (htexts : ∀ i ∈ layout.bareIndexes, ∃ name, columns[i]? = some (.text name)) :
    Raises E (seriesLabels row layout columns key) := by
  refine Raises.bind (.mapError fun f hf => hfault f (not_isBadIndex_checked hf)) fun name _ => ?_
  split
  · -- The labels of the blob, or those of the bare tags.
    refine Raises.bind ?_ fun _ _ => .ok _
    exact .mapError fun f hf => hfault f (Tag.not_isBadIndex_blobLabels hf)
  · have htags := raises_bareLabels hE hlong hfault (fun _ hi => hi) hcells htexts
    exact htags.bind fun _ _ => .ok _

/-- A row is added, unless it lacks a cell or a label, cannot be read, is overlong, or is extreme;
this last only if its key is admitted. -/
theorem raises_addRow [Host] (hcells : ∀ i, layout.Reads i → Raises E (cellAt row i))
    (hlabels : ∀ key, seriesKey row layout = .ok key →
      Raises E (seriesLabels row layout columns key))
    (hextreme : ∀ key, seriesKey row layout = .ok key → key ∈ (a.offer key).1.keys →
      IsExtreme layout row → ∀ f, ¬ f.IsBadIndex → E (.fault f)) :
    Raises E (addRow layout kind columns a row) := by
  have hkeyRaises := raises_seriesKey hE hlong fun i hi => hcells i (.inr (.inr hi))
  refine hkeyRaises.bind fun key hkey => ?_
  have hsample (hmem : key ∈ (a.offer key).1.keys) : Raises E (rowSample row layout kind) :=
    raises_rowSample hE (hcells _ (.inl rfl)) (hcells _ (.inr (.inl rfl))) (hextreme key hkey hmem)
  -- A row whose key is refused is dropped before its sample is read.
  obtain ⟨hmem, hoffer⟩ | ⟨-, -, hoffer⟩ | ⟨-, -, hoffer⟩ := a.offer_cases key
  · rw [hoffer] at hsample ⊢
    exact (hsample hmem).bind fun _ _ => .ok _
  · rw [hoffer]
    exact .ok _
  · rw [hoffer] at hsample ⊢
    exact (hlabels key hkey).bind fun _ _ =>
      (hsample (by simp [Accumulator.keys])).bind fun _ _ => .ok _

end Readings

variable {layout : Layout} {columns : List Value} {row : List Cell} {key : Text}
  {result : ResultSet} {limit : Int}

/-! ## The failures that are reported -/

/-- The failures that decoding promises: a missing column, and a cell that cannot be read. -/
def Failure.OfDecoding : Failure → Prop
  | missingColumn _ _ _ => True
  | cellCoercion _ _ _ => True
  | _ => False

/-- An error that is no other failure than those of decoding. -/
def Error.OfDecoding : Error → Prop
  | failure f => f.OfDecoding
  | fault _ => True

/-- A place of a row that the layout asks for is a place of a column. -/
theorem Layout.Reads.lt_length {columns : List Value} {i : Nat} (h : layout.Reads i)
    (hlayout : Layout.locate columns = .ok layout) : i < columns.length := by
  obtain ⟨column, hcolumn, -⟩ := Layout.locate_metric hlayout
  rcases h with rfl | rfl | htag | hbare
  · exact (List.getElem?_eq_some_iff.mp hcolumn).1
  · exact Layout.locate_time hlayout
  · exact Layout.lt_of_tagIndex hlayout htag
  · exact Layout.lt_of_mem_bareIndexes hlayout hbare

/-- The ways in which decoding a table goes wrong. -/
inductive ResultSet.Fails (result : ResultSet) : Error → Prop where
  /-- The metric or the time column is missing. -/
  | missing (metric time names : Value) :
      result.Fails (.failure (.missingColumn metric time names))
  /-- A cell cannot be read as what it should be. -/
  | unreadable (h : result.HasUnreadable) (c : Cell) (target : Text) :
      result.Fails (.failure (c.cannotRead target))
  /-- A row or the list of kinds is too short. -/
  | gap (h : result.HasGap) (message : Text) : result.Fails (.fault (.badIndex message))
  /-- A name is no text, or a number, a time or a label is out of range or too long. -/
  | fault {f : Fault} (h : ¬ f.IsBadIndex) : result.Fails (.fault f)

/-- Decoding goes wrong in these ways only. -/
theorem ResultSet.fails_of_decode [Host] (result : ResultSet) (limit : Int) :
    Raises result.Fails (result.decode limit) := by
  refine Raises.bind (fun e h => ?_) fun layout hlayout => ?_
  · -- Without a layout a column is missing, or a name is no text.
    rcases Layout.error_of_locate h with ⟨metric, time, names, rfl⟩ | ⟨message, rfl⟩
    · exact .missing metric time names
    · exact .fault id
  split
  · rename_i hkind
    exact .error (.gap ⟨layout, hlayout, .inl hkind⟩ _)
  · rename_i kind hkind
    refine Raises.bind (fun e h => ?_) fun _ _ => .ok _
    -- The error is that of one row.
    obtain ⟨before, row, after, a, hrows, -, hadd⟩ := exists_of_foldlM_error h
    have hrow : row ∈ result.rows := by rw [hrows]; simp
    have hcells : ∀ i, layout.Reads i → Raises result.Fails (cellAt row i) := by
      intro i hi
      unfold cellAt
      split
      · exact .ok _
      · rename_i hgap
        exact .error (.gap ⟨layout, hlayout, .inr ⟨row, hrow, i, hi, hgap⟩⟩ _)
    have hbad : IsUnreadable layout kind row → ∀ c target,
        result.Fails (.failure (Cell.cannotRead c target)) :=
      fun h => .unreadable ⟨layout, kind, row, hlayout, hkind, hrow, h⟩
    have hlong : IsOverlong layout row → result.Fails (.fault Value.overlong) := fun _ => .fault id
    refine raises_addRow hbad hlong hcells (fun key _ => ?_) (fun _ _ _ _ _ => .fault) e hadd
    exact raises_seriesLabels hbad hlong (fun _ => .fault) key
      (fun i hi => hcells i (.inr (.inr (.inr hi))))
      fun i hi => Layout.locate_text hlayout (Layout.lt_of_mem_bareIndexes hlayout hi)

/-- Decoding reports no other failure than those that it promises. -/
theorem raises_decode [Host] (result : ResultSet) (limit : Int) :
    Raises Error.OfDecoding (result.decode limit) := by
  intro e herror
  cases result.fails_of_decode limit e herror <;> trivial

/-! ## Overlong rows have no key, and extreme rows no sample -/

/-- An absent tag is not overlong. -/
theorem Cell.isWritable_of_isNil {c : Cell} (h : c.isNil = true) : c.value.isWritable = true := by
  cases c with
  | int n =>
    obtain rfl : n = 0 := by simpa [isNil] using h
    decide
  | text t => rfl
  | _ => cases h

/-- Where the tags of a row are read, none of them is overlong. -/
theorem isWritable_of_presentTags {indexes : List Nat} {tags : List (Nat × Text)}
    (h : presentTags row indexes = .ok tags) :
    ∀ i ∈ indexes, ∀ cell, row[i]? = some cell → cell.value.isWritable = true := by
  induction indexes generalizing tags with
  | nil => simp
  | cons i indexes ih =>
    obtain ⟨cell, hcell, ⟨hnil, hrest⟩ | ⟨-, value, rest, hvalue, hrest, -⟩⟩ :=
      presentTags_cons_eq_ok_iff.mp h
    all_goals refine List.forall_mem_cons.mpr ⟨fun cell' hcell' => ?_, ih hrest⟩
    · obtain rfl := Option.some.inj (hcell.symm.trans hcell')
      exact Cell.isWritable_of_isNil hnil
    · obtain rfl := Option.some.inj (hcell.symm.trans hcell')
      exact (Cell.labelText_eq_ok_iff.mp hvalue).1

/-- A table with an overlong row is not decoded: the keys of all rows are read. -/
theorem ResultSet.HasOverlong.not_ok [Host] (h : result.HasOverlong)
    (htag : Value.text tagColumn ∉ result.columns) (response : ReadResponse) :
    result.decode limit ≠ .ok response := by
  intro hdecode
  obtain ⟨layout, row, hlayout, hrow, i, cell, hi, hcell, hlong⟩ := h
  obtain ⟨layout', kind, keys, series, hlayout', -, hread, -, -⟩ := IsGrouping.of_decode hdecode
  obtain rfl := Except.ok.inj (hlayout.symm.trans hlayout')
  have hnone : layout.tagIndex = none := Layout.locate_tagIndex hlayout htag
  have hbare : i ∈ layout.bareIndexes := hi.resolve_left (by simp [hnone])
  -- The key of the row was read, and so were its tags.
  obtain ⟨key, -, hkey⟩ := exists_of_mem_left hread hrow
  obtain ⟨tags, htags, -⟩ := (seriesKey_bare hnone).mp hkey
  rw [isWritable_of_presentTags htags i hbare cell hcell] at hlong
  cases hlong

/-- A cell with a value as a sample has a double. -/
theorem Cell.lacksDouble_of_sampleValue {c : Cell} {kind : ColumnKind} {x : Binary64}
    (h : c.sampleValue (some kind) = .ok x) : c.lacksDouble = false := by
  cases c with
  | int n =>
    unfold sampleValue at h
    dsimp only at h
    split_ifs at h
    rw [sampleValue.read, mapError_eq_ok_iff] at h
    unfold floatOfInt at h
    dsimp only at h
    split_ifs at h with hfinite
    rw [lacksDouble, hfinite, Bool.not_true]
  | _ => rfl

/-- A cell with seconds whose milliseconds fit has a timestamp. -/
theorem Cell.lacksTimestamp_of_seconds [Host] {c : Cell} {seconds : Int}
    (h : c.seconds = .ok seconds) (hfits : fitsInt64 (1000 * seconds) = true) :
    c.lacksTimestamp = false := by
  cases c with
  | int n =>
    obtain rfl := Except.ok.inj h
    rw [lacksTimestamp, hfits, Bool.not_true]
  -- A double with seconds is finite.
  | float x =>
    rw [Cell.seconds, mapError_eq_ok_iff] at h
    unfold intOfFloat at h
    split_ifs at h with hnan hinfinite
    obtain rfl := Except.ok.inj h
    simp [lacksTimestamp, Binary64.isFinite_eq, hnan, hinfinite, hfits]
  | moment m =>
    simp only [Cell.seconds] at h
    cases hm : m.timestamp Host.zone with
    | ok x =>
      rw [hm] at h
      obtain rfl := Except.ok.inj h
      simp [lacksTimestamp, hm, hfits]
    | error e =>
      rw [hm] at h
      cases h
  | _ => rfl

/-- A sample is contributed by no extreme row. -/
theorem SampleOf.not_extreme [Host] {kind : ColumnKind} {sample : Sample}
    (h : SampleOf layout kind row sample) : ¬ IsExtreme layout row := by
  rintro (⟨cell, hcell, hlacks⟩ | ⟨cell, hcell, hlacks⟩)
  · -- The metric cell had a value.
    obtain ⟨cell', hcell', hvalue⟩ := h.value
    obtain rfl := Option.some.inj (hcell.symm.trans hcell')
    rw [Cell.lacksDouble_of_sampleValue hvalue] at hlacks
    cases hlacks
  · -- The time cell had seconds whose milliseconds fit.
    obtain ⟨cell', seconds, hcell', hseconds, htime⟩ := h.timestamp
    obtain rfl := Option.some.inj (hcell.symm.trans hcell')
    rw [Cell.lacksTimestamp_of_seconds hseconds (htime ▸ h.fits)] at hlacks
    cases hlacks

/-- A table with an extreme row among those of an admitted series is not decoded. -/
theorem ResultSet.HasExtreme.not_ok [Host] {result : ResultSet} {limit : Int}
    (h : result.HasExtreme limit) (response : ReadResponse) :
    result.decode limit ≠ .ok response := by
  intro hdecode
  obtain ⟨layout, before, row, after, keys, key, hlayout, hrows, hread, hkey, hmem, hextreme⟩ := h
  obtain ⟨layout', kind, keys', series, hlayout', -, hread', hseries, -⟩ :=
    IsGrouping.of_decode hdecode
  obtain rfl := Except.ok.inj (hlayout.symm.trans hlayout')
  rw [hrows] at hread'
  obtain ⟨more, rfl⟩ := exists_keys_append hread hkey hread'
  -- A key that is admitted stays so, and its series has a sample for each of its rows.
  have hbeginning := admissible_prefix limit (keys ++ [key]) more
  have hadmitted : key ∈ admissible limit (keys ++ [key] ++ more) := hbeginning.subset hmem
  obtain ⟨s, -, hs⟩ := exists_of_mem_left hseries hadmitted
  obtain ⟨sample, hsample⟩ := hs.exists_sample (by rw [hrows]; simp) hkey
  exact hsample.not_extreme hextreme

/-! ## Tables whose rows fit their columns -/

/-- A table with a cell for every column in every row, each of the kind of its column. -/
structure ResultSet.Rectangular (result : ResultSet) : Prop where
  /-- Every column has a kind. -/
  kinds : result.kinds.length = result.columns.length
  /-- The cells of a row are of the kinds of the columns. -/
  rows : ∀ row ∈ result.rows, row.map Cell.columnKind = result.kinds

/-- A row is as long as the list of columns. -/
theorem ResultSet.Rectangular.length_row (h : result.Rectangular) (hrow : row ∈ result.rows) :
    row.length = result.columns.length := by
  rw [← h.kinds, ← h.rows row hrow, List.length_map]

/-- A cell is of the kind of its column. -/
theorem ResultSet.Rectangular.kind_of_cell (h : result.Rectangular) (hrow : row ∈ result.rows)
    {i : Nat} {cell : Cell} (hcell : row[i]? = some cell) :
    result.kinds[i]? = some cell.columnKind := by
  rw [← h.rows row hrow, List.getElem?_map, hcell, Option.map_some]

/-- Every cell that a layout asks for is there. -/
theorem ResultSet.Rectangular.lt_length (h : result.Rectangular)
    (hlayout : Layout.locate result.columns = .ok layout) (hrow : row ∈ result.rows) {i : Nat}
    (hi : layout.Reads i) : i < row.length := by
  rw [h.length_row hrow]
  exact hi.lt_length hlayout

/-- A table with a cell of the right kind in every column of every row, whose texts all have encoded
forms. -/
structure ResultSet.Typed (result : ResultSet) : Prop extends result.Rectangular where
  /-- The columns are named by texts without surrogates. -/
  names : ∀ v ∈ result.columns, ∃ name, v = .text name ∧ name.all CodePoint.isScalar = true
  /-- Cells hold texts without surrogates. -/
  texts : ∀ row ∈ result.rows, ∀ t, Cell.text t ∈ row → t.all CodePoint.isScalar = true

/-- A typed row that has a key has labels. -/
theorem ResultSet.Typed.exists_seriesLabels [Host] (h : result.Typed) (hrow : row ∈ result.rows)
    (hlayout : Layout.locate result.columns = .ok layout) (htag : layout.tagIndex = none)
    (hkey : seriesKey row layout = .ok key) :
    ∃ labels, seriesLabels row layout result.columns key = .ok labels := by
  have hscalar : ∀ {i : Nat} {column : Text}, result.columns[i]? = some (.text column) →
      column.all CodePoint.isScalar = true := by
    intro i column hcolumn
    obtain ⟨name, hname, hscalar⟩ := h.names _ (List.mem_of_getElem? hcolumn)
    rwa [Value.text.inj hname]
  -- The name of the metric is part of the name of its column.
  have hmetric : layout.metricName.all CodePoint.isScalar = true := by
    obtain ⟨column, hcolumn, hname⟩ := Layout.locate_metric hlayout
    rw [hname, List.all_eq_true]
    exact fun c hc => List.all_eq_true.mp (hscalar hcolumn) c (List.mem_of_mem_drop hc)
  obtain ⟨tags, htags, -⟩ := (seriesKey_bare htag).mp hkey
  -- A tag has the label name of its column and the value of its cell.
  have hlabel : ∀ tag ∈ tags, ∃ label, tagLabel result.columns tag = .ok label := by
    intro tag ht
    have hi := fst_mem_of_mem_presentTags htags tag ht
    obtain ⟨column, hcolumn⟩ := Layout.locate_text hlayout (Layout.lt_of_mem_bareIndexes hlayout hi)
    obtain ⟨cell, hcell, hvalue⟩ := exists_label_of_mem_presentTags htags tag ht
    have hvalueScalar := Cell.isScalar_of_labelText hvalue fun t ht =>
      h.texts row hrow t (List.mem_of_getElem? (ht ▸ hcell))
    exact ⟨_, tagLabel_eq_ok_iff.mpr
      ⟨column, hcolumn, Tag.isScalar_labelName (hscalar hcolumn), hvalueScalar, rfl⟩⟩
  obtain ⟨rest, hrest⟩ := exists_forall₂ hlabel
  exact ⟨_, (seriesLabels_bare htag).mpr ⟨hmetric, tags, rest, htags, hrest, rfl⟩⟩

/-- Adding a typed row goes wrong only if the row cannot be read or is overlong, or if it is extreme
and its key is admitted. -/
theorem ResultSet.Typed.raises_addRow [Host] {kind : ColumnKind} {a : Accumulator}
    {E : Error → Prop} (h : result.Typed) (hrow : row ∈ result.rows)
    (hlayout : Layout.locate result.columns = .ok layout) (htag : layout.tagIndex = none)
    (hE : IsUnreadable layout kind row → ∀ c target, E (.failure (Cell.cannotRead c target)))
    (hlong : IsOverlong layout row → E (.fault Value.overlong))
    (hextreme : ∀ key, seriesKey row layout = .ok key → key ∈ (a.offer key).1.keys →
      IsExtreme layout row → ∀ f, ¬ f.IsBadIndex → E (.fault f)) :
    Raises E (addRow layout kind result.columns a row) := by
  refine RemoteRead.raises_addRow hE hlong (fun i hi => ?_) (fun key hkey => ?_) hextreme
  · -- Every column has a cell in the row.
    have hlt := h.toRectangular.lt_length hlayout hrow hi
    rw [cellAt_eq_ok_iff.mpr (List.getElem?_eq_getElem hlt)]
    exact .ok _
  · obtain ⟨labels, hlabels⟩ := h.exists_seriesLabels hrow hlayout htag hkey
    rw [hlabels]
    exact .ok _

/-- Adding rows one after the other goes wrong at one of them, while the accumulator groups those
before it. -/
theorem exists_groups_of_error [Host] {kind : ColumnKind} {rows : List (List Cell)} {e : Error}
    (h : rows.foldlM (addRow layout kind columns) (Accumulator.empty limit) = .error e) :
    ∃ before row after keys a, rows = before ++ row :: after ∧
      Groups limit layout kind columns before keys a ∧
      addRow layout kind columns a row = .error e := by
  obtain ⟨before, row, after, a, hrows, hbefore, hadd⟩ := exists_of_foldlM_error h
  obtain ⟨keys, hgroups⟩ := (Groups.empty limit layout kind columns).foldlM before hbefore
  exact ⟨before, row, after, keys, a, hrows, hgroups, hadd⟩

/-- A key that is known or admitted after the rows so far is an admissible one. -/
theorem Groups.mem_admissible [Host] {kind : ColumnKind} {rows : List (List Cell)}
    {keys : List Text} {a : Accumulator} (h : Groups limit layout kind columns rows keys a)
    (hmem : key ∈ (a.offer key).1.keys) : key ∈ admissible limit (keys ++ [key]) := by
  rw [keys_offer a keys key (h.capped ▸ h.keys), h.capped] at hmem
  exact hmem

/-- Where decoding a typed table without a blob goes wrong: a column is missing, a row cannot be
read and is reported, or a row is overlong, or extreme and of an admitted series, and a fault comes
up. -/
theorem ResultSet.Typed.decode_error [Host] (h : result.Typed)
    (htag : Value.text tagColumn ∉ result.columns) {e : Error}
    (herror : result.decode limit = .error e) :
    (Layout.locate result.columns = .error e ∧
        ∃ metric time names, e = .failure (.missingColumn metric time names)) ∨
      (result.HasUnreadable ∧ ∃ c target, e = .failure (Cell.cannotRead c target)) ∨
      ((result.HasOverlong ∨ result.HasExtreme limit) ∧ ∃ f, e = .fault f) := by
  unfold ResultSet.decode at herror
  rcases Layout.locate_of_text fun v hv => (h.names v hv).imp fun _ hname => hname.1 with
    ⟨layout, hlayout⟩ | ⟨metric, time, names, hmissing⟩
  · right
    rw [hlayout] at herror
    obtain ⟨column, hcolumn, -⟩ := Layout.locate_metric hlayout
    have hmetric : layout.metricIndex < result.kinds.length :=
      h.kinds ▸ (List.getElem?_eq_some_iff.mp hcolumn).1
    have hkind := List.getElem?_eq_getElem hmetric
    simp only [bind, Except.bind, hkind] at herror
    split at herror
    · rename_i e' hfold
      obtain rfl := Except.error.inj herror
      -- The error is that of one row, behind rows that were grouped without any.
      obtain ⟨before, row, after, keys, a, hrows, hgroups, hadd⟩ := exists_groups_of_error hfold
      have hrow : row ∈ result.rows := by rw [hrows]; simp
      have hraised : Raises (fun e =>
          (result.HasUnreadable ∧ ∃ c target, e = .failure (Cell.cannotRead c target)) ∨
            ((result.HasOverlong ∨ result.HasExtreme limit) ∧ ∃ f, e = .fault f))
          (addRow layout result.kinds[layout.metricIndex] result.columns a row) := by
        refine h.raises_addRow hrow hlayout (Layout.locate_tagIndex hlayout htag) ?_ ?_ ?_
        · exact fun hbad c target =>
            .inl ⟨⟨layout, _, row, hlayout, hkind, hrow, hbad⟩, c, target, rfl⟩
        · exact fun hlong => .inr ⟨.inl ⟨layout, row, hlayout, hrow, hlong⟩, _, rfl⟩
        · exact fun key hkey hmem hextreme f _ =>
            .inr ⟨.inr ⟨layout, before, row, after, keys, key, hlayout, hrows, hgroups.read, hkey,
              hgroups.mem_admissible hmem, hextreme⟩, f, rfl⟩
      exact hraised _ hadd
    · cases herror
  · left
    rw [hmissing] at herror
    obtain rfl := Except.error.inj herror
    exact ⟨hmissing, metric, time, names, rfl⟩

/-! ## The contract -/

/-- What decoding promises: a response whose times all have 64 bits, or one of its two failures. -/
def KeepsContract (outcome : Except Error ReadResponse) : Prop :=
  (∃ response, outcome = .ok response ∧ ∀ answer ∈ response.results,
      ∀ series ∈ answer.timeseries, ∀ sample ∈ series.samples,
        fitsInt64 sample.timestamp = true) ∨
    (∃ metric time names, outcome = .error (.failure (.missingColumn metric time names))) ∨
    ∃ kind shown target, outcome = .error (.failure (.cellCoercion kind shown target))

/-- The times of a decoded response have 64 bits. -/
theorem fits_of_decode [Host] {response : ReadResponse} (h : result.decode limit = .ok response) :
    ∀ answer ∈ response.results, ∀ series ∈ answer.timeseries, ∀ sample ∈ series.samples,
      fitsInt64 sample.timestamp = true := by
  obtain ⟨layout, kind, keys, series, -, -, -, hseries, rfl⟩ := IsGrouping.of_decode h
  intro answer hanswer s hs sample hsample
  obtain rfl := List.mem_singleton.mp hanswer
  obtain ⟨key, -, hof⟩ := exists_of_mem_right hseries hs
  obtain ⟨row, -, hrow⟩ := exists_of_mem_right hof.samples hsample
  exact hrow.fits

/-- Decoding a typed table without a blob keeps the contract unless a row is overlong, or a row of
an admitted series is extreme. Then there is no response, and no failure tells of that cell: where
all cells can be read, a fault comes up. -/
theorem decode_keeps_contract_unless_extreme [Host] (result : ResultSet) (limit : Int)
    (htyped : result.Typed) (htag : Value.text tagColumn ∉ result.columns) :
    (¬ result.HasOverlong → ¬ result.HasExtreme limit → KeepsContract (result.decode limit)) ∧
    (result.HasOverlong ∨ result.HasExtreme limit →
      (∀ response, result.decode limit ≠ .ok response) ∧
      (¬ result.HasUnreadable → ∃ f, result.decode limit = .error (.fault f))) := by
  constructor
  · intro hlong hextreme
    -- An error of such a table is one of the two failures.
    cases hdecode : result.decode limit with
    | ok response => exact .inl ⟨response, rfl, fits_of_decode hdecode⟩
    | error e =>
      rcases htyped.decode_error htag hdecode with ⟨-, metric, time, names, rfl⟩ |
        ⟨-, c, target, rfl⟩ | ⟨hfault, -⟩
      · exact .inr (.inl ⟨metric, time, names, rfl⟩)
      · exact .inr (.inr ⟨_, _, _, rfl⟩)
      · exact absurd hfault (not_or.mpr ⟨hlong, hextreme⟩)
  · intro hbeyond
    have hfails (response : ReadResponse) : result.decode limit ≠ .ok response :=
      hbeyond.elim (fun h => h.not_ok htag response) fun h => h.not_ok response
    -- What is left is the fault.
    refine ⟨hfails, fun hreadable => ?_⟩
    cases hdecode : result.decode limit with
    | ok response => exact absurd hdecode (hfails response)
    | error e =>
      rcases htyped.decode_error htag hdecode with ⟨hmissing, -⟩ | ⟨hunreadable, -⟩ | ⟨-, f, rfl⟩
      · -- A table with such a row has its columns.
        obtain ⟨layout, hlayout⟩ : ∃ layout, Layout.locate result.columns = .ok layout :=
          hbeyond.elim (fun h => h.imp fun _ ⟨_, h, _⟩ => h)
            fun h => h.imp fun _ ⟨_, _, _, _, _, h, _⟩ => h
        cases hmissing.symm.trans hlayout
      · exact absurd hunreadable hreadable
      · exact ⟨f, rfl⟩

/-- A table whose second row comes one second after the last one of 64 bits. -/
def lateTable : ResultSet where
  columns := [.text timeColumn, .text "metrics.load", .text "pod"]
  kinds := [.int, .int, .text]
  rows := [
    [.int 1, .int 5, .text "x"],
    [.int 9223372036854776, .int 7, .text "y"]]
  query := []

/-- The rows of the table fit its columns. -/
theorem typed_lateTable : lateTable.Typed := by
  refine ⟨⟨rfl, ?_⟩, ?_, ?_⟩
  · simp [lateTable, Cell.columnKind]
  · simp only [lateTable, List.forall_mem_cons]
    exact ⟨⟨_, rfl, by decide⟩, ⟨_, rfl, by decide⟩, ⟨_, rfl, by decide⟩, by simp⟩
  · simp [lateTable, or_imp, forall_and]
    decide

-- From here on the host is a concrete one.
attribute [local instance] Host.utc

/-- The second row is extreme, and it is the first of an admitted series. -/
theorem hasExtreme_lateTable : lateTable.HasExtreme 10 := by
  refine ⟨⟨"load", 1, 0, none, [2]⟩, [[.int 1, .int 5, .text "x"]], _, [],
    [Text.ofString "2-x"], Text.ofString "2-y", rfl, rfl, .cons rfl .nil, rfl, by decide, ?_⟩
  exact .inr ⟨_, rfl, rfl⟩

/-- Every cell of the table is of a kind that can be read. -/
theorem not_hasUnreadable_lateTable : ¬ lateTable.HasUnreadable := by
  rintro ⟨layout, kind, row, hlayout, hkind, hrow, hbad⟩
  obtain rfl : layout = ⟨"load", 1, 0, none, [2]⟩ := (Except.ok.inj hlayout).symm
  obtain rfl : kind = .int := (Option.some.inj hkind).symm
  simp only [lateTable, List.mem_cons, List.not_mem_nil, or_false] at hrow
  rcases hrow with rfl | rfl <;> simp [IsUnreadable, Cell.columnKind] at hbad

/-- The late row comes to a fault. -/
theorem decode_lateTable_faults :
    lateTable.Typed ∧ Value.text tagColumn ∉ lateTable.columns ∧ lateTable.HasExtreme 10 ∧
      ¬ lateTable.HasUnreadable ∧ ∃ f, lateTable.decode 10 = .error (.fault f) := by
  have htag : Value.text tagColumn ∉ lateTable.columns := by
    simp [lateTable]
    decide
  have h := decode_keeps_contract_unless_extreme lateTable 10 typed_lateTable htag
  exact ⟨typed_lateTable, htag, hasExtreme_lateTable, not_hasUnreadable_lateTable,
    (h.2 (.inr hasExtreme_lateTable)).2 not_hasUnreadable_lateTable⟩

/-- A table whose time is a NaN. -/
def nanTable : ResultSet where
  columns := [.text timeColumn, .text "metrics.load"]
  kinds := [.float, .int]
  rows := [[.float Binary64.nan, .int 5]]
  query := []

/-- The table fits its columns, but decoding it gives neither a response nor one of the promised
failures: the NaN is not reported as a cell without a timestamp. -/
theorem contract_broken_by_nan :
    nanTable.Typed ∧ Value.text tagColumn ∉ nanTable.columns ∧
      ¬ KeepsContract (nanTable.decode 10) := by
  refine ⟨⟨⟨rfl, ?_⟩, ?_, ?_⟩, ?_, ?_⟩
  · simp [nanTable, Cell.columnKind]
  · simp only [nanTable, List.forall_mem_cons]
    exact ⟨⟨_, rfl, by decide⟩, ⟨_, rfl, by decide⟩, by simp⟩
  · simp [nanTable]
  · simp [nanTable]
    decide
  · have hfault : nanTable.decode 10 =
        .error (.fault (.badValue "cannot convert float NaN to integer")) := rfl
    rw [hfault]
    rintro (⟨response, hok, -⟩ | ⟨_, _, _, hmissing⟩ | ⟨_, _, _, hcoercion⟩)
    · cases hok
    · cases hmissing
    · cases hcoercion

end RemoteRead
