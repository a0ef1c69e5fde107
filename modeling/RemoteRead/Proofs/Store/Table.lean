import RemoteRead.Proofs.Series.Contract
import RemoteRead.Store

/-!
# What a table of the store holds

A document of the store is accepted as a table only if it fits its own description: every column has
a name and a type, and every row has a value for each column that makes a cell of the column's kind
(`Store.table_eq_ok_iff`). So the table is rectangular, and the kind of a cell is known from its
place alone.

The decoder finds its columns by name and asks for cells of certain kinds there. On a rectangular
table every cell that it asks for exists, and is of a kind that it can read as soon as the types of
the columns are (`accepted_table_is_readable`).
-/

namespace RemoteRead

open Outcome

/-- The cell made of a value is of the kind that it is made for. -/
theorem Cell.columnKind_of_make {v : Value} {kind : ColumnKind} {c : Cell}
    (h : make v kind = .ok c) : c.columnKind = kind := by
  cases kind with
  | int =>
    obtain ⟨n, -, rfl⟩ := map_eq_ok_iff.mp h
    rfl
  | moment =>
    obtain ⟨m, -, rfl⟩ := map_eq_ok_iff.mp h
    rfl
  | text =>
    obtain ⟨t, -, rfl⟩ := map_eq_ok_iff.mp h
    rfl
  -- A missing value is kept as the empty cell of its column.
  | float =>
    simp only [make] at h
    split at h
    · obtain rfl := Except.ok.inj h
      rfl
    · obtain ⟨x, -, rfl⟩ := map_eq_ok_iff.mp h
      rfl
  | nullableFloat =>
    simp only [make] at h
    split at h
    · obtain rfl := Except.ok.inj h
      rfl
    · obtain ⟨x, -, rfl⟩ := map_eq_ok_iff.mp h
      rfl

namespace Store

variable {statement : Text} {kinds : List ColumnKind} {v document : Value} {cells : List Cell}
  {result : ResultSet}

/-! ## Accepted documents -/

/-- A value is taken as a cell if one can be made of it. -/
theorem cell_eq_ok_iff {kind : ColumnKind} {c : Cell} :
    cell statement v kind = .ok c ↔ Cell.make v kind = .ok c := by
  unfold cell
  split <;> simp_all

/-- A row is taken if it has a value for every column and each makes a cell. -/
theorem row_eq_ok_iff :
    row statement kinds v = .ok cells ↔ ∃ values, v.items? = some values ∧
      values.length = kinds.length ∧
      List.Forall₂ (fun (p : Value × ColumnKind) c => Cell.make p.1 p.2 = .ok c)
        (values.zip kinds) cells := by
  unfold row
  split
  · rename_i hitems
    simp [hitems]
  · rename_i values hitems
    split_ifs with hlength
    · simp [hitems, hlength, mapM_eq_ok_iff, cell_eq_ok_iff]
    · simp [hitems, hlength]

/-- The cells of a row are of the kinds of the columns. -/
theorem columnKinds_of_row (h : row statement kinds v = .ok cells) :
    cells.map Cell.columnKind = kinds := by
  obtain ⟨values, -, hlength, hcells⟩ := row_eq_ok_iff.mp h
  have hkinds : List.Forall₂ Eq (cells.map Cell.columnKind) ((values.zip kinds).map Prod.snd) := by
    rw [List.forall₂_map_left_iff, List.forall₂_map_right_iff]
    exact hcells.flip.imp fun _ _ => Cell.columnKind_of_make
  rw [List.forall₂_eq_eq_eq] at hkinds
  rw [hkinds, List.map_snd_zip (Nat.le_of_eq hlength.symm)]

/-- The part of a document under a key, empty if it is absent. -/
def partOf (es : List (Value × Value)) (key : Text) : Except Fault (List Value) :=
  itemsOf ((Value.lookup (.text key) es).getD (.list []))

/-- The kind of a column is derived from the type in its description. -/
def IsKindOf (description : Value) (kind : ColumnKind) : Prop :=
  ∃ type, describedBy description "type" = .ok (.text type) ∧ ColumnKind.ofTypeName type = kind

/-- A description has a kind if it has a type that is a text. -/
theorem exists_describedKind_iff {kind : ColumnKind} :
    (∃ w, describedBy v "type" = .ok w ∧ describedKind w = .ok kind) ↔ IsKindOf v kind := by
  constructor
  · rintro ⟨w, hw, hkind⟩
    cases w <;> simp only [describedKind, reduceCtorEq, Except.ok.injEq] at hkind
    exact ⟨_, hw, hkind⟩
  · rintro ⟨type, htype, rfl⟩
    exact ⟨_, htype, rfl⟩

/-- A document is a table if its descriptions name the columns and their kinds and each of its rows
is taken. -/
theorem table_eq_ok_iff :
    table statement document = .ok result ↔ ∃ es descriptions values, document = .mapping es ∧
      partOf es "meta" = .ok descriptions ∧ partOf es "data" = .ok values ∧
      List.Forall₂ (fun d name => describedBy d "name" = .ok name) descriptions result.columns ∧
      List.Forall₂ IsKindOf descriptions result.kinds ∧
      List.Forall₂ (fun v cells => row statement result.kinds v = .ok cells) values result.rows ∧
      result.query = statement := by
  unfold table
  split
  · rename_i es
    simp only [bind_eq_ok_iff, mapError_eq_ok_iff, mapM_eq_ok_iff, pure_eq_ok_iff,
      exists_describedKind_iff]
    constructor
    · -- The parts in the order in which they are read.
      rintro ⟨descriptions, hmeta, columns, hcolumns, kinds, hkinds, values, hdata, rows, hrows,
        rfl⟩
      exact ⟨es, descriptions, values, rfl, hmeta, hdata, hcolumns, hkinds, hrows, rfl⟩
    · rintro ⟨_, descriptions, values, heq, hmeta, hdata, hcolumns, hkinds, hrows, rfl⟩
      obtain rfl := Value.mapping.inj heq
      exact ⟨descriptions, hmeta, _, hcolumns, _, hkinds, values, hdata, _, hrows, rfl⟩
  · rename_i hmapping
    constructor
    · intro h
      cases h
    · rintro ⟨es, -, -, rfl, -⟩
      exact absurd rfl (hmapping es)

end Store

/-! ## Tables whose kinds suit their layout -/

/-- The kinds of columns that a layout reads its cells from: a number for the metric, a time, and no
nullable floats as tags. -/
structure Layout.Suits (layout : Layout) (kinds : List ColumnKind) : Prop where
  /-- The metric is a number, present or not. -/
  metric : ∀ kind, kinds[layout.metricIndex]? = some kind → kind ∈ [.int, .float, .nullableFloat]
  /-- The time is a number or a moment. -/
  time : ∀ kind, kinds[layout.timeIndex]? = some kind → kind ∈ [.int, .float, .moment]
  /-- No tag is a nullable float. -/
  tags : ∀ i, layout.tagIndex = some i ∨ i ∈ layout.bareIndexes →
    kinds[i]? ≠ some .nullableFloat

namespace ResultSet.Rectangular

variable {result : ResultSet}

/-- Nothing is missing at a place that a layout asks for. -/
theorem not_hasGap (h : result.Rectangular) : ¬ result.HasGap := by
  rintro ⟨layout, hlayout, hkind | ⟨row, hrow, i, hi, hgap⟩⟩
  · -- A kind is missing: there is one for each column.
    have hmetric : layout.Reads layout.metricIndex := .inl rfl
    have hlt := hmetric.lt_length hlayout
    have hle := List.getElem?_eq_none_iff.mp hkind
    rw [h.kinds] at hle
    omega
  · -- A cell is missing: there is one for each column.
    have hlt := h.lt_length hlayout hrow hi
    have hle := List.getElem?_eq_none_iff.mp hgap
    omega

/-- Every cell can be read where the kinds of the columns suit the layout. -/
theorem not_hasUnreadable (h : result.Rectangular)
    (hsuits : ∀ layout, Layout.locate result.columns = .ok layout → layout.Suits result.kinds) :
    ¬ result.HasUnreadable := by
  rintro ⟨layout, kind, row, hlayout, hkind, hrow, ⟨i, cell, hi, hcell, hnull⟩ |
    ⟨cell, hcell, hmetric⟩ | ⟨cell, hcell, htime⟩⟩
  all_goals
    have hat := h.kind_of_cell hrow hcell
    have hsuits := hsuits layout hlayout
  · exact hsuits.tags i hi (hnull ▸ hat)
  · obtain rfl := Option.some.inj (hkind.symm.trans hat)
    exact hmetric.elim (fun h => h rfl) fun h => h (hsuits.metric _ hat)
  · exact htime (hsuits.time _ hat)

end ResultSet.Rectangular

/-- A table that the store's document is accepted as is rectangular. -/
theorem Store.rectangular_of_table {statement : Text} {document : Value} {result : ResultSet}
    (h : table statement document = .ok result) : result.Rectangular := by
  obtain ⟨es, descriptions, values, -, -, -, hcolumns, hkinds, hrows, -⟩ := table_eq_ok_iff.mp h
  refine ⟨hkinds.length_eq.symm.trans hcolumns.length_eq, fun row hrow => ?_⟩
  obtain ⟨v, -, hrow⟩ := exists_of_mem_right hrows hrow
  exact columnKinds_of_row hrow

/-- The table of an accepted document is rectangular, and its cells are of the kinds that the types
of their columns name. No cell that the decoder asks for is out of range, and where the kinds suit
the layout, every one can be read. -/
theorem accepted_table_is_readable [Host] (statement : Text) (document : Value) (result : ResultSet)
    (h : Store.table statement document = .ok result) :
    result.Rectangular ∧
    (∃ es descriptions, document = .mapping es ∧ Store.partOf es "meta" = .ok descriptions ∧
      List.Forall₂ Store.IsKindOf descriptions result.kinds) ∧
    (∀ layout, Layout.locate result.columns = .ok layout → ∀ row ∈ result.rows, ∀ i,
      layout.Reads i → i < row.length) ∧
    ∀ limit e, result.decode limit = .error e →
      (∀ message, e ≠ .fault (.badIndex message)) ∧
      ((∀ layout, Layout.locate result.columns = .ok layout → layout.Suits result.kinds) →
        ∀ kind shown target, e ≠ .failure (.cellCoercion kind shown target)) := by
  have hrectangular := Store.rectangular_of_table h
  obtain ⟨es, descriptions, -, hdocument, hmeta, -, -, hkinds, -, -⟩ := Store.table_eq_ok_iff.mp h
  refine ⟨hrectangular, ⟨es, descriptions, hdocument, hmeta, hkinds⟩,
    fun layout hlayout row hrow i => hrectangular.lt_length hlayout hrow, fun limit e he => ?_⟩
  constructor
  · -- No place is out of range.
    rintro message rfl
    cases result.fails_of_decode limit _ he with
    | gap hgap => exact hrectangular.not_hasGap hgap
    | fault hfault => exact hfault trivial
  · -- No cell is unreadable.
    intro hsuits kind shown target
    have hreadable := hrectangular.not_hasUnreadable hsuits
    cases result.fails_of_decode limit _ he with
    | unreadable hbad => exact absurd hbad hreadable
    | _ => exact nofun

/-- A document with wrapped types: moments, floats that may be absent, and short texts. -/
def loadDocument : Value :=
  .mapping [
    (.text "meta", .list [
      .mapping [(.text "name", .text "timestamp"), (.text "type", .text "DateTime('UTC')")],
      .mapping [(.text "name", .text "metrics.load"), (.text "type", .text "Nullable(Float64)")],
      .mapping [(.text "name", .text "pod"),
        (.text "type", .text "LowCardinality(Nullable(String))")]]),
    (.text "data", .list [
      .list [.text "2024-01-02 03:04:05", .null, .text "x"],
      .list [.text "2024-01-02 03:04:06", .int 7, .null]])]

/-- The table of the document. -/
def loadTable : ResultSet where
  columns := [.text "timestamp", .text "metrics.load", .text "pod"]
  kinds := [.moment, .nullableFloat, .text]
  rows := [
    [.moment ⟨⟨2024, 1, 2⟩, ⟨3, 4, 5, 0⟩, none, false⟩, .nullableFloat none, .text "x"],
    [.moment ⟨⟨2024, 1, 2⟩, ⟨3, 4, 6, 0⟩, none, false⟩, .nullableFloat (some (Binary64.ofInt 7)),
      .text ""]]
  query := "SELECT 1"

/-- The document is accepted as the table. -/
theorem table_loadDocument : Store.table "SELECT 1" loadDocument = .ok loadTable := rfl

-- From here on the host is a concrete one.
attribute [local instance] Host.utc

/-- The kinds of the table suit its layout, so all of its cells can be read. -/
theorem accepted_loadDocument_is_readable :
    Store.table "SELECT 1" loadDocument = .ok loadTable ∧ loadTable.Rectangular ∧
      ∀ limit e, loadTable.decode limit = .error e →
        ∀ kind shown target, e ≠ .failure (.cellCoercion kind shown target) := by
  obtain ⟨hrectangular, -, -, herror⟩ :=
    accepted_table_is_readable "SELECT 1" loadDocument loadTable table_loadDocument
  refine ⟨table_loadDocument, hrectangular, fun limit e he => (herror limit e he).2 ?_⟩
  intro layout hlayout
  obtain rfl : layout = ⟨"load", 1, 0, none, [2]⟩ := (Except.ok.inj hlayout).symm
  refine ⟨?_, ?_, ?_⟩ <;> simp [loadTable]

end RemoteRead
