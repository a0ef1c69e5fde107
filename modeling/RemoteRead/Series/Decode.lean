import RemoteRead.Series.Accumulator
import RemoteRead.Series.Layout
import RemoteRead.Series.Tag

/-!
# Result sets as time series

Each row belongs to a series, identified by a key: the blob of tags, or the places and values of the
bare tags that are present. The first row of a series gives its labels, and every row a sample.
-/

namespace RemoteRead

open Layout

/-- A cell of a row, which may be too short. -/
def cellAt (row : List Cell) (i : Nat) : Except Error Cell :=
  match row[i]? with
  | some c => .ok c
  | none => .error (Fault.badIndex "list index out of range")

/-- The bare tags of a row that are present, each with its place and its value as a label. -/
def presentTags (row : List Cell) : List Nat → Except Error (List (Nat × Text))
  | [] => .ok []
  | i :: r => do
    let cell ← cellAt row i
    if cell.isNil then presentTags row r
    else
      let value ← cell.labelText
      return (i, value) :: (← presentTags row r)

/-- The key of the series that a row belongs to. -/
def seriesKey (row : List Cell) (layout : Layout) : Except Error Text :=
  match layout.tagIndex with
  | some i => do (← cellAt row i).labelText
  | none => do
    let tags ← presentTags row layout.bareIndexes
    return Text.join "-" (tags.flatMap fun (i, value) => [Text.ofNat i, value])

/-- The label of a bare tag. -/
def tagLabel (columns : List Value) (tag : Nat × Text) : Except Fault Label :=
  match columns[tag.1]? with
  | some (.text column) => Label.checked (Tag.labelName column) tag.2
  | _ => .error (.badIndex "list index out of range")

/-- The labels of the bare tags of a row, each made as soon as its cell is read. -/
def bareLabels (row : List Cell) (columns : List Value) : List Nat → Except Error (List Label)
  | [] => .ok []
  | i :: r => do
    let cell ← cellAt row i
    if cell.isNil then bareLabels row columns r
    else
      let value ← cell.labelText
      let label ← (tagLabel columns (i, value)).mapError Error.fault
      return label :: (← bareLabels row columns r)

/-- The labels of the series whose first row and key are given: the name of the metric, then the
tags. -/
def seriesLabels [Host] (row : List Cell) (layout : Layout) (columns : List Value) (key : Text) :
    Except Error (List Label) := do
  let name ← (Label.checked metricNameLabel layout.metricName).mapError Error.fault
  let tags ← match layout.tagIndex with
    | some _ => (Tag.blobLabels key).mapError Error.fault
    | none => bareLabels row columns layout.bareIndexes
  return name :: tags

/-- The sample of a row. -/
def rowSample [Host] (row : List Cell) (layout : Layout) (kind : ColumnKind) :
    Except Error Sample := do
  let value ← (← cellAt row layout.metricIndex).sampleValue (some kind)
  let seconds ← (← cellAt row layout.timeIndex).seconds
  (Sample.checked value (seconds * 1000)).mapError Error.fault

/-- The accumulator after one more row. -/
def addRow [Host] (layout : Layout) (kind : ColumnKind) (columns : List Value) (a : Accumulator)
    (row : List Cell) : Except Error Accumulator := do
  let key ← seriesKey row layout
  match a.offer key with
  | (a, .rejected) => return a
  | (a, .known) =>
    let sample ← rowSample row layout kind
    return a.update key fun s => { s with samples := s.samples ++ [sample] }
  | (a, .created) =>
    let labels ← seriesLabels row layout columns key
    let sample ← rowSample row layout kind
    return a.update key fun s => { s with labels, samples := s.samples ++ [sample] }

/-- The rows of a result set as time series, at most `limit` of them. -/
def ResultSet.decode [Host] (result : ResultSet) (limit : Int) : Except Error ReadResponse := do
  let layout ← Layout.locate result.columns
  match result.kinds[layout.metricIndex]? with
  | none => throw (Error.fault (.badIndex "list index out of range"))
  | some kind =>
    let a ← result.rows.foldlM (addRow layout kind result.columns) (Accumulator.empty limit)
    return ⟨[a.result]⟩

end RemoteRead
