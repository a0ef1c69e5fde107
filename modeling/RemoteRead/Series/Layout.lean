import RemoteRead.ResultSet

/-!
# The layout of a result set

Three columns are special: `tag` holds all tags of a row as one object, a name with the prefix
`metrics.` holds the metric, and `timestamp` the time. Of several columns of one role the last one
counts. All others are bare tags.
-/

namespace RemoteRead

/-- The column that holds all tags of a row. -/
def tagColumn : Text := "tag"

/-- The column that holds the time of a row. -/
def timeColumn : Text := "timestamp"

/-- What the name of the metric column starts with. -/
def metricPrefix : Text := "metrics."

/-- The role of a column. -/
inductive ColumnRole where
  /-- All tags of a row. -/
  | tags
  /-- The metric of the given name. -/
  | metric (name : Text)
  /-- The time. -/
  | time
  /-- A bare tag. -/
  | bare
deriving DecidableEq

/-- The role that a column's name gives it. -/
def ColumnRole.ofName (name : Text) : ColumnRole :=
  if name = tagColumn then tags
  else if metricPrefix.isPrefixOf name then metric (name.drop metricPrefix.length)
  else if name = timeColumn then time
  else bare

/-- Where the special columns of a result set are. -/
structure Layout where
  /-- The name of the metric. -/
  metricName : Text
  /-- The place of the metric column. -/
  metricIndex : Nat
  /-- The place of the time column. -/
  timeIndex : Nat
  /-- The place of the column of all tags. -/
  tagIndex : Option Nat
  /-- The places of the bare tags. -/
  bareIndexes : List Nat
deriving DecidableEq

namespace Layout

/-- The place of a special column as error messages give it, -1 for none. -/
def indexValue (i : Option Nat) : Int := i.elim (-1) fun n => n

/-- The special columns met so far. -/
structure Found where
  /-- The column of all tags. -/
  tags : Option Nat := none
  /-- The metric column and the name of the metric. -/
  metric : Option (Nat × Text) := none
  /-- The time column. -/
  time : Option Nat := none

/-- The special columns once the column at place `i` has a role. -/
def Found.note (f : Found) (i : Nat) : ColumnRole → Found
  | .tags => { f with tags := some i }
  | .metric name => { f with metric := some (i, name) }
  | .time => { f with time := some i }
  | .bare => f

/-- The special columns among those from place `i` on. A name that is no text has no prefix. -/
def scan (f : Found) (i : Nat) : List Value → Except Fault Found
  | [] => .ok f
  | .text name :: r => scan (f.note i (ColumnRole.ofName name)) (i + 1) r
  | v :: _ =>
    .error (.missingOperation ("'" ++ v.kindName ++ "' object has no attribute 'startswith'"))

/-- The layout of the columns of the given names. -/
def locate (columns : List Value) : Except Error Layout :=
  match scan {} 0 columns with
  | .error e => .error e
  | .ok f =>
    match f.metric, f.time with
    | some (metricIndex, metricName), some timeIndex =>
      .ok {
        metricName
        metricIndex
        timeIndex
        tagIndex := f.tags
        bareIndexes := (List.range columns.length).filter fun i =>
          i ≠ metricIndex ∧ i ≠ timeIndex ∧ some i ≠ f.tags }
    | _, _ =>
      .error (Failure.missingColumn (indexValue (f.metric.map (·.1))) (indexValue f.time)
        (.list columns))

end Layout

end RemoteRead
