import RemoteRead.Config
import RemoteRead.Identifier
import RemoteRead.Text.Basic

/-!
# Metrics

A metric name is a plain name, read from a view of the virtual namespace, or it is
`database__table__metric`, optionally with `__source` behind it, and denotes a column of a table of
a registered database. Segments after the fourth are not read.
-/

namespace RemoteRead

/-- What a metric name denotes; an empty database stands for a view. -/
structure Metric where
  /-- The column, or the view. -/
  name : Text
  /-- The database. -/
  database : Text := []
  /-- The table. -/
  table : Text := []
  /-- The interval of the table, if the name gives one. -/
  dataSource : Text := []
deriving DecidableEq

namespace Metric

/-- What stands between the segments of a name. -/
def delimiter : Text := "__"

/-- Whether the metric is a column of a table. -/
def isResolved (m : Metric) : Bool := !m.database.isEmpty

/-- A text in backticks. -/
def inBackticks (t : Text) : Text := CodePoint.ofNat 0x60 :: t ++ [CodePoint.ofNat 0x60]

/-- The table to read; a data source selects the table of its interval. -/
def sourceTable (m : Metric) : Text :=
  if m.dataSource.isEmpty then m.table else inBackticks (m.table ++ "." ++ m.dataSource)

/-- The column expression that selects the values. -/
def selection (m : Metric) : Text :=
  if m.isResolved then m.name ++ " as " ++ inBackticks ("metrics." ++ m.name)
  else "metrics." ++ m.name

/-- The tables registered for a database. -/
def tablesOf? (databases : Registry) (database : Text) : Option (List Text) :=
  (databases.find? fun (key, _) => key == database).map (·.2)

/-- The metric of the segments of a name. -/
def ofSegments? (databases : Registry) : List Text → Option Metric
  | database :: table :: name :: rest =>
    match tablesOf? databases database with
    | none => none
    | some tables =>
      let dataSource := rest.headD []
      if !(Identifier.accepts table && Identifier.accepts name) then none
      else if !dataSource.isEmpty && !Identifier.acceptsWord dataSource then none
      else if !tables.isEmpty && !tables.contains table then none
      else some { name, database, table, dataSource }
  | _ => none

/-- The metric that a name denotes, if it denotes one. -/
def ofName? (databases : Registry) (name : Text) : Option Metric :=
  if Text.contains delimiter name then ofSegments? databases (Text.splitOn delimiter name)
  else if Identifier.accepts name then some { name }
  else none

/-- The metric that a name denotes. -/
def ofName (databases : Registry) (name : Text) : Except Failure Metric :=
  match ofName? databases name with
  | some m => .ok m
  | none => .error (.unknownMetric (.text name))

end Metric

end RemoteRead
