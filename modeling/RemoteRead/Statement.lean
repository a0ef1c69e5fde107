import RemoteRead.Matcher
import RemoteRead.TagCatalog

/-!
# Statements

`compile` turns the first query of a request into a statement of the store, and says what the
catalog was asked on the way.
-/

namespace RemoteRead

/-- The column expression of the time. -/
def timeSelection : Text := "toUnixTimestamp(time) AS timestamp"

/-- The statement that selects columns under predicates. Tables are read from the newest row on;
views have an order of their own. -/
def assemble (metric : Metric) (columns predicates : List Text) (config : Config) : Text :=
  let select := "SELECT " ++ Text.join "," columns ++ " FROM "
  let condition := " WHERE " ++ Text.join " AND " predicates
  let limit := " LIMIT " ++ Text.ofInt config.rowLimit
  if metric.isResolved then
    select ++ metric.sourceTable ++ condition ++ " ORDER BY time desc" ++ limit
  else select ++ config.virtualNamespace ++ "." ++ metric.name ++ condition ++ limit

/-- A statement with what its execution needs. -/
structure CompiledQuery where
  /-- The text of the statement. -/
  sql : Text
  /-- The database that it runs in, empty for the default. -/
  database : Text
  /-- The data source that the metric name gave. -/
  dataSource : Text
  /-- The metric that it reads. -/
  metric : Metric
  /-- The range that it covers. -/
  range : TimeRange
deriving DecidableEq

/-- The metric that the first matcher about the metric's name denotes, if there is one. -/
def Query.metric (q : Query) (config : Config) : Except Failure (Option Metric) :=
  match q.matchers.find? LabelMatcher.isMetricName with
  | none => .ok none
  | some m => (Metric.ofName config.databases m.value).map some

/-- The statement of a query, and the questions that the catalog was asked. -/
def Query.compile (q : Query) (config : Config) (catalog : Option TagCatalog) :
    Except Failure (CompiledQuery × List CatalogCall) := do
  let range := TimeRange.ofMillis q.startMs q.endMs
  if range.stop < range.start then
    throw (.invalidTimeRange (.int range.start) (.int range.stop))
  let metric? ← q.metric config
  let predicates ← LabelMatcher.predicates q.matchers metric? config.systemDatabase
  match metric? with
  | none => throw .noMetricSelected
  | some metric =>
    let (tags, calls) := expandTags metric range config catalog
    let sql := assemble metric (timeSelection :: metric.selection :: tags)
      (range.predicate :: predicates) config
    return (⟨sql, metric.database, metric.dataSource, metric, range⟩, calls)

/-- The statement of the first query of a request; the others are not read. -/
def ReadRequest.compile (r : ReadRequest) (config : Config) (catalog : Option TagCatalog) :
    Except Failure (CompiledQuery × List CatalogCall) :=
  match r.queries with
  | [] => .error (.invalidRequest (.text "request contains no queries"))
  | q :: _ => q.compile config catalog

end RemoteRead
