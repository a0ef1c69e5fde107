import RemoteRead.Message.Basic

/-!
# Messages as documents

The form in which messages are shown: a mapping from field names to values that leaves out fields at
their default, with 64-bit integers as decimal texts, enumerations by name, and doubles as numbers
where they are finite. The statistics of a message count what it holds.
-/

namespace RemoteRead

open Value (record)

/-- The fields that are present. -/
def presentFields (fields : List (Option (String × Value))) : Value :=
  record (fields.filterMap id)

/-- A field with a 64-bit integer. -/
def intEntry (name : String) (n : Int) : Option (String × Value) :=
  if n = 0 then none else some (name, .text (Text.ofInt n))

/-- A field with a text. -/
def textEntry (name : String) (t : Text) : Option (String × Value) :=
  if t.isEmpty then none else some (name, .text t)

/-- A field with repeated values. -/
def listEntry (name : String) (vs : List Value) : Option (String × Value) :=
  if vs.isEmpty then none else some (name, .list vs)

/-- A double in a document. -/
def doubleValue (x : Binary64) : Value :=
  if x.isFinite then .float x
  else if x.isNaN then .text "NaN"
  else if x.isNegative then .text "-Infinity"
  else .text "Infinity"

/-- A field with a double; negative zero is no default. -/
def doubleEntry (name : String) (x : Binary64) : Option (String × Value) :=
  if x.bits = 0 then none else some (name, doubleValue x)

/-- An enumeration value by its name, or its number if it has none. -/
def enumValue (names : List Text) (n : Int) : Value :=
  if n < 0 then .int n else (names[n.toNat]?).elim (.int n) .text

/-- The label as a document. -/
def Label.document (l : Label) : Value :=
  presentFields [textEntry "name" l.name, textEntry "value" l.value]

/-- The sample as a document. -/
def Sample.document (s : Sample) : Value :=
  presentFields [doubleEntry "value" s.value, intEntry "timestamp" s.timestamp]

/-- The exemplar as a document. -/
def Exemplar.document (e : Exemplar) : Value :=
  presentFields [listEntry "labels" (e.labels.map Label.document), doubleEntry "value" e.value,
    intEntry "timestamp" e.timestamp]

/-- The series as a document. -/
def TimeSeries.document (s : TimeSeries) : Value :=
  presentFields [listEntry "labels" (s.labels.map Label.document),
    listEntry "samples" (s.samples.map Sample.document),
    listEntry "exemplars" (s.exemplars.map Exemplar.document)]

/-- The result of a query as a document. -/
def QueryResult.document (r : QueryResult) : Value :=
  presentFields [listEntry "timeseries" (r.timeseries.map TimeSeries.document)]

/-- The response as a document. -/
def ReadResponse.document (r : ReadResponse) : Value :=
  presentFields [listEntry "results" (r.results.map QueryResult.document)]

/-- The names of the comparisons. -/
def comparisonNames : List Text := ["EQ", "NEQ", "RE", "NRE"]

/-- The names of the response types. -/
def responseTypeNames : List Text := ["SAMPLES", "STREAMED_XOR_CHUNKS"]

/-- The matcher as a document. -/
def LabelMatcher.document (m : LabelMatcher) : Value :=
  presentFields [if m.type = 0 then none else some ("type", enumValue comparisonNames m.type),
    textEntry "name" m.name, textEntry "value" m.value]

/-- Hints as a document. -/
def ReadHints.document (h : ReadHints) : Value :=
  presentFields [
    intEntry "step_ms" h.stepMs, textEntry "func" h.func, intEntry "start_ms" h.startMs,
    intEntry "end_ms" h.endMs, listEntry "grouping" (h.grouping.map Value.text),
    if h.keep then some ("by", .bool true) else none, intEntry "range_ms" h.rangeMs]

/-- The query as a document; hints that were sent are shown even if empty. -/
def Query.document (q : Query) : Value :=
  presentFields [intEntry "start_timestamp_ms" q.startMs, intEntry "end_timestamp_ms" q.endMs,
    listEntry "matchers" (q.matchers.map LabelMatcher.document),
    q.hints.map fun h => ("hints", h.document)]

/-- The request as a document. -/
def ReadRequest.document (r : ReadRequest) : Value :=
  presentFields [listEntry "queries" (r.queries.map Query.document),
    listEntry "accepted_response_types" (r.accepted.map (enumValue responseTypeNames))]

/-- The least of the starts and the greatest of the ends of queries, if there are any. -/
def Query.span (qs : List Query) : Option (Int × Int) :=
  match qs with
  | [] => none
  | q :: r =>
    some (r.foldl (fun n p => if p.startMs < n then p.startMs else n) q.startMs,
      r.foldl (fun n p => if n < p.endMs then p.endMs else n) q.endMs)

/-- What a request holds: its queries, matchers, metric names and overall range. -/
def ReadRequest.statistics (r : ReadRequest) : List (String × Value) :=
  let matchers := r.queries.flatMap (·.matchers)
  let span := Query.span r.queries
  [("total_queries", .int r.queries.length),
    ("total_matchers", .int matchers.length),
    ("metric_names",
      .list ((matchers.filter fun m => m.name == metricNameLabel).map fun m => .text m.value)),
    ("min_timestamp_ms", (span.map fun s => Value.int s.1).getD .null),
    ("max_timestamp_ms", (span.map fun s => Value.int s.2).getD .null)]

/-- What a response holds: its results, series and samples. -/
def ReadResponse.statistics (r : ReadResponse) : List (String × Value) :=
  let series := r.results.flatMap (·.timeseries)
  [("total_results", .int r.results.length),
    ("total_time_series", .int series.length),
    ("total_samples", .int (series.foldl (fun n s => n + s.samples.length) 0 : Nat))]

end RemoteRead
