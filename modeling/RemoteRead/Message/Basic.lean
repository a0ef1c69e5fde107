import RemoteRead.Error
import RemoteRead.Text.Utf8

/-!
# Remote read messages

The messages of the remote read protocol. Numbers are 64-bit integers and texts have an encoded
form; the functions named `checked` refuse what does not fit.
-/

namespace RemoteRead

/-- A name and a value. -/
structure Label where
  /-- The name of the label. -/
  name : Text
  /-- The value of the label. -/
  value : Text
deriving DecidableEq

/-- A value at a time. -/
structure Sample where
  /-- The value. -/
  value : Binary64
  /-- Milliseconds since the start of 1970. -/
  timestamp : Int
deriving DecidableEq

/-- A sample that stands for others, with labels of its own. -/
structure Exemplar where
  /-- The labels. -/
  labels : List Label
  /-- The value. -/
  value : Binary64
  /-- Milliseconds since the start of 1970. -/
  timestamp : Int
deriving DecidableEq

/-- The samples of one set of labels. -/
structure TimeSeries where
  /-- The labels. -/
  labels : List Label := []
  /-- The samples in the order in which they came. -/
  samples : List Sample := []
  /-- The exemplars. -/
  exemplars : List Exemplar := []
deriving DecidableEq

/-- The answer to one query. -/
structure QueryResult where
  /-- The series. -/
  timeseries : List TimeSeries
deriving DecidableEq

/-- The answer to a request. -/
structure ReadResponse where
  /-- One result per query that was answered. -/
  results : List QueryResult
deriving DecidableEq

/-- A condition on a label. -/
structure LabelMatcher where
  /-- The number of the comparison. -/
  type : Int
  /-- The name of the label. -/
  name : Text
  /-- What the label is compared with. -/
  value : Text
deriving DecidableEq

/-- What the client will do with the answer. -/
structure ReadHints where
  /-- The step between evaluations in milliseconds. -/
  stepMs : Int := 0
  /-- The function that is applied. -/
  func : Text := []
  /-- The start of the range in milliseconds. -/
  startMs : Int := 0
  /-- The end of the range in milliseconds. -/
  endMs : Int := 0
  /-- The labels that are grouped by. -/
  grouping : List Text := []
  /-- Whether the labels are kept rather than dropped. -/
  keep : Bool := false
  /-- The length of the range in milliseconds. -/
  rangeMs : Int := 0
deriving DecidableEq

/-- The samples that are asked for. -/
structure Query where
  /-- The start in milliseconds since the start of 1970. -/
  startMs : Int := 0
  /-- The end in milliseconds since the start of 1970. -/
  endMs : Int := 0
  /-- The conditions on labels. -/
  matchers : List LabelMatcher := []
  /-- The hints, if any were sent. -/
  hints : Option ReadHints := none
deriving DecidableEq

/-- A remote read request. -/
structure ReadRequest where
  /-- The queries. -/
  queries : List Query := []
  /-- The numbers of the response types that the client takes. -/
  accepted : List Int := []
deriving DecidableEq

/-- The label that carries the name of the metric. -/
def metricNameLabel : Text := "__name__"

/-- Whether an integer has a form of 64 bits with sign. -/
def fitsInt64 (n : Int) : Bool := -9223372036854775808 ≤ n && n ≤ 9223372036854775807

/-- Whether an integer has a form of 32 bits with sign. -/
def fitsInt32 (n : Int) : Bool := -2147483648 ≤ n && n ≤ 2147483647

/-- The fault of a number that does not fit its field. -/
def Fault.outOfRange (n : Int) : Fault := .badValue ("Value out of range: " ++ Text.ofInt n)

/-- A number of 64 bits. -/
def checkedInt64 (n : Int) : Except Fault Int :=
  if fitsInt64 n then .ok n else .error (.outOfRange n)

/-- A number of 32 bits. -/
def checkedInt32 (n : Int) : Except Fault Int :=
  if fitsInt32 n then .ok n else .error (.outOfRange n)

/-- A text with an encoded form. -/
def checkedText (t : Text) : Except Fault Text :=
  if t.all CodePoint.isScalar then .ok t else .error (.unencodable (Text.Utf8.encodeMessage t))

/-- A label whose texts have an encoded form. -/
def Label.checked (name value : Text) : Except Fault Label := do
  return ⟨← checkedText name, ← checkedText value⟩

/-- A sample whose time fits. -/
def Sample.checked (value : Binary64) (timestamp : Int) : Except Fault Sample := do
  return ⟨value, ← checkedInt64 timestamp⟩

/-- A matcher whose fields fit. -/
def LabelMatcher.checked (type : Int) (name value : Text) : Except Fault LabelMatcher := do
  let name ← checkedText name
  let type ← checkedInt32 type
  return ⟨type, name, ← checkedText value⟩

/-- The request of one query with the given matchers, each a number, a name and a value. -/
def ReadRequest.single (startMs endMs : Int) (matchers : List (Int × Text × Text)) :
    Except Fault ReadRequest := do
  let startMs ← checkedInt64 startMs
  let endMs ← checkedInt64 endMs
  let matchers ← matchers.mapM fun (t, n, v) => LabelMatcher.checked t n v
  return { queries := [{ startMs, endMs, matchers }] }

end RemoteRead
