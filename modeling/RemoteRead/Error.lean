import RemoteRead.Value.Basic

/-!
# Errors

A `Failure` is an error that the bridge itself reports; it has a message, a context of named values,
and an HTTP status. A `Fault` is anything else that can go wrong on the way, such as a number out of
range or a text without an encoded form. Each has its wording in one place.
-/

namespace RemoteRead

/-- Broad groups of failures that are reported with a message of their own. -/
inductive FailureGroup where
  /-- Any failure of the bridge. -/
  | general
  /-- Failures of configuration. -/
  | configuration
  /-- Failures while a request is compiled. -/
  | compilation
  /-- Failures while a result set is decoded. -/
  | decoding
  /-- Failures of a query. -/
  | query
deriving DecidableEq

/-- What went wrong, as the bridge reports it. -/
inductive Failure where
  /-- A failure of a group, with its message and context. -/
  | grouped (group : FailureGroup) (message : Value) (context : List (Value × Value))
  /-- The request could not be decoded or is malformed. -/
  | invalidRequest (details : Value)
  /-- The response could not be decoded. -/
  | invalidResponse (details : Value)
  /-- The metric name denotes no registered database and table. -/
  | unknownMetric (name : Value)
  /-- The matcher has a type that no predicate expresses. -/
  | unsupportedMatcherType (type label : Value)
  /-- The label is no plain identifier. -/
  | invalidLabelName (label : Value)
  /-- No matcher selects a metric. -/
  | noMetricSelected
  /-- The range ends before it starts. -/
  | invalidTimeRange (start stop : Value)
  /-- The metric or the time column is absent; an index of -1 says which. -/
  | missingColumn (metricIndex timeIndex columns : Value)
  /-- A cell, given by its kind and its form in messages, has no such reading. -/
  | cellCoercion (kind shown : Text) (target : Value)
  /-- The store did not answer the query. -/
  | queryExecution (message query : Value)

/-- What went wrong outside the failures that the bridge reports. -/
inductive Fault where
  /-- A value is not of the form it should have. -/
  | badValue (message : Text)
  /-- A number is too large. -/
  | overflow (message : Text)
  /-- A value is of the wrong kind. -/
  | wrongKind (message : Text)
  /-- A value lacks an operation. -/
  | missingOperation (message : Text)
  /-- A sequence is too short. -/
  | badIndex (message : Text)
  /-- A mapping lacks a key. -/
  | missingKey (key : Value)
  /-- A text has no encoded form. -/
  | unencodable (message : Text)
  /-- Octets are no encoded text. -/
  | undecodable (message : Text)
  /-- A document is nested too deeply. -/
  | tooDeep (message : Text)
  /-- An error of another class, with its message. -/
  | other (name message : Text)

/-- Any error. -/
inductive Error where
  /-- A failure that the bridge reports. -/
  | failure (f : Failure)
  /-- Anything else. -/
  | fault (f : Fault)

namespace FailureGroup

/-- The name of the group. -/
def name : FailureGroup → Text
  | general => "PromReadError"
  | configuration => "ConfigurationError"
  | compilation => "TranslationError"
  | decoding => "DecodeError"
  | query => "QueryError"

/-- The group's name and those of the groups that contain it, the narrowest first. -/
def lineage : FailureGroup → List Text
  | general => ["PromReadError"]
  | g => [g.name, "PromReadError"]

end FailureGroup

namespace Failure

/-- The name of the failure. -/
def name : Failure → Text
  | grouped g _ _ => g.name
  | invalidRequest _ => "InvalidReadRequestError"
  | invalidResponse _ => "InvalidReadResponseError"
  | unknownMetric _ => "UnknownMetricError"
  | unsupportedMatcherType _ _ => "UnsupportedMatcherTypeError"
  | invalidLabelName _ => "InvalidLabelNameError"
  | noMetricSelected => "NoMetricSelectedError"
  | invalidTimeRange _ _ => "InvalidTimeRangeError"
  | missingColumn _ _ _ => "MissingColumnError"
  | cellCoercion _ _ _ => "CellCoercionError"
  | queryExecution _ _ => "QueryExecutionError"

/-- The group that a failure belongs to. -/
def group : Failure → FailureGroup
  | grouped g _ _ => g
  | invalidRequest _ => .general
  | invalidResponse _ => .general
  | unknownMetric _ => .compilation
  | unsupportedMatcherType _ _ => .compilation
  | invalidLabelName _ => .compilation
  | noMetricSelected => .compilation
  | invalidTimeRange _ _ => .compilation
  | missingColumn _ _ _ => .decoding
  | cellCoercion _ _ _ => .decoding
  | queryExecution _ _ => .query

/-- The failure's name and those of the groups that contain it, the narrowest first. -/
def lineage : Failure → List Text
  | grouped g _ _ => g.lineage
  | f => f.name :: f.group.lineage

/-- The message of a failure, which may be a value of any kind where it was given from outside. -/
def messageValue : Failure → Value
  | grouped _ m _ => m
  | queryExecution m _ => m
  | invalidRequest details => .text ("Invalid read request: " ++ details.display)
  | invalidResponse details => .text ("Invalid read response: " ++ details.display)
  | unknownMetric n => .text ("Unknown metrics " ++ n.display)
  | unsupportedMatcherType t l =>
    .text ("Unknown match type " ++ t.display ++ " for label " ++ l.display)
  | invalidLabelName l => .text ("Invalid label name " ++ l.shown)
  | noMetricSelected => .text "Finding metrics by labels alone is not supported"
  | invalidTimeRange s e =>
    .text ("Invalid time range: start " ++ s.display ++ " is after end " ++ e.display)
  | missingColumn m t _ =>
    .text ("metricsIndex(" ++ m.display ++ "), timeIndex(" ++ t.display ++ ") get failed")
  | cellCoercion kind _ target => .text ("Cannot convert " ++ kind ++ " to " ++ target.display)

/-- The message of a failure in words. -/
def message (f : Failure) : Text := f.messageValue.display

/-- The named values that go with a failure. -/
def context : Failure → List (Value × Value)
  | grouped _ _ context => context
  | invalidRequest details => [(.text "details", details)]
  | invalidResponse details => [(.text "details", details)]
  | unknownMetric n => [(.text "metric_name", n)]
  | unsupportedMatcherType t l => [(.text "matcher_type", t), (.text "label", l)]
  | invalidLabelName l => [(.text "label", l)]
  | noMetricSelected => []
  | invalidTimeRange s e => [(.text "start", s), (.text "end", e)]
  | missingColumn m t columns =>
    [(.text "metrics_index", m), (.text "time_index", t), (.text "columns", columns)]
  | cellCoercion _ shown target => [(.text "cell", .text shown), (.text "target", target)]
  | queryExecution _ q => [(.text "query", q)]

/-- The HTTP status of a failure: 400 where the request is at fault, 502 where the store is, and 500
otherwise. -/
def status : Failure → Nat
  | invalidRequest _ => 400
  | unknownMetric _ => 400
  | unsupportedMatcherType _ _ => 400
  | invalidLabelName _ => 400
  | noMetricSelected => 400
  | invalidTimeRange _ _ => 400
  | queryExecution _ _ => 502
  | _ => 500

end Failure

namespace Fault

/-- The name of the fault's class. -/
def name : Fault → Text
  | badValue _ => "ValueError"
  | overflow _ => "OverflowError"
  | wrongKind _ => "TypeError"
  | missingOperation _ => "AttributeError"
  | badIndex _ => "IndexError"
  | missingKey _ => "KeyError"
  | unencodable _ => "UnicodeEncodeError"
  | undecodable _ => "UnicodeDecodeError"
  | tooDeep _ => "RecursionError"
  | other n _ => n

/-- The message of a fault; that of a missing key is the key. -/
def message : Fault → Text
  | badValue m => m
  | overflow m => m
  | wrongKind m => m
  | missingOperation m => m
  | badIndex m => m
  | missingKey k => k.shown
  | unencodable m => m
  | undecodable m => m
  | tooDeep m => m
  | other _ m => m

end Fault

namespace Error

/-- The name of the error's class. -/
def name : Error → Text
  | failure f => f.name
  | fault f => f.name

/-- The message of an error. -/
def message : Error → Text
  | failure f => f.message
  | fault f => f.message

/-- The message of an error, which may be a value of any kind where it was given from outside. -/
def messageValue : Error → Value
  | failure f => f.messageValue
  | fault f => .text f.message

/-- The named values that go with an error; a fault has none. -/
def context : Error → List (Value × Value)
  | failure f => f.context
  | fault _ => []

/-- The error's name and those of the groups that contain it; a fault belongs to none. -/
def lineage : Error → List Text
  | failure f => f.lineage
  | fault _ => []

/-- The HTTP status of an error; a fault is always the server's. -/
def status : Error → Nat
  | failure f => f.status
  | fault _ => 500

/-- A failure is an error. -/
instance : Coe Failure Error := ⟨failure⟩

/-- A fault is an error. -/
instance : Coe Fault Error := ⟨fault⟩

end Error

end RemoteRead
