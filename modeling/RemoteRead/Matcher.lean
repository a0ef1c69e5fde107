import RemoteRead.Message.Basic
import RemoteRead.Metric

/-!
# Matchers as predicates

A matcher becomes a comparison of a column with a string literal. Tables of ordinary databases have
a column per tag; views and the system database keep tags in a map.
-/

namespace RemoteRead

/-- How a matcher compares a label with its value. -/
inductive Comparison where
  /-- The label has the value. -/
  | equal
  /-- The label has another value. -/
  | notEqual
  /-- The label matches the pattern. -/
  | matchesPattern
  /-- The label does not match the pattern. -/
  | failsPattern
deriving DecidableEq

namespace Comparison

/-- The comparison with a given number. -/
def ofNumber? (n : Int) : Option Comparison :=
  if n = 0 then some equal
  else if n = 1 then some notEqual
  else if n = 2 then some matchesPattern
  else if n = 3 then some failsPattern
  else none

/-- The number of a comparison. -/
def number : Comparison → Int
  | equal => 0
  | notEqual => 1
  | matchesPattern => 2
  | failsPattern => 3

/-- The operator of the statement. -/
def operator : Comparison → Text
  | equal => "="
  | notEqual => "!="
  | matchesPattern => " regexp "
  | failsPattern => " not regexp "

end Comparison

/-- A code point inside a string literal: backslashes and single quotes take a backslash. -/
def literalEscape (c : CodePoint) : Text :=
  if c = CodePoint.ofChar '\\' ∨ c = CodePoint.ofChar '\'' then [CodePoint.ofChar '\\', c] else [c]

/-- A text as a string literal of the store. -/
def quoteLiteral (value : Text) : Text :=
  CodePoint.ofChar '\'' :: value.flatMap literalEscape ++ [CodePoint.ofChar '\'']

/-- Whether a metric's table has a column per tag. -/
def Metric.hasTagColumns (m : Metric) (systemDatabase : Text) : Bool :=
  m.isResolved && m.database != systemDatabase

/-- The column that a label refers to. -/
def columnReference (label : Text) (metric : Option Metric) (systemDatabase : Text) : Text :=
  if (metric.map (·.hasTagColumns systemDatabase)).getD false then label
  else Metric.inBackticks ("tag." ++ label)

namespace LabelMatcher

/-- Whether the matcher is about the name of the metric. -/
def isMetricName (m : LabelMatcher) : Bool := m.name == metricNameLabel

/-- The predicate of a matcher. The type is checked before the label. -/
def predicate (m : LabelMatcher) (metric : Option Metric) (systemDatabase : Text) :
    Except Failure Text :=
  match Comparison.ofNumber? m.type with
  | none => .error (.unsupportedMatcherType (.int m.type) (.text m.name))
  | some comparison =>
    if !Identifier.accepts m.name then .error (.invalidLabelName (.text m.name))
    else
      .ok (columnReference m.name metric systemDatabase ++ comparison.operator ++
        quoteLiteral m.value)

/-- The predicates of all matchers but those about the name of the metric, in their order. -/
def predicates (matchers : List LabelMatcher) (metric : Option Metric) (systemDatabase : Text) :
    Except Failure (List Text) :=
  (matchers.filter fun m => !m.isMetricName).mapM fun m => m.predicate metric systemDatabase

end LabelMatcher

end RemoteRead
