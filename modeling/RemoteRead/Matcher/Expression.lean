import RemoteRead.Matcher
import RemoteRead.Text.Blank

/-!
# Matchers as expressions

A matcher is written as a name, an operator and a value, which may be in double quotes. The operator
is the longest one at the first code point that can start one, so a name holds no such code point.
-/

namespace RemoteRead

/-- The operator of an expression. -/
def Comparison.symbol : Comparison → Text
  | .equal => "="
  | .notEqual => "!="
  | .matchesPattern => "=~"
  | .failsPattern => "!~"

namespace LabelMatcher

/-- Whether a code point belongs to operators. -/
def isOperatorChar (c : CodePoint) : Bool := List.contains (Text.ofString "=!~") c

/-- The operator at the start of a text, the longer ones first, and the text after it. -/
def takeOperator? (t : Text) : Option (Comparison × Text) :=
  [Comparison.matchesPattern, .failsPattern, .notEqual, .equal].findSome? fun c =>
    if c.symbol.isPrefixOf t then some (c, t.drop c.symbol.length) else none

/-- The text without a double quote at both ends, if it has one at both. -/
def unquoted (t : Text) : Text :=
  match t with
  | c :: r =>
    if c = CodePoint.ofChar '"' ∧ r.getLast? = some (CodePoint.ofChar '"') then r.dropLast else t
  | [] => []

/-- The matcher that an expression denotes. -/
def ofExpression? (expression : Text) : Option LabelMatcher :=
  let t := expression.trimBlanks
  let name := t.takeWhile fun c => !isOperatorChar c
  match takeOperator? (t.drop name.length) with
  | none => none
  | some (c, value) =>
    if name.isEmpty || List.contains value (CodePoint.ofChar '\n') then none
    else some ⟨c.number, Text.trimBlanks name, unquoted value.trimBlanks⟩

end LabelMatcher

end RemoteRead
