import RemoteRead.Text.CodePoint

/-!
# Time ranges

A range in milliseconds becomes one in whole seconds: both ends are cut toward zero, and a positive
end that is no whole second is moved up to the next.
-/

namespace RemoteRead

/-- A range of seconds, both ends included. -/
structure TimeRange where
  /-- The first second. -/
  start : Int
  /-- The last second. -/
  stop : Int
deriving DecidableEq

namespace TimeRange

/-- The range that covers a range of milliseconds. -/
def ofMillis (startMs endMs : Int) : TimeRange where
  start := startMs.tdiv 1000
  stop := endMs.tdiv 1000 + if 0 < endMs ∧ endMs.tmod 1000 ≠ 0 then 1 else 0

/-- The comparison of the time column with both ends. -/
def comparison (r : TimeRange) : Text :=
  "time >= " ++ Text.ofInt r.start ++ " AND time <= " ++ Text.ofInt r.stop

/-- The condition that selects the rows of the range. -/
def predicate (r : TimeRange) : Text := "(" ++ r.comparison ++ ")"

/-- The statement that lists the tags of a table in the range. -/
def showTags (table : Text) (r : TimeRange) : Text :=
  "SHOW tags FROM " ++ table ++ " WHERE " ++ r.comparison

end TimeRange

end RemoteRead
