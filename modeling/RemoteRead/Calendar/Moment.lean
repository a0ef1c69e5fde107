import RemoteRead.Number.Binary64
import RemoteRead.Text.Basic

/-!
# Dates and moments

Dates of the proleptic Gregorian calendar with years 1 to 9999, times of day to the microsecond, and
moments, which carry an offset from universal time or none. A moment without an offset is what a
local clock shows; which time that is depends on the zone.
-/

namespace RemoteRead.Calendar

/-- Every fourth year but the centuries not divisible by 400. -/
def isLeapYear (y : Nat) : Bool := y % 4 == 0 && (y % 100 != 0 || y % 400 == 0)

/-- The length of a month, counted from 1. -/
def daysInMonth (y m : Nat) : Nat :=
  if m = 2 then if isLeapYear y then 29 else 28
  else if m = 4 ∨ m = 6 ∨ m = 9 ∨ m = 11 then 30 else 31

/-- The days of the years before a positive one. -/
def daysBeforeYear (y : Nat) : Nat :=
  let p := y - 1
  p * 365 + p / 4 - p / 100 + p / 400

/-- The days of the months of a year before the given one. -/
def daysBeforeMonth (y m : Nat) : Nat :=
  (List.range (m - 1)).foldl (fun n i => n + daysInMonth y (i + 1)) 0

/-- The number of a day, 1 for the first day of year 1. -/
def dayNumber (y m d : Nat) : Nat := daysBeforeYear y + daysBeforeMonth y m + d

/-- The year that a positive day number lies in, by cycles of 400, 100, 4 years and single years.
The last day of a cycle of 400 or 4 years would begin a fifth part of it, hence the bounds of 3. -/
def yearOfDay (n : Nat) : Nat :=
  let d := n - 1
  let century := min (d % 146097 / 36524) 3
  let inCentury := d % 146097 - century * 36524
  let single := min (inCentury % 1461 / 365) 3
  d / 146097 * 400 + century * 100 + inCentury / 1461 * 4 + single + 1

/-- The year, month and day of a positive day number. -/
def ofDayNumber (n : Nat) : Nat × Nat × Nat :=
  let year := yearOfDay n
  let rest := n - daysBeforeYear year
  let month := (List.range 12).foldl
    (fun best i => if daysBeforeMonth year (i + 1) < rest then i + 1 else best) 1
  (year, month, rest - daysBeforeMonth year month)

/-- The day number of the first day of 1970. -/
def epochDay : Nat := 719163

/-- A day of the calendar. -/
structure Date where
  /-- The year, from 1 to 9999. -/
  year : Nat
  /-- The month, from 1 to 12. -/
  month : Nat
  /-- The day of the month, from 1. -/
  day : Nat
deriving DecidableEq

/-- A time of day. -/
structure TimeOfDay where
  /-- The hour, from 0 to 23. -/
  hour : Nat
  /-- The minute, from 0 to 59. -/
  minute : Nat
  /-- The second, from 0 to 59. -/
  second : Nat
  /-- The microsecond, from 0 to 999999. -/
  micro : Nat
deriving DecidableEq

/-- A date and time, with the microseconds that local time is ahead of universal time if it says. -/
structure Moment where
  /-- The date. -/
  date : Date
  /-- The time of day. -/
  time : TimeOfDay
  /-- The offset in microseconds, less than a day either way. -/
  offset : Option Int
  /-- Of two times at which a clock that is put back shows the same, the later one is meant. -/
  fold : Bool := false
deriving DecidableEq

/-- What is wrong with the fields of a date or time. -/
inductive FieldError where
  /-- The year is not from 1 to 9999. -/
  | year (y : Int)
  /-- The month is not from 1 to 12. -/
  | month
  /-- The month has no such day. -/
  | day
  /-- The hour is not from 0 to 23. -/
  | hour
  /-- The minute is not from 0 to 59. -/
  | minute
  /-- The second is not from 0 to 59. -/
  | second
deriving DecidableEq

/-- The date with the given fields. -/
def Date.ofFields (y m d : Nat) : Except FieldError Date :=
  if y < 1 ∨ 9999 < y then .error (.year y)
  else if m < 1 ∨ 12 < m then .error .month
  else if d < 1 ∨ daysInMonth y m < d then .error .day
  else .ok ⟨y, m, d⟩

/-- The time with the given fields. -/
def TimeOfDay.ofFields (h m s us : Nat) : Except FieldError TimeOfDay :=
  if 23 < h then .error .hour
  else if 59 < m then .error .minute
  else if 59 < s then .error .second
  else .ok ⟨h, m, s, us⟩

/-- The seconds from the start of 1970 to a moment, by its date and time alone. -/
def Moment.localSeconds (t : Moment) : Int :=
  ((dayNumber t.date.year t.date.month t.date.day : Int) - epochDay) * 86400 +
    (t.time.hour * 3600 + t.time.minute * 60 + t.time.second : Nat)

/-- The date with zeros and hyphens. -/
def Date.isoText (d : Date) : Text :=
  Text.padded 4 d.year ++ "-" ++ Text.padded 2 d.month ++ "-" ++ Text.padded 2 d.day

/-- The time with zeros and colons, a fraction only where there is one. -/
def TimeOfDay.isoText (t : TimeOfDay) : Text :=
  Text.padded 2 t.hour ++ ":" ++ Text.padded 2 t.minute ++ ":" ++ Text.padded 2 t.second ++
    if t.micro = 0 then [] else "." ++ Text.padded 6 t.micro

/-- An offset with its sign, in hours and minutes, with seconds and a fraction only where there are
any. -/
def offsetText (offset : Int) : Text :=
  let us := offset.natAbs
  let s := us / 1000000
  (if offset < 0 then "-" else "+") ++ Text.padded 2 (s / 3600) ++ ":" ++
    Text.padded 2 (s / 60 % 60) ++
    (if us % 60000000 = 0 then [] else ":" ++ Text.padded 2 (s % 60)) ++
    (if us % 1000000 = 0 then [] else "." ++ Text.padded 6 (us % 1000000))

/-- The moment with the given separator between date and time. -/
def Moment.isoText (separator : Text) (t : Moment) : Text :=
  t.date.isoText ++ separator ++ t.time.isoText ++ (t.offset.map offsetText).getD []

/-- A span of microseconds as days, seconds and microseconds, the last two not negative; parts that
are zero are left out. -/
def spanText (us : Int) : Text :=
  let days := us.fdiv 86400000000
  let rest := (us.fmod 86400000000).toNat
  let part (name : Text) (n : Int) : List Text :=
    if n = 0 then [] else [name ++ "=" ++ Text.ofInt n]
  let parts := part "days" days ++ part "seconds" (rest / 1000000 : Nat) ++
    part "microseconds" (rest % 1000000 : Nat)
  "datetime.timedelta(" ++ (if parts.isEmpty then ("0" : Text) else Text.join ", " parts) ++ ")"

/-- The zone of an offset as error messages show it. -/
def zoneText (offset : Int) : Text :=
  if offset = 0 then "datetime.timezone.utc" else "datetime.timezone(" ++ spanText offset ++ ")"

/-- The date as error messages show it. -/
def Date.shown (d : Date) : Text :=
  "datetime.date(" ++ Text.ofNat d.year ++ ", " ++ Text.ofNat d.month ++ ", " ++ Text.ofNat d.day ++
    ")"

/-- The moment as error messages show it: trailing zero seconds and microseconds are left out. -/
def Moment.shown (t : Moment) : Text :=
  let fields := [t.date.year, t.date.month, t.date.day, t.time.hour, t.time.minute] ++
    (if t.time.micro ≠ 0 then [t.time.second, t.time.micro]
     else if t.time.second ≠ 0 then [t.time.second] else [])
  "datetime.datetime(" ++ Text.join ", " (fields.map Text.ofNat) ++
    (if t.fold then (", fold=1" : Text) else []) ++
    (match t.offset with
     | none => []
     | some offset => ", tzinfo=" ++ zoneText offset) ++ ")"

end RemoteRead.Calendar
