import RemoteRead.Calendar.Moment

/-!
# Reading moments in ISO form

A date is `YYYY-MM-DD`, `YYYYMMDD`, or a week date `YYYY-Www`, `YYYY-Www-D` and the same without
hyphens. After it may come any one code point, a time in two-digit fields with or without colons,
and an offset. Where the length of the date is in doubt, the code points from the fifth on decide.

The reader looks one code point past the end of a time for its terminator: a NUL there, or the end
of the text, closes the time, and any other single ASCII leftover is accepted only if an offset
follows.
-/

namespace RemoteRead.Calendar

/-- Why a text is no moment. -/
inductive IsoError where
  /-- The text is not of the form. -/
  | malformed
  /-- A field is out of its range. -/
  | field (e : FieldError)
  /-- The offset, in microseconds, is a day or more. -/
  | offset (us : Int)
deriving DecidableEq

namespace Iso

/-- The number that exactly `n` digits at the front denote, and the rest. -/
def digits (n : Nat) (t : Text) : Option (Nat × Text) :=
  let ds := t.take n
  if ds.length = n ∧ ds.all CodePoint.isDigit then
    some (ds.foldl (fun v c => 10 * v + c.digitVal) 0, t.drop n)
  else none

/-- Whether a code point at a position is the given one. -/
def isAt (t : Text) (i : Nat) (c : Char) : Bool := t[i]? == some (CodePoint.ofChar c)

/-- How many code points belong to the date. -/
def dateLength (t : Text) : Option Nat :=
  if t.length = 7 then some 7
  else if isAt t 4 '-' then
    if isAt t 5 'W' then
      if 8 < t.length ∧ isAt t 8 '-' then
        if t.length = 9 then none
        else if 10 < t.length ∧ (t[10]?.map CodePoint.isDigit).getD false then some 8
        else some 10
      else some 8
    else some 10
  else if isAt t 4 'W' then
    let stop := 7 + ((t.drop 7).takeWhile CodePoint.isDigit).length
    if stop < 9 then some stop else if stop % 2 = 0 then some 7 else some 8
  else some 8

/-- The weekday of a day number, 0 for Monday. -/
def weekday (n : Nat) : Nat := (n + 6) % 7

/-- The day number of the Monday of a year's first week, the week with the first Thursday. -/
def firstMonday (year : Nat) : Nat :=
  let first := dayNumber year 1 1
  let w := weekday first
  if 3 < w then first + 7 - w else first - w

/-- The year, month and day of a week date. A year has a 53rd week if it starts on a Thursday, or on
a Wednesday in a leap year. The weeks of year 0 end before the first day of the calendar, so that no
month holds them. -/
def ofWeek (year week day : Nat) : Option (Nat × Nat × Nat) :=
  let w := weekday (dayNumber year 1 1)
  let long := 0 < year && (w == 3 || (w == 2 && isLeapYear year))
  if week < 1 ∨ 53 < week ∨ (week = 53 ∧ !long) ∨ day < 1 ∨ 7 < day then none
  else if year = 0 then some (1, 0, 0)
  else some (ofDayNumber (firstMonday year + (week - 1) * 7 + (day - 1)))

/-- The fields of a date that fills the whole text. -/
def dateFields (t : Text) : Option (Nat × Nat × Nat) := do
  let (year, r) ← digits 4 t
  let (hyphens, r) := match r with
    | c :: s => if c = CodePoint.ofChar '-' then (true, s) else (false, r)
    | [] => (false, r)
  let hyphen (r : Text) : Option Text := match r with
    | c :: s => if !hyphens then some r else if c = CodePoint.ofChar '-' then some s else none
    | [] => if hyphens then none else some r
  match r with
  | c :: s =>
    if c = CodePoint.ofChar 'W' then
      let (week, r) ← digits 2 s
      if r.isEmpty then ofWeek year week 1
      else
        let (day, r) ← digits 1 (← hyphen r)
        if r.isEmpty then ofWeek year week day else none
    else
      let (month, r) ← digits 2 r
      let (day, r) ← digits 2 (← hyphen r)
      if r.isEmpty then some (year, month, day) else none
  | [] => none

/-- Hours, minutes, seconds and microseconds, and whether something is left over. -/
structure ClockFields where
  /-- The two-digit fields read, at most three. -/
  fields : List Nat
  /-- The microseconds. -/
  micro : Nat
  /-- Whether something other than a NUL stands where the time ended. -/
  leftover : Bool

/-- Whether the code point that follows is neither the end nor a NUL. -/
def isOpen : Option CodePoint → Bool
  | some c => c.val != 0
  | none => false

/-- The fraction of a second: up to six digits count, further ones are passed over. -/
def fraction (t : Text) (next : Option CodePoint) : Option (Nat × Bool) :=
  if t.isEmpty then none
  else do
    let n := min 6 t.length
    let (v, r) ← digits n t
    let r := r.dropWhile CodePoint.isDigit
    some (v * Nat.pow 10 (6 - n), isOpen (r.head? <|> next))

/-- Up to `n` more two-digit fields and a fraction; `colons` says whether colons divide them, which
the code point after the first field decides. `next` is the code point after `t`. -/
def clock (next : Option CodePoint) : Nat → Option Bool → Text → Option ClockFields
  | 0, _, t => (fraction t next).map fun (us, more) => ⟨[], us, more⟩
  | n + 1, colons, t => do
    let (v, r) ← digits 2 t
    match r with
    | [] => some ⟨[v], 0, isOpen next⟩
    | [c] => if c.val < 0x80 then some ⟨[v], 0, isOpen (some c)⟩ else none
    | c :: s =>
      let divided := colons.getD (c = CodePoint.ofChar ':')
      let more (r : ClockFields) : ClockFields := { r with fields := v :: r.fields }
      if divided ∧ c = CodePoint.ofChar ':' then (clock next n (some divided) s).map more
      else if c = CodePoint.ofChar '.' ∨ c = CodePoint.ofChar ',' then
        (fraction s next).map fun (us, left) => ⟨[v], us, left⟩
      else if !divided then (clock next n (some divided) (c :: s)).map more
      else none

/-- Whether a code point begins an offset. -/
def beginsOffset (c : CodePoint) : Bool :=
  c = CodePoint.ofChar '+' ∨ c = CodePoint.ofChar '-' ∨ c = CodePoint.ofChar 'Z'

/-- A time and the offset in microseconds after it, if there is one. -/
def timeFields (t : Text) : Option (ClockFields × Option Int) := do
  let body := t.takeWhile fun c => !beginsOffset c
  match t.dropWhile fun c => !beginsOffset c with
  | [] =>
    let c ← clock none 3 none body
    if c.leftover then none else some (c, none)
  | mark :: rest =>
    let c ← clock (some mark) 3 none body
    if mark = CodePoint.ofChar 'Z' then if isOpen rest.head? then none else some (c, some 0)
    else
      let z ← clock none 3 none rest
      if z.leftover then none
      else
        let seconds := z.fields.getD 0 0 * 3600 + z.fields.getD 1 0 * 60 + z.fields.getD 2 0
        -- an offset of no whole second counts as none at all
        let us : Int := if seconds = 0 then 0 else (seconds * 1000000 + z.micro : Nat)
        some (c, some (if mark = CodePoint.ofChar '-' then -us else us))

/-- The text with a surrogate in the place of the separator replaced by a `T`. -/
def mendSeparator (t : Text) : Text :=
  match ([7, 8, 10] : List Nat).find? fun i => (t[i]?.map CodePoint.isSurrogate).getD false with
  | some i => t.set i (CodePoint.ofChar 'T')
  | none => t

end Iso

open Iso in
/-- The moment that a text denotes. -/
def Moment.ofIso (text : Text) : Except IsoError Moment :=
  let t := mendSeparator text
  if t.any CodePoint.isSurrogate then .error .malformed
  else
    let read : Option ((Nat × Nat × Nat) × (ClockFields × Option Int)) := do
      let n ← dateLength t
      if t.length < n then none
      else
        let date ← dateFields (t.take n)
        let rest := t.drop n
        let time ← if rest.isEmpty then some (⟨[], 0, false⟩, none) else timeFields (rest.drop 1)
        some (date, time)
    match read with
    | none => .error .malformed
    | some ((y, m, d), (c, offset)) => do
      match offset with
      | some us => if 86400000000 ≤ us.natAbs then throw (.offset us)
      | none => pure ()
      let date ← (Date.ofFields y m d).mapError .field
      let time ← (TimeOfDay.ofFields (c.fields.getD 0 0) (c.fields.getD 1 0) (c.fields.getD 2 0)
        c.micro).mapError .field
      pure { date, time, offset }

end RemoteRead.Calendar
