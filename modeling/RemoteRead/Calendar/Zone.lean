import RemoteRead.Calendar.Moment

/-!
# Local time

A zone says how far its clock is ahead of universal time. What a clock shows may come twice, when it
is put back, or not at all, when it is put forward; so the time of a moment without an offset is
searched for (`Zone.timeOf`), by what the clock shows around that moment. The search looks a day
further, and fails where the clock would leave the years 1 to 9999 there.
-/

namespace RemoteRead.Calendar

/-- A local time zone. -/
structure Zone where
  /-- How many seconds the clock is ahead of universal time, at each second since the start of 1970.
  -/
  ahead : Int → Int

/-- The year that a number of seconds since the start of 1970 lies in. -/
def yearOfSeconds (s : Int) : Int :=
  let days := s / 86400 + (epochDay - 1)
  400 * (days / 146097) + yearOfDay ((days % 146097).toNat + 1)

namespace Zone

/-- Universal time. -/
def utc : Zone := ⟨fun _ => 0⟩

/-- The zone of a clock that is never put forward or back. -/
def fixed (seconds : Int) : Zone := ⟨fun _ => seconds⟩

/-- What the clock shows at a time, both in seconds. It shows no other years than 1 to 9999. -/
def clock (z : Zone) (time : Int) : Except FieldError Int :=
  let shown := time + z.ahead time
  let year := yearOfSeconds shown
  if 1 ≤ year ∧ year ≤ 9999 then .ok shown else .error (.year year)

/-- How far the clock is ahead next to a candidate at which it shows `shownFirst`: there, or where
that is what was asked for a day before, or after if the later time is meant. -/
def aheadBeside (z : Zone) (fold : Bool) (shown first shownFirst : Int) : Except FieldError Int :=
  if shownFirst = shown then
    let neighbour := if fold then first + 86400 else first - 86400
    (z.clock neighbour).map (· - neighbour)
  else .ok (shownFirst - first)

/-- The time at which the clock shows the given seconds. The first candidate comes from how far the
clock is ahead where the seconds are taken for a time, the second from how far it is ahead beside
the first. If the clock shows the seconds at neither, they are skipped; then the candidate on the
far side counts. -/
def timeOf (z : Zone) (fold : Bool) (shown : Int) : Except FieldError Int := do
  let ahead := (← z.clock shown) - shown
  let first := shown - ahead
  let shownFirst ← z.clock first
  let other ← z.aheadBeside fold shown first shownFirst
  if ahead = other then return first
  let second := shown - other
  let shownSecond ← z.clock second
  return if shownSecond = shown then second
    else if shownFirst = shown then first
    else if fold then min first second else max first second

end Zone

/-- The seconds from the start of 1970 as a double. Without an offset the rounded fraction of a
second is added to the whole seconds; with one, the microseconds are divided at once. -/
def Moment.timestamp (z : Zone) (t : Moment) : Except FieldError Binary64 :=
  match t.offset with
  | none =>
    (z.timeOf t.fold t.localSeconds).map fun seconds =>
      (Binary64.ofInt seconds).add (Binary64.ofRatio false t.time.micro 1000000)
  | some offset =>
    let micros := t.localSeconds * 1000000 + t.time.micro - offset
    .ok (Binary64.ofRatio (micros < 0) micros.natAbs 1000000)

end RemoteRead.Calendar
