import RemoteRead.Calendar.Zone
import RemoteRead.Proofs.Outcome

/-!
# Local time

What the search for the time of a moment comes to, in every zone. A time that is found is one at
which the clock shows the moment, unless the clock skips it (`clock_or_skips_of_timeOf`). The search
fails only where the clock would pass into a year that no clock shows (`raises_timeOf`), and with it
only the timestamp of a moment without an offset (`Moment.timestamp_eq_error_iff`). Where the clock
is always ahead by the same, the time is that much earlier, and it is said what the clock has to
show for it to be found (`timeOf_fixed_eq_ok_iff`).
-/

namespace RemoteRead.Calendar

open Outcome

namespace Zone

variable {z : Zone} {fold : Bool} {shown time : Int}

/-- The years that a clock shows. -/
def IsYear (year : Int) : Prop := 1 ≤ year ∧ year ≤ 9999

/-- A fault over a year that no clock shows. -/
def IsBeyond (e : FieldError) : Prop := ∃ year, e = .year year ∧ ¬ IsYear year

/-- A clock is ahead by what its zone says, in a year that it shows. -/
theorem clock_eq_ok_iff :
    z.clock time = .ok shown ↔ shown = time + z.ahead time ∧ IsYear (yearOfSeconds shown) := by
  unfold clock
  dsimp only
  split_ifs with hyear
  · rw [Except.ok.injEq]
    constructor
    · rintro rfl
      exact ⟨rfl, hyear⟩
    · rintro ⟨rfl, -⟩
      rfl
  · refine iff_of_false nofun ?_
    rintro ⟨rfl, hyear'⟩
    exact hyear hyear'

/-- A clock shows nothing only in years that no clock shows. -/
theorem raises_clock (time : Int) : Raises IsBeyond (z.clock time) := by
  unfold clock
  dsimp only
  split_ifs with hyear
  · exact .ok _
  · exact .error ⟨_, rfl, hyear⟩

/-- Beside a candidate the clock fails to show only what it does not show anywhere. -/
theorem raises_aheadBeside (fold : Bool) (shown first shownFirst : Int) :
    Raises IsBeyond (z.aheadBeside fold shown first shownFirst) := by
  rw [aheadBeside]
  by_cases hshown : shownFirst = shown
  · rw [if_pos hshown]
    exact (raises_clock _).map
  · rw [if_neg hshown]
    exact .ok _

/-- No time is found only over a year that no clock shows. -/
theorem raises_timeOf (fold : Bool) (shown : Int) : Raises IsBeyond (z.timeOf fold shown) := by
  unfold timeOf
  refine (raises_clock _).bind fun there _ => (raises_clock _).bind fun shownFirst _ =>
    (raises_aheadBeside _ _ _ _).bind fun other _ => ?_
  by_cases hsame : there - shown = other
  · rw [if_pos hsame]
    exact .ok _
  · rw [if_neg hsame]
    exact (raises_clock _).bind fun _ _ => .ok _

/-- A second measure that agrees with the first was taken at a candidate at which the clock shows
what was asked for. -/
theorem eq_of_aheadBeside {there shownFirst : Int}
    (h : z.aheadBeside fold shown (shown - (there - shown)) shownFirst = .ok (there - shown)) :
    shownFirst = shown := by
  by_contra hshown
  rw [aheadBeside, if_neg hshown, Except.ok.injEq] at h
  omega

/-- A clock skips what was asked for: it shows that at neither of two candidates. The first comes
from how far the clock is ahead where what was asked for is read as a time, the second from how far
it is ahead at the first. -/
structure Skips (z : Zone) (shown first second : Int) : Prop where
  /-- Where the first candidate comes from. -/
  ahead_there : ∃ there, z.clock shown = .ok there ∧ first = shown - (there - shown)
  /-- What the clock shows at the first candidate, and where the second comes from. -/
  ahead_first : ∃ shownFirst, z.clock first = .ok shownFirst ∧ shownFirst ≠ shown ∧
    second = shown - (shownFirst - first)
  /-- What the clock shows at the second candidate. -/
  skipped : ∃ shownSecond, z.clock second = .ok shownSecond ∧ shownSecond ≠ shown

/-- At a time that is found the clock shows what was asked for, unless it skips that; then the time
is the candidate on the far side. -/
theorem clock_or_skips_of_timeOf (h : z.timeOf fold shown = .ok time) :
    z.clock time = .ok shown ∨ ∃ first second, z.Skips shown first second ∧
      time = if fold then min first second else max first second := by
  obtain ⟨there, hthere, h⟩ := bind_eq_ok_iff.mp h
  obtain ⟨shownFirst, hfirst, h⟩ := bind_eq_ok_iff.mp h
  obtain ⟨other, hother, h⟩ := bind_eq_ok_iff.mp h
  by_cases hsame : there - shown = other
  · rw [if_pos hsame, pure_eq_ok_iff] at h
    obtain rfl := hsame
    obtain rfl := h
    exact .inl (eq_of_aheadBeside hother ▸ hfirst)
  rw [if_neg hsame] at h
  obtain ⟨shownSecond, hsecond, h⟩ := bind_eq_ok_iff.mp h
  obtain rfl := pure_eq_ok_iff.mp h
  by_cases hatSecond : shownSecond = shown
  · rw [if_pos hatSecond]
    exact .inl (hatSecond ▸ hsecond)
  rw [if_neg hatSecond]
  by_cases hatFirst : shownFirst = shown
  · rw [if_pos hatFirst]
    exact .inl (hatFirst ▸ hfirst)
  · -- The second measure was taken at the first candidate.
    rw [aheadBeside, if_neg hatFirst, Except.ok.injEq] at hother
    rw [if_neg hatFirst]
    exact .inr ⟨_, _, ⟨⟨there, hthere, rfl⟩, ⟨shownFirst, hfirst, hatFirst, by rw [hother]⟩,
      shownSecond, hsecond, hatSecond⟩, rfl⟩

/-! ## Clocks that are never put forward or back -/

section Fixed

variable {seconds : Int}

/-- A clock that is always ahead by the same is ahead by that beside a candidate at which it shows
what was asked for. -/
theorem aheadBeside_fixed_eq_ok_iff {other : Int} :
    (fixed seconds).aheadBeside fold shown (shown - seconds) shown = .ok other ↔
      other = seconds ∧ IsYear (yearOfSeconds (if fold then shown + 86400 else shown - 86400)) := by
  have hneighbour : (if fold then shown - seconds + 86400 else shown - seconds - 86400) + seconds =
      if fold then shown + 86400 else shown - 86400 := by
    split_ifs <;> omega
  rw [aheadBeside, if_pos rfl]
  simp only [map_eq_ok_iff, clock_eq_ok_iff, fixed, ← hneighbour]
  constructor
  · rintro ⟨_, ⟨rfl, hyear⟩, rfl⟩
    exact ⟨by omega, hyear⟩
  · rintro ⟨rfl, hyear⟩
    exact ⟨_, ⟨rfl, hyear⟩, by omega⟩

/-- Where the clock is always ahead by the same, the time is that much earlier. It is found if the
clock shows the moment, the moment read as a time, and the moment a day off. -/
theorem timeOf_fixed_eq_ok_iff :
    (fixed seconds).timeOf fold shown = .ok time ↔ time = shown - seconds ∧
      IsYear (yearOfSeconds (shown + seconds)) ∧ IsYear (yearOfSeconds shown) ∧
        IsYear (yearOfSeconds (if fold then shown + 86400 else shown - 86400)) := by
  have hfirst : shown - (shown + seconds - shown) = shown - seconds := by omega
  have hback : shown - seconds + seconds = shown := by omega
  constructor
  · intro h
    obtain ⟨there, hthere, h⟩ := bind_eq_ok_iff.mp h
    obtain ⟨rfl, hyear⟩ : there = shown + seconds ∧ IsYear (yearOfSeconds there) :=
      clock_eq_ok_iff.mp hthere
    obtain ⟨shownFirst, hclock, h⟩ := bind_eq_ok_iff.mp h
    dsimp only at h
    rw [hfirst] at hclock h
    obtain ⟨hshown, hyear'⟩ := clock_eq_ok_iff.mp hclock
    obtain rfl : shownFirst = shown := hshown.trans hback
    obtain ⟨other, hother, h⟩ := bind_eq_ok_iff.mp h
    obtain ⟨rfl, hyear''⟩ := aheadBeside_fixed_eq_ok_iff.mp hother
    rw [if_pos (by omega), pure_eq_ok_iff] at h
    exact ⟨h.symm, hyear, hyear', hyear''⟩
  · -- The clock is asked at three places, in this order.
    rintro ⟨rfl, hyear, hyear', hyear''⟩
    refine bind_eq_ok_iff.mpr ⟨_, clock_eq_ok_iff.mpr ⟨rfl, hyear⟩, ?_⟩
    have hclock : (fixed seconds).clock (shown - seconds) = .ok shown :=
      clock_eq_ok_iff.mpr ⟨hback.symm, hyear'⟩
    dsimp only [fixed]
    rw [hfirst]
    refine bind_eq_ok_iff.mpr ⟨_, hclock, bind_eq_ok_iff.mpr
      ⟨_, aheadBeside_fixed_eq_ok_iff.mpr ⟨rfl, hyear''⟩, ?_⟩⟩
    rw [if_pos (by omega)]
    rfl

/-- The last hour before the year 10000: read as a time, a clock nine hours ahead shows it in that
year. -/
example : (⟨⟨9999, 12, 31⟩, ⟨23, 0, 0, 0⟩, none, false⟩ : Moment).timestamp (fixed 32400) =
    .error (.year 10000) := rfl

end Fixed

end Zone

/-- A moment lacks a timestamp only if it has no offset and the zone finds no time for it. -/
theorem Moment.timestamp_eq_error_iff {z : Zone} {m : Moment} {e : FieldError} :
    m.timestamp z = .error e ↔ m.offset = none ∧ z.timeOf m.fold m.localSeconds = .error e := by
  unfold timestamp
  cases m.offset with
  | none => cases z.timeOf m.fold m.localSeconds <;> simp [Except.map]
  | some offset => simp

end RemoteRead.Calendar
