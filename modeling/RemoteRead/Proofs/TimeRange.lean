import RemoteRead.Proofs.Compile.Refusal
import RemoteRead.Proofs.Number.Digits
import RemoteRead.Proofs.Series.Grouping
import RemoteRead.Proofs.Sql.Statement

/-!
# Rounded time ranges

A range of milliseconds is asked for, and a range of whole seconds is selected. The second covers
the first (`contains_ofMillis`) and reaches out of it by less than a second on either side
(`near_of_contains_ofMillis`), wherever the bounds lie. Both come from what cutting toward zero does
to a bound: it keeps the order (`tdiv_le_of_le`, `le_tdiv_of_le`) and moves it by less than a second
(`tdiv_near`).

The statement gives the range as a text. `Sql.holdsAt?` reads the tokens of this text as a condition
on a second, and `holdsAt?_predicate` says that the condition is the range. `rounded_range_fits`
puts this together with the samples that are decoded from the selected rows, and with the requests
that are refused for their range.
-/

namespace RemoteRead

open Outcome

namespace TimeRange

/-- A whole second lies in a range. -/
def Contains (r : TimeRange) (second : Int) : Prop := r.start ≤ second ∧ second ≤ r.stop

/-- Whether a second is in a range can be decided. -/
instance (r : TimeRange) (second : Int) : Decidable (r.Contains second) :=
  inferInstanceAs (Decidable (_ ∧ _))

/-! ## Rounding -/

variable {startMs endMs second n : Int}

/-- A bound that is not behind a whole second is not cut to a later one. -/
theorem tdiv_le_of_le (h : n ≤ 1000 * second) : n.tdiv 1000 ≤ second := by
  have hcut : n.tdiv 1000 ≤ (1000 * second).tdiv 1000 := Int.tdiv_le_tdiv (by decide) h
  rwa [Int.mul_tdiv_cancel_left second (by decide)] at hcut

/-- A bound that is not before a whole second is not cut to an earlier one. -/
theorem le_tdiv_of_le (h : 1000 * second ≤ n) : second ≤ n.tdiv 1000 := by
  have hcut : (1000 * second).tdiv 1000 ≤ n.tdiv 1000 := Int.tdiv_le_tdiv (by decide) h
  rwa [Int.mul_tdiv_cancel_left second (by decide)] at hcut

/-- What the cut leaves is the remainder. -/
theorem tmod_eq (n : Int) : n.tmod 1000 = n - 1000 * n.tdiv 1000 := by
  have hsum := Int.mul_tdiv_add_tmod n 1000
  omega

/-- A bound is cut by less than a second. -/
theorem tdiv_near (n : Int) : n - 1000 < 1000 * n.tdiv 1000 ∧ 1000 * n.tdiv 1000 < n + 1000 := by
  have hlow := Int.lt_tmod_of_pos n (b := 1000) (by decide)
  have hhigh := Int.tmod_lt_of_pos n (b := 1000) (by decide)
  rw [tmod_eq] at hlow hhigh
  omega

/-- The last second is the cut end, or the one behind it where the end is positive and was cut. -/
theorem stop_cases (startMs endMs : Int) :
    (ofMillis startMs endMs).stop = endMs.tdiv 1000 ∨
      (1000 * endMs.tdiv 1000 < endMs ∧
        (ofMillis startMs endMs).stop = endMs.tdiv 1000 + 1) := by
  have hstop : (ofMillis startMs endMs).stop =
      endMs.tdiv 1000 + if 0 < endMs ∧ endMs.tmod 1000 ≠ 0 then 1 else 0 := rfl
  rw [hstop]
  split_ifs with hcut
  · -- The remainder of a positive end is not negative, and here it is not zero.
    have hremainder := Int.tmod_nonneg 1000 (Int.le_of_lt hcut.1)
    rw [tmod_eq] at hremainder hcut
    exact .inr ⟨by omega, rfl⟩
  · exact .inl (Int.add_zero _)

/-- The last second is not before the cut end. -/
theorem tdiv_le_stop (startMs endMs : Int) :
    endMs.tdiv 1000 ≤ (ofMillis startMs endMs).stop := by
  rcases stop_cases startMs endMs with hstop | ⟨-, hstop⟩ <;> omega

/-- Every whole second between the bounds is in the rounded range. -/
theorem contains_ofMillis (hstart : startMs ≤ 1000 * second) (hend : 1000 * second ≤ endMs) :
    (ofMillis startMs endMs).Contains second :=
  ⟨tdiv_le_of_le hstart, Int.le_trans (le_tdiv_of_le hend) (tdiv_le_stop startMs endMs)⟩

/-- Every whole second in the rounded range is less than a second out of the bounds. -/
theorem near_of_contains_ofMillis (h : (ofMillis startMs endMs).Contains second) :
    startMs - 1000 < 1000 * second ∧ 1000 * second < endMs + 1000 := by
  have hstart : startMs.tdiv 1000 ≤ second := h.1
  have hnearStart := tdiv_near startMs
  have hnearEnd := tdiv_near endMs
  have hend := h.2
  refine ⟨by omega, ?_⟩
  rcases stop_cases startMs endMs with hstop | ⟨hcut, hstop⟩ <;> omega

/-- Rounding keeps the order of the bounds, also where no whole second is between them. -/
theorem start_le_stop (h : startMs ≤ endMs) :
    (ofMillis startMs endMs).start ≤ (ofMillis startMs endMs).stop := by
  have hcut : startMs.tdiv 1000 ≤ endMs.tdiv 1000 := Int.tdiv_le_tdiv (by decide) h
  exact Int.le_trans hcut (tdiv_le_stop startMs endMs)

/-- Bounds two seconds the wrong way round stay so. -/
theorem stop_lt_start (h : endMs + 2000 ≤ startMs) :
    (ofMillis startMs endMs).stop < (ofMillis startMs endMs).start := by
  by_contra hordered
  -- Otherwise the first second would be in the range, and so near both bounds.
  have hfirst : (ofMillis startMs endMs).Contains (ofMillis startMs endMs).start :=
    ⟨Int.le_refl _, Int.not_lt.mp hordered⟩
  have hnear := near_of_contains_ofMillis hfirst
  omega

end TimeRange

/-! ## The condition of the statement -/

namespace Sql

/-- The tokens behind a given one. -/
def behind? (token : Token) : List Token → Option (List Token)
  | [] => none
  | t :: rest => if t = token then some rest else none

/-- The integer in front, with its sign, and the tokens behind it. -/
def integer? : List Token → Option (Int × List Token)
  | .number digits :: rest => some (Number.digitsVal digits, rest)
  | .mark sign :: .number digits :: rest =>
    if sign = Text.ofString "-" then some (-Number.digitsVal digits, rest) else none
  | _ => none

/-- Whether the bound on the time in front holds at a second, and the tokens behind it. -/
def bound? (second : Int) (tokens : List Token) : Option (Bool × List Token) :=
  match behind? (.word "time") tokens with
  | some (.mark comparison :: rest) => do
    let (limit, rest) ← integer? rest
    if comparison = Text.ofString ">=" then some (decide (limit ≤ second), rest)
    else if comparison = Text.ofString "<=" then some (decide (second ≤ limit), rest)
    else none
  | _ => none

/-- Whether a condition holds at a second: two bounds on the time in parentheses. -/
def holdsAt? (second : Int) (tokens : List Token) : Option Bool := do
  let rest ← behind? (.mark "(") tokens
  let (first, rest) ← bound? second rest
  let rest ← behind? (.word "AND") rest
  let (last, rest) ← bound? second rest
  let rest ← behind? (.mark ")") rest
  if rest.isEmpty then some (first && last) else none

/-- An integer is read back from its tokens. -/
theorem integer?_integerTokens (n : Int) (rest : List Token) :
    integer? (integerTokens n ++ rest) = some (n, rest) := by
  unfold integerTokens
  split_ifs with hsign
  · -- A negative number is its sign and its digits.
    have hvalue : -((n.natAbs : Nat) : Int) = n := by omega
    simp only [List.cons_append, List.nil_append, integer?, Number.digitsVal_ofNat, hvalue,
      if_true]
  · have hvalue : ((n.natAbs : Nat) : Int) = n := by omega
    simp only [List.cons_append, List.nil_append, integer?, Number.digitsVal_ofNat, hvalue]

/-- The predicate of a range is a condition that holds at the seconds of the range. -/
theorem holdsAt?_predicate (r : TimeRange) (second : Int) :
    holdsAt? second (lex r.predicate) = some (decide (r.Contains second)) := by
  have htokens : lex r.predicate = .mark "(" :: .word "time" :: .mark ">=" ::
      (integerTokens r.start ++ .word "AND" :: .word "time" :: .mark "<=" ::
        (integerTokens r.stop ++ [.mark ")"])) := (phrase_range r).lex_eq
  have hne : Text.ofString "<=" ≠ Text.ofString ">=" := by decide
  have hboth : decide (r.Contains second) =
      (decide (r.start ≤ second) && decide (second ≤ r.stop)) := Bool.decide_and _ _
  rw [htokens, hboth]
  simp [holdsAt?, behind?, bound?, integer?_integerTokens, hne]

end Sql

/-! ## Requests and samples -/

/-- The rows of a table that answers a statement: the second that the time cell of a row holds meets
the condition of the range. -/
def ResultSet.SelectedBy [Host] (result : ResultSet) (r : TimeRange) : Prop :=
  ∀ layout row cell second, Layout.locate result.columns = .ok layout → row ∈ result.rows →
    row[layout.timeIndex]? = some cell → cell.seconds = .ok second →
      Sql.holdsAt? second (Sql.lex r.predicate) = some true

/-- The samples of selected rows are at seconds of the range. -/
theorem ResultSet.SelectedBy.contains [Host] {result : ResultSet} {r : TimeRange} {limit : Int}
    {response : ReadResponse} (h : result.SelectedBy r)
    (hdecode : result.decode limit = .ok response) :
    ∀ answer ∈ response.results, ∀ series ∈ answer.timeseries, ∀ sample ∈ series.samples,
      ∃ second, sample.timestamp = 1000 * second ∧ r.Contains second := by
  obtain ⟨layout, kind, keys, all, hlayout, -, -, hseries, rfl⟩ := IsGrouping.of_decode hdecode
  intro answer hanswer series hmem sample hsample
  obtain rfl := List.mem_singleton.mp hanswer
  -- The sample is that of a row, and its time that of the row's time cell.
  obtain ⟨key, -, hof⟩ := exists_of_mem_right hseries hmem
  obtain ⟨row, hrow, hcontributes⟩ := exists_of_mem_right hof.samples hsample
  obtain ⟨cell, second, hcell, hseconds, htimestamp⟩ := hcontributes.timestamp
  have hholds := h layout row cell second hlayout (List.mem_of_mem_filter hrow) hcell hseconds
  rw [Sql.holdsAt?_predicate] at hholds
  exact ⟨second, htimestamp, of_decide_eq_true (Option.some.inj hholds)⟩

/-- Only a query that ends before it starts is refused for its range. -/
theorem Query.Refused.range_inverted {q : Query} {config : Config} {start stop : Value}
    (h : q.Refused config (.invalidTimeRange start stop)) : q.range.stop < q.range.start := by
  cases h with
  | range h => exact h
  | matcher _ _ hflaw =>
    -- No flaw of a matcher is about the range.
    obtain ⟨_, _, _, -, -, hflaw, -⟩ := hflaw
    cases hflaw

/-- Rounding the bounds of a query loses no whole second and adds less than one on either side. The
rows that meet the condition of the statement are those at the seconds of the rounded range, so
their samples are less than a second out of the bounds. A query with ordered bounds is not refused
for its range, and one with bounds two seconds the wrong way round is. -/
theorem TimeRange.rounded_range_fits [Host] (startMs endMs : Int) :
    (∀ second, startMs ≤ 1000 * second → 1000 * second ≤ endMs →
      (ofMillis startMs endMs).Contains second) ∧
    (∀ second, (ofMillis startMs endMs).Contains second →
      startMs - 1000 < 1000 * second ∧ 1000 * second < endMs + 1000) ∧
    (∀ second, Sql.holdsAt? second (Sql.lex (ofMillis startMs endMs).predicate) =
      some (decide ((ofMillis startMs endMs).Contains second))) ∧
    (∀ (result : ResultSet) limit response, result.SelectedBy (ofMillis startMs endMs) →
      result.decode limit = .ok response →
        ∀ answer ∈ response.results, ∀ series ∈ answer.timeseries, ∀ sample ∈ series.samples,
          startMs - 1000 < sample.timestamp ∧ sample.timestamp < endMs + 1000) ∧
    (∀ (q : Query) config catalog, q.startMs = startMs → q.endMs = endMs →
      (startMs ≤ endMs → ∀ start stop,
        q.compile config catalog ≠ .error (.invalidTimeRange start stop)) ∧
      (endMs + 2000 ≤ startMs → q.compile config catalog =
        .error (.invalidTimeRange (.int (ofMillis startMs endMs).start)
          (.int (ofMillis startMs endMs).stop)))) := by
  refine ⟨fun _ => contains_ofMillis, fun _ => near_of_contains_ofMillis,
    Sql.holdsAt?_predicate _, ?_, ?_⟩
  · -- The samples of the rows that meet the condition.
    intro result limit response hselected hdecode answer hanswer series hseries sample hsample
    obtain ⟨second, htimestamp, hcontains⟩ :=
      hselected.contains hdecode answer hanswer series hseries sample hsample
    rw [htimestamp]
    exact near_of_contains_ofMillis hcontains
  · -- What is refused for its range.
    rintro q config catalog rfl rfl
    refine ⟨fun hordered start stop hrefused => ?_, fun hinverted => ?_⟩
    · have hrange := (Query.compile_eq_error_iff.mp hrefused).range_inverted
      exact absurd (start_le_stop hordered) (Int.not_le.mpr hrange)
    · exact Query.compile_eq_error_iff.mpr (.range (stop_lt_start hinverted))

/-- A table with a row before 1970 and one behind it. -/
def epochTable : ResultSet where
  columns := [.text timeColumn, .text "metrics.up"]
  kinds := [.int, .int]
  rows := [[.int (-1), .int 1], [.int 3, .int 0]]
  query := []

/-- Its only series. -/
def epochSeries : TimeSeries where
  labels := [⟨metricNameLabel, "up"⟩]
  samples := [⟨Binary64.ofInt 1, -1000⟩, ⟨Binary64.ofInt 0, 3000⟩]

-- From here on the host is a concrete one.
attribute [local instance] Host.utc

/-- The table is decoded to its series. -/
theorem decode_epochTable : epochTable.decode 10 = .ok ⟨[⟨[epochSeries]⟩]⟩ := rfl

/-- Both rows are in the rounded range. -/
theorem selectedBy_epochTable : epochTable.SelectedBy (TimeRange.ofMillis (-1500) 2001) := by
  intro layout row cell second hlayout hrow hcell hsecond
  obtain rfl : ⟨"up", 1, 0, none, []⟩ = layout := Except.ok.inj hlayout
  rw [Sql.holdsAt?_predicate]
  simp only [epochTable, List.mem_cons, List.not_mem_nil, or_false] at hrow
  rcases hrow with rfl | rfl <;> obtain rfl := Option.some.inj hcell <;>
    obtain rfl := Except.ok.inj hsecond <;> rfl

/-- The query for the range of the table. -/
def epochQuery : Query where
  startMs := -1500
  endMs := 2001

/-- Bounds on both sides of 1970, the end moved up to the next second, and bounds the wrong way
round. -/
theorem rounded_range_fits_epoch :
    (TimeRange.ofMillis (-1500) 2001).Contains (-1) ∧
    (-2500 < (1000 * 3 : Int) ∧ (1000 * 3 : Int) < 3001) ∧
    epochTable.SelectedBy (TimeRange.ofMillis (-1500) 2001) ∧
    epochTable.decode 10 = .ok ⟨[⟨[epochSeries]⟩]⟩ ∧
    (∀ sample ∈ epochSeries.samples, -2500 < sample.timestamp ∧ sample.timestamp < 3001) ∧
    (∀ start stop, epochQuery.compile {} none ≠ .error (.invalidTimeRange start stop)) ∧
    ({ startMs := 500, endMs := -1500 } : Query).compile {} none =
      .error (.invalidTimeRange (.int 0) (.int (-1))) := by
  obtain ⟨hcovers, hnear, -, hsamples, hqueries⟩ := TimeRange.rounded_range_fits (-1500) 2001
  obtain ⟨-, -, -, -, hinverted⟩ := TimeRange.rounded_range_fits 500 (-1500)
  refine ⟨hcovers (-1) (by decide) (by decide), hnear 3 (by decide), selectedBy_epochTable,
    decode_epochTable, ?_, ?_, ?_⟩
  · exact hsamples epochTable 10 _ selectedBy_epochTable decode_epochTable ⟨[epochSeries]⟩
      List.mem_cons_self epochSeries List.mem_cons_self
  · exact (hqueries epochQuery {} none rfl rfl).1 (by decide)
  · exact (hinverted _ {} none rfl rfl).2 (by decide)

end RemoteRead
