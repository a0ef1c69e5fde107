import RemoteRead.Proofs.Series.Grouping

/-!
# A smaller cap cuts an answer short

The admissible keys under a smaller limit are the first of those under a larger one
(`admissible_of_le`), and what the series of a key is does not depend on the limit. So the grouping
of a table under a smaller limit is the beginning of its grouping under a larger one
(`IsGrouping.of_le`), and since decoding succeeds exactly with the grouping, it succeeds under the
smaller limit wherever it does under the larger (`cap_only_truncates`): what only a rejected row
would have shown to be unreadable is never read.
-/

namespace RemoteRead

open Outcome Accumulator

/-- Under a smaller limit the admissible keys are the first of those under a larger one. -/
theorem Accumulator.admissible_of_le {limit limit' : Int} (h : limit ≤ limit')
    (offered : List Text) :
    admissible limit offered = (admissible limit' offered).take limit.toNat := by
  unfold admissible
  rw [List.take_take, Nat.min_eq_left (Int.toNat_le_toNat h)]

/-- Under a smaller limit a table has the beginning of its grouping. -/
theorem IsGrouping.of_le [Host] {result : ResultSet} {limit limit' : Int} (hle : limit ≤ limit')
    {response : ReadResponse} (h : IsGrouping result limit' response) :
    ∃ series, response = ⟨[⟨series⟩]⟩ ∧
      IsGrouping result limit ⟨[⟨series.take limit.toNat⟩]⟩ := by
  obtain ⟨layout, kind, keys, series, hlayout, hkind, hread, hseries, rfl⟩ := h
  refine ⟨series, rfl, layout, kind, keys, _, hlayout, hkind, hread, ?_, rfl⟩
  rw [admissible_of_le hle]
  exact List.forall₂_take _ hseries

/-- The cap only truncates: a table that is decoded under a limit is decoded under every smaller
one, and its series are then the first of those that it has under the larger limit, with the same
labels and samples. -/
theorem cap_only_truncates [Host] (result : ResultSet) (limit limit' : Int) (hle : limit ≤ limit')
    (response : ReadResponse) (h : result.decode limit' = .ok response) :
    ∃ series, response = ⟨[⟨series⟩]⟩ ∧
      result.decode limit = .ok ⟨[⟨series.take (min limit.toNat series.length)⟩]⟩ := by
  obtain ⟨series, hresponse, hgrouping⟩ := ((decode_eq_ok_iff _ _ _).mp h).of_le hle
  refine ⟨series, hresponse, ?_⟩
  rw [← List.take_eq_take_min]
  exact (decode_eq_ok_iff _ _ _).mpr hgrouping

-- From here on the host is a concrete one.
attribute [local instance] Host.utc

/-- A table whose rows of two pods alternate. -/
def alternatingTable : ResultSet where
  columns := [.text timeColumn, .text "metrics.load", .text "pod"]
  kinds := [.int, .int, .text]
  rows := [
    [.int 1, .int 5, .text "x"],
    [.int 1, .int 6, .text "y"],
    [.int 2, .int 7, .text "x"],
    [.int 2, .int 8, .text "y"]]
  query := []

/-- The series of a pod with the given samples, each a value and a time. -/
def podSeries (pod : Text) (samples : List (Int × Int)) : TimeSeries where
  labels := [⟨metricNameLabel, "load"⟩, ⟨"pod", pod⟩]
  samples := samples.map fun (value, ms) => ⟨Binary64.ofInt value, ms⟩

/-- Each pod has the samples of its own rows. -/
theorem decode_alternatingTable :
    alternatingTable.decode 2 =
      .ok ⟨[⟨[podSeries "x" [(5, 1000), (7, 2000)], podSeries "y" [(6, 1000), (8, 2000)]]⟩]⟩ := rfl

/-- Under a cap of one series, the first pod keeps both of its samples. -/
theorem cap_only_truncates_alternating :
    (1 : Int) ≤ 2 ∧
    alternatingTable.decode 2 =
      .ok ⟨[⟨[podSeries "x" [(5, 1000), (7, 2000)], podSeries "y" [(6, 1000), (8, 2000)]]⟩]⟩ ∧
    alternatingTable.decode 1 = .ok ⟨[⟨[podSeries "x" [(5, 1000), (7, 2000)]]⟩]⟩ := by
  obtain ⟨series, hresponse, htruncated⟩ :=
    cap_only_truncates alternatingTable 1 2 (by decide) _ decode_alternatingTable
  obtain rfl : [podSeries "x" [(5, 1000), (7, 2000)], podSeries "y" [(6, 1000), (8, 2000)]] =
      series := by simpa using hresponse
  exact ⟨by decide, decode_alternatingTable, htruncated⟩

end RemoteRead
