import Mathlib.Tactic.SplitIfs
import RemoteRead.Proofs.Metric.Name
import RemoteRead.Proofs.Outcome
import RemoteRead.Statement

/-!
# What a successful compilation consists of

`Query.compile_eq_ok_iff` takes the compilation of a query apart: the range is in order, the first
matcher about the name of the metric denotes one, every other matcher has a predicate, and the
statement is assembled from these parts. The parts come from checked names: a metric is well formed
(`Metric.wellFormed_of_ofName`), and a predicate has an accepted label
(`LabelMatcher.predicate_eq_ok_iff`).
-/

namespace RemoteRead

open Outcome
open Identifier (accepts acceptsWord)

/-! ## Metrics -/

/-- The names of a metric are those that the patterns accept. -/
structure Metric.WellFormed (m : Metric) : Prop where
  /-- The name is an identifier. -/
  name : accepts m.name = true
  /-- So is the table, if there is one. -/
  table : m.isResolved = true → accepts m.table = true
  /-- A data source is a word. -/
  dataSource : m.dataSource.isEmpty = false → acceptsWord m.dataSource = true

/-- What a name denotes is well formed. -/
theorem Metric.wellFormed_of_ofName {databases : Registry} {name : Text} {m : Metric}
    (h : Metric.ofName databases name = .ok m) : m.WellFormed := by
  rcases Metric.ofName_eq_ok_iff.mp h with ⟨-, haccepts, rfl⟩ | ⟨-, hm, -⟩
  · -- A view has neither a table nor a data source.
    refine ⟨haccepts, fun hresolved => ?_, fun hsource => ?_⟩
    · simp [isResolved] at hresolved
    · simp at hsource
  · refine ⟨hm.name, fun _ => hm.table, fun hsource => hm.dataSource.resolve_left ?_⟩
    rintro hempty
    simp [hempty] at hsource

/-! ## Matchers -/

/-- A matcher has a predicate exactly when its type is known and its label accepted. -/
theorem LabelMatcher.predicate_eq_ok_iff {m : LabelMatcher} {metric : Option Metric}
    {systemDatabase text : Text} :
    m.predicate metric systemDatabase = .ok text ↔ ∃ comparison,
      Comparison.ofNumber? m.type = some comparison ∧ accepts m.name = true ∧
        text = columnReference m.name metric systemDatabase ++ comparison.operator ++
          quoteLiteral m.value := by
  unfold predicate
  cases Comparison.ofNumber? m.type with
  | none => simp
  | some comparison =>
    cases accepts m.name
    · simp
    · simp [eq_comm]

/-- The predicates of a query are those of its matchers about other labels than the metric's. -/
theorem LabelMatcher.predicates_eq_ok_iff {matchers : List LabelMatcher} {metric : Option Metric}
    {systemDatabase : Text} {texts : List Text} :
    LabelMatcher.predicates matchers metric systemDatabase = .ok texts ↔
      List.Forall₂ (fun m text => LabelMatcher.predicate m metric systemDatabase = .ok text)
        (matchers.filter fun m => !m.isMetricName) texts := by
  unfold predicates
  exact mapM_eq_ok_iff

/-! ## Queries -/

variable {q : Query} {config : Config} {metric : Metric}

/-- The metric of a query is what its first matcher about the metric's name denotes. -/
theorem Query.metric_eq_some_iff :
    q.metric config = .ok (some metric) ↔
      ∃ m, q.matchers.find? LabelMatcher.isMetricName = some m ∧
        Metric.ofName config.databases m.value = .ok metric := by
  unfold Query.metric
  cases q.matchers.find? LabelMatcher.isMetricName with
  | none => simp
  | some m =>
    cases hm : Metric.ofName config.databases m.value <;> simp [hm, Except.map]

/-- A query is compiled exactly when its range is in order, it has a metric, and its other matchers
have predicates; the statement is assembled from these. -/
theorem Query.compile_eq_ok_iff {catalog : Option TagCatalog} {compiled : CompiledQuery}
    {calls : List CatalogCall} :
    q.compile config catalog = .ok (compiled, calls) ↔ ∃ metric predicates range,
      range = TimeRange.ofMillis q.startMs q.endMs ∧ range.start ≤ range.stop ∧
      q.metric config = .ok (some metric) ∧
      LabelMatcher.predicates q.matchers (some metric) config.systemDatabase = .ok predicates ∧
      calls = (expandTags metric range config catalog).2 ∧
      compiled = {
        sql := assemble metric
          (timeSelection :: metric.selection :: (expandTags metric range config catalog).1)
          (range.predicate :: predicates) config
        database := metric.database
        dataSource := metric.dataSource
        metric
        range } := by
  unfold Query.compile
  dsimp only
  constructor
  · intro h
    split_ifs at h with hrange
    · simp [throw, throwThe, MonadExceptOf.throw, bind_eq_ok_iff] at h
    · simp only [bind_eq_ok_iff] at h
      obtain ⟨metric?, hmetric, predicates, hpredicates, h⟩ := h
      cases metric? with
      | none =>
        -- Without a metric the predicates are made, but the query is refused.
        simp [throw, throwThe, MonadExceptOf.throw] at h
      | some metric =>
        obtain ⟨hcompiled, hcalls⟩ := Prod.mk.inj (pure_eq_ok_iff.mp h)
        exact ⟨metric, predicates, _, rfl, Int.not_lt.mp hrange, hmetric, hpredicates,
          hcalls.symm, hcompiled.symm⟩
  · rintro ⟨metric, predicates, range, rfl, hrange, hmetric, hpredicates, rfl, rfl⟩
    rw [if_neg (Int.not_lt.mpr hrange)]
    simp only [bind_eq_ok_iff]
    exact ⟨some metric, hmetric, predicates, hpredicates, rfl⟩

end RemoteRead
