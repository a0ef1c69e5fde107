import RemoteRead.Proofs.Compile.Refusal

/-!
# The metric is selected, not matched

The metric of a query is the one that the value of its first matcher about the metric's name
denotes. How this matcher compares, and what further matchers about the name ask for, makes no
difference: `metric_of_first_name` shows that the query is compiled as if it asked for that name and
nothing else of the name. So a query can be answered with a metric that its own matchers exclude
(`excluded_metric_selected`).
-/

namespace RemoteRead

open Outcome

/-- A value meets what the matchers of a query ask of the metric's name, by equality or inequality;
all of these matchers are of a known type. -/
structure Query.NameMet (q : Query) (value : Text) : Prop where
  /-- The types are those of comparisons. -/
  type : ∀ m ∈ q.matchers, m.isMetricName = true →
    ∃ comparison : Comparison, m.type = comparison.number
  /-- A name that is asked for is the value. -/
  equal : ∀ m ∈ q.matchers, m.isMetricName = true → m.type = Comparison.equal.number →
    m.value = value
  /-- A name that is excluded is not. -/
  notEqual : ∀ m ∈ q.matchers, m.isMetricName = true → m.type = Comparison.notEqual.number →
    m.value ≠ value

/-- The matcher that asks for a name of the metric. -/
def LabelMatcher.named (value : Text) : LabelMatcher :=
  ⟨Comparison.equal.number, metricNameLabel, value⟩

/-- The query that asks for a name of the metric in place of all its matchers about it. -/
def Query.selecting (q : Query) (value : Text) : Query :=
  { q with matchers := .named value :: q.matchers.filter fun m => !m.isMetricName }

variable {q : Query} {config : Config} {catalog : Option TagCatalog}

/-- A matcher made for the name of the metric is one. -/
@[simp]
theorem LabelMatcher.isMetricName_named (value : Text) : (named value).isMetricName = true := by
  rw [isMetricName, named, beq_self_eq_true]

/-- The name that a query asks for in place of all others meets its matchers. -/
theorem Query.nameMet_selecting (q : Query) (value : Text) : (q.selecting value).NameMet value := by
  -- Its only matcher about the name is the one that asks for the value.
  have honly : ∀ m ∈ (q.selecting value).matchers, m.isMetricName = true → m = .named value := by
    intro m hm hname
    rcases List.mem_cons.mp hm with rfl | hm
    · rfl
    · obtain ⟨-, hother⟩ := List.mem_filter.mp hm
      rw [hname] at hother
      cases hother
  refine ⟨fun m hm hname => ?_, fun m hm hname _ => ?_, fun m hm hname htype => ?_⟩
  · rw [honly m hm hname]
    exact ⟨.equal, rfl⟩
  · rw [honly m hm hname]
    rfl
  · rw [honly m hm hname] at htype
    have hsame : Comparison.equal.number = Comparison.notEqual.number := htype
    exact absurd hsame (by decide)

/-- The matchers about other labels are kept. -/
theorem Query.predicates_selecting (q : Query) (value : Text) (metric? : Option Metric)
    (systemDatabase : Text) :
    LabelMatcher.predicates (q.selecting value).matchers metric? systemDatabase =
      LabelMatcher.predicates q.matchers metric? systemDatabase := by
  unfold LabelMatcher.predicates selecting
  rw [List.filter_cons_of_neg (by simp), List.filter_filter]
  simp only [Bool.and_self]

/-- The metric is that of the name asked for. -/
theorem Query.metric_selecting {first : LabelMatcher}
    (hfirst : q.matchers.find? LabelMatcher.isMetricName = some first) :
    (q.selecting first.value).metric config = q.metric config := by
  unfold Query.metric
  have hnamed : (q.selecting first.value).matchers.find? LabelMatcher.isMetricName =
      some (.named first.value) :=
    List.find?_cons_of_pos (LabelMatcher.isMetricName_named first.value)
  rw [hfirst, hnamed]
  rfl

/-- A query reads the metric that its first matcher about the metric's name has as its value. It is
compiled, or refused, as the query that asks for this name and whose matchers the name therefore
meets; the other matchers about the name and all their comparisons make no difference. -/
theorem Query.metric_of_first_name (q : Query) (config : Config) (catalog : Option TagCatalog) :
    (∀ compiled calls, q.compile config catalog = .ok (compiled, calls) →
      ∃ first, q.matchers.find? LabelMatcher.isMetricName = some first ∧
        Metric.ofName config.databases first.value = .ok compiled.metric) ∧
    (∀ first, q.matchers.find? LabelMatcher.isMetricName = some first →
      q.compile config catalog = (q.selecting first.value).compile config catalog ∧
        (q.selecting first.value).NameMet first.value) := by
  constructor
  · intro compiled calls h
    obtain ⟨metric, predicates, range, -, -, hmetric, -, -, rfl⟩ := Query.compile_eq_ok_iff.mp h
    exact Query.metric_eq_some_iff.mp hmetric
  · intro first hfirst
    refine ⟨?_, q.nameMet_selecting first.value⟩
    unfold Query.compile
    simp only [Query.metric_selecting hfirst, Query.predicates_selecting]
    rfl

/-- The matcher that excludes one name. -/
def excludingMatcher : LabelMatcher := ⟨Comparison.notEqual.number, metricNameLabel, "up"⟩

/-- A query that excludes one name, asks for another, and has a matcher of no known type. -/
def excludingQuery : Query where
  matchers := [excludingMatcher, .named "down", ⟨4, metricNameLabel, "up"⟩,
    ⟨Comparison.equal.number, "job", "api"⟩]

/-- The excluding matcher is the first one for the name. -/
theorem find?_excludingQuery :
    excludingQuery.matchers.find? LabelMatcher.isMetricName = some excludingMatcher :=
  List.find?_cons_of_pos (by decide)

/-- The query is compiled. -/
theorem exists_compile_excludingQuery :
    ∃ compiled calls, excludingQuery.compile {} none = .ok (compiled, calls) := by
  have hname : Metric.ofName? defaultDatabases "up" = some { name := "up" } := by decide +kernel
  have hother : (excludingQuery.matchers.filter fun m => !m.isMetricName) =
      [⟨Comparison.equal.number, "job", "api"⟩] := by decide
  have hsound : ∀ m ∈ excludingQuery.matchers, m.isMetricName = false → m.Sound := by
    intro m hm hlabel
    have hkept : m ∈ excludingQuery.matchers.filter fun m => !m.isMetricName :=
      List.mem_filter.mpr ⟨hm, by rw [hlabel]; rfl⟩
    rw [hother, List.mem_singleton] at hkept
    rw [hkept]
    exact ⟨⟨.equal, rfl⟩, by decide⟩
  have haccepted : excludingQuery.Accepted {} :=
    ⟨by decide, ⟨_, _, find?_excludingQuery, hname⟩, hsound⟩
  obtain ⟨⟨compiled, calls⟩, h⟩ : ∃ answer, excludingQuery.compile {} none = .ok answer :=
    Query.exists_compile_iff.mpr haccepted
  exact ⟨compiled, calls, h⟩

/-- The query is compiled as the one that asks for the very name that it excludes. -/
theorem metric_of_first_name_excluding : ∃ compiled calls,
    excludingQuery.compile {} none = .ok (compiled, calls) ∧
    excludingQuery.matchers.find? LabelMatcher.isMetricName = some excludingMatcher ∧
    Metric.ofName defaultDatabases excludingMatcher.value = .ok compiled.metric ∧
    (excludingQuery.selecting "up").compile {} none = .ok (compiled, calls) ∧
    (excludingQuery.selecting "up").NameMet "up" := by
  obtain ⟨hread, hsame⟩ := Query.metric_of_first_name excludingQuery {} none
  obtain ⟨compiled, calls, h⟩ := exists_compile_excludingQuery
  obtain ⟨first, hfirst, hname⟩ := hread compiled calls h
  obtain ⟨hcompile, hmet⟩ := hsame excludingMatcher find?_excludingQuery
  obtain rfl := Option.some.inj (find?_excludingQuery.symm.trans hfirst)
  exact ⟨compiled, calls, h, find?_excludingQuery, hname, hcompile ▸ h, hmet⟩

/-- A query is answered with the metric of a name that it excludes, while it asks for another name
and has a matcher about the name of no known type. -/
theorem excluded_metric_selected : ∃ compiled calls first,
    excludingQuery.compile {} none = .ok (compiled, calls) ∧
    excludingQuery.matchers.find? LabelMatcher.isMetricName = some first ∧
    Metric.ofName defaultDatabases first.value = .ok compiled.metric ∧
    (∃ m ∈ excludingQuery.matchers, m.isMetricName = true ∧
      ∀ comparison : Comparison, m.type ≠ comparison.number) ∧
    (∃ m ∈ excludingQuery.matchers, m.isMetricName = true ∧
      m.type = Comparison.equal.number ∧ m.value ≠ first.value) ∧
    (∃ m ∈ excludingQuery.matchers, m.isMetricName = true ∧
      m.type = Comparison.notEqual.number ∧ m.value = first.value) := by
  obtain ⟨compiled, calls, h⟩ := exists_compile_excludingQuery
  obtain ⟨metric, predicates, range, -, -, hmetric, -, -, rfl⟩ := Query.compile_eq_ok_iff.mp h
  obtain ⟨first, hfirst, hname⟩ := Query.metric_eq_some_iff.mp hmetric
  obtain rfl := Option.some.inj (find?_excludingQuery.symm.trans hfirst)
  have htype : ∀ comparison : Comparison, (4 : Int) ≠ comparison.number := by
    intro comparison
    cases comparison <;> decide
  refine ⟨_, calls, excludingMatcher, h, hfirst, hname,
    ⟨⟨4, metricNameLabel, "up"⟩, by decide, by decide, htype⟩,
    ⟨.named "down", by decide, by decide, rfl, by decide⟩,
    ⟨excludingMatcher, by decide, by decide, rfl, rfl⟩⟩

end RemoteRead
