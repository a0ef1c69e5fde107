import RemoteRead.Proofs.Compile

/-!
# Requests that are refused

A request is compiled or refused, and `refused_or_compiled` says which and with what failure. The
conditions are checked in a fixed order: there is a query, its range is in order, the first matcher
about the name of the metric denotes one, every other matcher is sound, and there is a matcher about
the name of the metric. `Query.Refused` has a constructor for each of them that can be the first to
fail. Nothing in it mentions the catalog, so what the catalog answers does not matter.

Among the matchers the first flawed one in request order counts (`LabelMatcher.FirstFlaw`), and in a
matcher its type before its label.
-/

namespace RemoteRead

open Outcome
open Identifier (accepts)

/-! ## Comparisons -/

/-- A number stands for the comparison with this number. -/
theorem Comparison.ofNumber?_eq_some_iff {n : Int} {comparison : Comparison} :
    ofNumber? n = some comparison ↔ n = comparison.number := by
  constructor
  · intro h
    unfold ofNumber? at h
    split_ifs at h with hequal hnotEqual hmatches hfails <;> obtain rfl := Option.some.inj h
    · exact hequal
    · exact hnotEqual
    · exact hmatches
    · exact hfails
  · rintro rfl
    cases comparison <;> rfl

/-- A number without a comparison is that of none. -/
theorem Comparison.ofNumber?_eq_none_iff {n : Int} :
    ofNumber? n = none ↔ ∀ comparison : Comparison, n ≠ comparison.number := by
  rw [Option.eq_none_iff_forall_ne_some]
  exact forall_congr' fun comparison => not_congr ofNumber?_eq_some_iff

/-! ## Matchers -/

/-- A matcher of which a predicate can be made. -/
structure LabelMatcher.Sound (m : LabelMatcher) : Prop where
  /-- The type is that of a comparison. -/
  type : ∃ comparison : Comparison, m.type = comparison.number
  /-- The label is an identifier. -/
  label : accepts m.name = true

/-- What is wrong with a matcher: its type, or, with a good type, its label. -/
inductive LabelMatcher.Flawed (m : LabelMatcher) : Failure → Prop where
  /-- The type is that of no comparison. -/
  | type (h : ∀ comparison : Comparison, m.type ≠ comparison.number) :
    m.Flawed (.unsupportedMatcherType (.int m.type) (.text m.name))
  /-- The label is no identifier. -/
  | label (comparison : Comparison) (htype : m.type = comparison.number)
    (h : accepts m.name = false) : m.Flawed (.invalidLabelName (.text m.name))

variable {m : LabelMatcher} {matchers : List LabelMatcher} {metric? : Option Metric}
  {systemDatabase : Text} {f : Failure}

/-- A sound matcher has a predicate. -/
theorem LabelMatcher.exists_predicate_iff :
    (∃ text, m.predicate metric? systemDatabase = .ok text) ↔ m.Sound := by
  simp only [predicate_eq_ok_iff, Comparison.ofNumber?_eq_some_iff]
  constructor
  · rintro ⟨_, comparison, htype, hlabel, -⟩
    exact ⟨⟨comparison, htype⟩, hlabel⟩
  · rintro ⟨⟨comparison, htype⟩, hlabel⟩
    exact ⟨_, comparison, htype, hlabel, rfl⟩

/-- A flawed matcher is refused with its flaw. -/
theorem LabelMatcher.predicate_eq_error_iff :
    m.predicate metric? systemDatabase = .error f ↔ m.Flawed f := by
  unfold predicate
  -- The type is checked before the label.
  cases hnumber : Comparison.ofNumber? m.type with
  | none =>
    have htype := Comparison.ofNumber?_eq_none_iff.mp hnumber
    constructor
    · rintro ⟨⟩
      exact .type htype
    · rintro (_ | ⟨comparison, h, -⟩)
      · rfl
      · exact absurd h (htype comparison)
  | some comparison =>
    have htype := Comparison.ofNumber?_eq_some_iff.mp hnumber
    cases hlabel : accepts m.name with
    | false =>
      constructor
      · rintro ⟨⟩
        exact .label comparison htype hlabel
      · rintro (h | -)
        · exact absurd htype (h comparison)
        · rfl
    | true =>
      constructor
      · rintro ⟨⟩
      · rintro (h | ⟨_, -, h⟩)
        · exact absurd htype (h comparison)
        · exact absurd (hlabel.symm.trans h) Bool.false_ne_true.symm

/-- A failure is the flaw of the first flawed matcher about another label than the metric's name. -/
def LabelMatcher.FirstFlaw (matchers : List LabelMatcher) (f : Failure) : Prop :=
  ∃ before m after, matchers = before ++ m :: after ∧ m.isMetricName = false ∧ m.Flawed f ∧
    ∀ b ∈ before, b.isMetricName = false → b.Sound

/-- Matchers have predicates if those about other labels than the metric's name are sound. -/
theorem LabelMatcher.exists_predicates_iff :
    (∃ texts, LabelMatcher.predicates matchers metric? systemDatabase = .ok texts) ↔
      ∀ m ∈ matchers, m.isMetricName = false → m.Sound := by
  unfold predicates
  simp only [exists_mapM_iff, exists_predicate_iff, List.mem_filter, Bool.not_eq_true', and_imp]

/-- Matchers are refused with the first flaw. -/
theorem LabelMatcher.predicates_eq_error_iff :
    LabelMatcher.predicates matchers metric? systemDatabase = .error f ↔
      LabelMatcher.FirstFlaw matchers f := by
  unfold predicates
  rw [mapM_eq_error_iff]
  simp only [exists_predicate_iff, predicate_eq_error_iff]
  constructor
  · rintro ⟨before, m, after, hfilter, hbefore, hflaw⟩
    -- What is in front of the matcher was kept, or is about the name of the metric.
    obtain ⟨front, back, rfl, rfl, hback⟩ := List.filter_eq_append_iff.mp hfilter
    obtain ⟨dropped, after, rfl, hdropped, hm, -⟩ := List.filter_eq_cons_iff.mp hback
    refine ⟨front ++ dropped, m, after, (List.append_assoc _ _ _).symm,
      Bool.not_eq_true' _ ▸ hm, hflaw, fun b hb hother => ?_⟩
    rcases List.mem_append.mp hb with hb | hb
    · exact hbefore b (List.mem_filter.mpr ⟨hb, by rw [hother]; rfl⟩)
    · exact absurd (by rw [hother]; rfl) (hdropped b hb)
  · rintro ⟨before, m, after, rfl, hm, hflaw, hbefore⟩
    refine ⟨before.filter fun m => !m.isMetricName, m, after.filter fun m => !m.isMetricName,
      ?_, fun b hb => ?_, hflaw⟩
    · rw [List.filter_append, List.filter_cons_of_pos (by rw [hm]; rfl)]
    · obtain ⟨hb, hother⟩ := List.mem_filter.mp hb
      exact hbefore b hb (Bool.not_eq_true' _ ▸ hother)

/-! ## Queries -/

variable {q : Query} {config : Config} {catalog : Option TagCatalog}

/-- The first matcher about the name of the metric denotes one, if there is such a matcher. -/
def Query.NamesMetric (q : Query) (config : Config) : Prop :=
  ∀ m, q.matchers.find? LabelMatcher.isMetricName = some m →
    ∃ metric, Metric.ofName? config.databases m.value = some metric

/-- The range of a query in seconds. -/
def Query.range (q : Query) : TimeRange := TimeRange.ofMillis q.startMs q.endMs

/-- Why a query is refused. -/
inductive Query.Refused (q : Query) (config : Config) : Failure → Prop where
  /-- The range ends before it starts. -/
  | range (h : q.range.stop < q.range.start) :
    q.Refused config (.invalidTimeRange (.int q.range.start) (.int q.range.stop))
  /-- The first matcher about the name of the metric denotes none. -/
  | metric (hrange : q.range.start ≤ q.range.stop) (m : LabelMatcher)
    (hfirst : q.matchers.find? LabelMatcher.isMetricName = some m)
    (h : Metric.ofName? config.databases m.value = none) :
    q.Refused config (.unknownMetric (.text m.value))
  /-- Another matcher is flawed. -/
  | matcher (hrange : q.range.start ≤ q.range.stop) (hmetric : q.NamesMetric config)
    {f : Failure} (h : LabelMatcher.FirstFlaw q.matchers f) : q.Refused config f
  /-- No matcher is about the name of the metric. -/
  | noMetric (hrange : q.range.start ≤ q.range.stop) (hsound : ∀ m ∈ q.matchers, m.Sound)
    (h : ∀ m ∈ q.matchers, m.isMetricName = false) : q.Refused config .noMetricSelected

/-- What a query needs to be compiled. -/
structure Query.Accepted (q : Query) (config : Config) : Prop where
  /-- The range does not end before it starts. -/
  range : q.range.start ≤ q.range.stop
  /-- The first matcher about the name of the metric denotes one. -/
  metric : ∃ m metric, q.matchers.find? LabelMatcher.isMetricName = some m ∧
    Metric.ofName? config.databases m.value = some metric
  /-- The other matchers are sound. -/
  matchers : ∀ m ∈ q.matchers, m.isMetricName = false → m.Sound

/-- A query has no metric if none of its matchers is about the name of one. -/
theorem Query.metric_eq_none_iff :
    q.metric config = .ok none ↔ ∀ m ∈ q.matchers, m.isMetricName = false := by
  unfold Query.metric
  cases hfirst : q.matchers.find? LabelMatcher.isMetricName with
  | none =>
    rw [List.find?_eq_none] at hfirst
    exact iff_of_true rfl fun m hm => Bool.eq_false_iff.mpr (hfirst m hm)
  | some m =>
    refine iff_of_false ?_ fun hnone => ?_
    · intro h
      obtain ⟨metric, -, hsome⟩ := map_eq_ok_iff.mp h
      cases hsome
    · have hname : m.isMetricName = true := List.find?_some hfirst
      rw [hnone m (List.mem_of_find?_eq_some hfirst)] at hname
      cases hname

/-- The metric of a query is unknown if its first matcher about the name of one denotes none. -/
theorem Query.metric_eq_error_iff :
    q.metric config = .error f ↔ ∃ m, q.matchers.find? LabelMatcher.isMetricName = some m ∧
      Metric.ofName? config.databases m.value = none ∧ f = .unknownMetric (.text m.value) := by
  unfold Query.metric
  cases q.matchers.find? LabelMatcher.isMetricName with
  | none => simp
  | some m =>
    unfold Metric.ofName
    cases hname : Metric.ofName? config.databases m.value <;>
      simp [hname, Except.map, eq_comm]

/-- The metric of a query is read if its first matcher about the name of one denotes one. -/
theorem Query.namesMetric_of_metric {metric? : Option Metric}
    (h : q.metric config = .ok metric?) : q.NamesMetric config := by
  intro m hfirst
  cases hname : Metric.ofName? config.databases m.value with
  | some metric => exact ⟨metric, rfl⟩
  | none =>
    have herror := Query.metric_eq_error_iff.mpr ⟨m, hfirst, hname, rfl⟩
    rw [h] at herror
    cases herror

/-- A query whose metric is not unknown has one or none. -/
theorem Query.NamesMetric.exists_metric (h : q.NamesMetric config) :
    ∃ metric?, q.metric config = .ok metric? := by
  cases hmetric : q.metric config with
  | ok metric? => exact ⟨metric?, rfl⟩
  | error f =>
    obtain ⟨m, hfirst, hnone, -⟩ := Query.metric_eq_error_iff.mp hmetric
    obtain ⟨metric, hsome⟩ := h m hfirst
    rw [hnone] at hsome
    cases hsome

/-- A query is refused with the first condition that fails. -/
theorem Query.compile_eq_error_iff :
    q.compile config catalog = .error f ↔ q.Refused config f := by
  unfold Query.compile
  dsimp only
  change (if q.range.stop < q.range.start then _ else _) = _ ↔ _
  -- In the order of the checks: the range, the metric, the other matchers, the missing metric.
  split_ifs with hrange
  · constructor
    · rintro ⟨⟩
      exact .range hrange
    · rintro (_ | ⟨hordered, -, -, -⟩ | ⟨hordered, -, -⟩ | ⟨hordered, -, -⟩)
      · rfl
      all_goals exact absurd hrange (Int.not_lt.mpr hordered)
  · have hordered : q.range.start ≤ q.range.stop := Int.not_lt.mp hrange
    simp only [bind_eq_error_iff]
    constructor
    · rintro (hmetric | ⟨metric?, hmetric, hpredicates | ⟨predicates, hpredicates, hlast⟩⟩)
      · obtain ⟨m, hfirst, hnone, rfl⟩ := Query.metric_eq_error_iff.mp hmetric
        exact .metric hordered m hfirst hnone
      · exact .matcher hordered (Query.namesMetric_of_metric hmetric)
          (LabelMatcher.predicates_eq_error_iff.mp hpredicates)
      · cases metric? with
        | some metric => cases hlast
        | none =>
          cases hlast
          have hnone := Query.metric_eq_none_iff.mp hmetric
          have hsound := LabelMatcher.exists_predicates_iff.mp ⟨predicates, hpredicates⟩
          exact .noMetric hordered (fun m hm => hsound m hm (hnone m hm)) hnone
    · rintro (h | ⟨-, m, hfirst, hnone⟩ | ⟨-, hnames, hflaw⟩ | ⟨-, hsound, hnone⟩)
      · exact absurd h hrange
      · exact .inl (Query.metric_eq_error_iff.mpr ⟨m, hfirst, hnone, rfl⟩)
      · obtain ⟨metric?, hmetric⟩ := hnames.exists_metric
        exact .inr ⟨metric?, hmetric, .inl (LabelMatcher.predicates_eq_error_iff.mpr hflaw)⟩
      · -- All predicates are made before the metric is missed.
        obtain ⟨predicates, hpredicates⟩ : ∃ predicates, LabelMatcher.predicates q.matchers none
            config.systemDatabase = .ok predicates :=
          LabelMatcher.exists_predicates_iff.mpr fun m hm _ => hsound m hm
        exact .inr ⟨none, Query.metric_eq_none_iff.mpr hnone, .inr ⟨predicates, hpredicates, rfl⟩⟩

/-- A query is compiled if it meets all conditions. -/
theorem Query.exists_compile_iff :
    (∃ answer, q.compile config catalog = .ok answer) ↔ q.Accepted config := by
  constructor
  · rintro ⟨⟨compiled, calls⟩, h⟩
    obtain ⟨metric, predicates, range, rfl, hrange, hmetric, hpredicates, -, -⟩ :=
      Query.compile_eq_ok_iff.mp h
    obtain ⟨m, hfirst, hname⟩ := Query.metric_eq_some_iff.mp hmetric
    exact ⟨hrange, ⟨m, metric, hfirst, Metric.ofName_eq_ok_iff_ofName?.mp hname⟩,
      LabelMatcher.exists_predicates_iff.mp ⟨predicates, hpredicates⟩⟩
  · rintro ⟨hrange, ⟨m, metric, hfirst, hname⟩, hsound⟩
    obtain ⟨predicates, hpredicates⟩ : ∃ predicates, LabelMatcher.predicates q.matchers
        (some metric) config.systemDatabase = .ok predicates :=
      LabelMatcher.exists_predicates_iff.mpr hsound
    have hmetric : q.metric config = .ok (some metric) :=
      Query.metric_eq_some_iff.mpr ⟨m, hfirst, Metric.ofName_eq_ok_iff_ofName?.mpr hname⟩
    exact ⟨_, Query.compile_eq_ok_iff.mpr
      ⟨metric, predicates, q.range, rfl, hrange, hmetric, hpredicates, rfl, rfl⟩⟩

/-! ## Requests -/

/-- Why a request is refused: it has no query, or its first query is refused. -/
inductive ReadRequest.Refused (config : Config) : ReadRequest → Failure → Prop where
  /-- There is no query. -/
  | noQuery (accepted : List Int) :
    Refused config ⟨[], accepted⟩ (.invalidRequest (.text "request contains no queries"))
  /-- The first query is refused. -/
  | query {q : Query} (later : List Query) (accepted : List Int) {f : Failure}
    (h : q.Refused config f) : Refused config ⟨q :: later, accepted⟩ f

/-- A request is accepted if its first query is. -/
def ReadRequest.Accepted (r : ReadRequest) (config : Config) : Prop :=
  ∃ q ∈ r.queries.head?, q.Accepted config

/-- A request is refused if it has no query, and else as its first query is. -/
theorem ReadRequest.compile_eq_error_iff {r : ReadRequest} :
    r.compile config catalog = .error f ↔ r.Refused config f := by
  obtain ⟨queries, accepted⟩ := r
  cases queries with
  | nil =>
    constructor
    · rintro ⟨⟩
      exact .noQuery accepted
    · rintro ⟨⟩
      rfl
  | cons q later =>
    change q.compile config catalog = .error f ↔ _
    rw [Query.compile_eq_error_iff]
    constructor
    · exact .query later accepted
    · rintro ⟨⟩
      assumption

/-- The failures of compilation: what is wrong with a request, its range, its metric or one of its
matchers. -/
def Failure.OfCompilation : Failure → Prop
  | invalidRequest _ => True
  | invalidTimeRange _ _ => True
  | unknownMetric _ => True
  | noMetricSelected => True
  | unsupportedMatcherType _ _ => True
  | invalidLabelName _ => True
  | _ => False

/-- The flaw of a matcher is a failure of compilation. -/
theorem LabelMatcher.Flawed.ofCompilation (h : m.Flawed f) : f.OfCompilation := by
  cases h <;> trivial

/-- What a query is refused with is a failure of compilation. -/
theorem Query.Refused.ofCompilation (h : q.Refused config f) : f.OfCompilation := by
  cases h with
  | range | metric | noMetric => trivial
  | matcher _ _ hfirst =>
    obtain ⟨_, _, _, -, -, hflaw, -⟩ := hfirst
    exact hflaw.ofCompilation

/-- A request is compiled or refused with a failure of compilation. -/
theorem raises_compile (request : ReadRequest) (config : Config) (catalog : Option TagCatalog) :
    Raises Failure.OfCompilation (request.compile config catalog) := by
  intro f hf
  cases ReadRequest.compile_eq_error_iff.mp hf with
  | noQuery => trivial
  | query _ _ h => exact h.ofCompilation

/-- A request is refused exactly for the reasons listed, each with its failure, and compiled in all
other cases, whatever the catalog answers. -/
theorem ReadRequest.refused_or_compiled (r : ReadRequest) (config : Config)
    (catalog : Option TagCatalog) :
    (∀ f, r.compile config catalog = .error f ↔ r.Refused config f) ∧
    ((∃ answer, r.compile config catalog = .ok answer) ↔ r.Accepted config) := by
  refine ⟨fun f => ReadRequest.compile_eq_error_iff, ?_⟩
  obtain ⟨queries, accepted⟩ := r
  cases queries with
  | nil => exact iff_of_false (by rintro ⟨_, ⟨⟩⟩) (by rintro ⟨_, ⟨⟩, -⟩)
  | cons q later =>
    change (∃ answer, q.compile config catalog = .ok answer) ↔ _
    rw [Query.exists_compile_iff]
    exact ⟨fun h => ⟨q, rfl, h⟩, by rintro ⟨_, ⟨⟩, h⟩; exact h⟩

end RemoteRead
