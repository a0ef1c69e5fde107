import Mathlib.Data.Option.Defs
import RemoteRead.Proofs.Compile.Refusal

/-!
# The position of the metric's name

The matchers of a query are gone through twice: once for the first that is about the name of the
metric, and once for all the others. So a query is read by its bounds, by the value of the first
matcher about the name (`Query.metricName?`), and by the other matchers in their order
(`Query.others`). `Query.ReadAlike` says that two queries agree in these, and
`compile_eq_of_readAlike` that requests whose first queries do have the same outcome, refusals
included.

A matcher about the name can thus be moved in front of matchers about other labels
(`Query.readAlike_move`), and any further one can be left out (`Query.readAlike_drop`). The column
of a label is chosen by the metric, which is known before the first predicate is made, so it does
not matter on which side of the name the label stands.
-/

namespace RemoteRead

open Outcome

/-! ## What is read of a query -/

/-- The value of the first matcher about the name of the metric. -/
def Query.metricName? (q : Query) : Option Text :=
  (q.matchers.find? LabelMatcher.isMetricName).map (·.value)

/-- The matchers about other labels than the metric's name. -/
def Query.others (q : Query) : List LabelMatcher := q.matchers.filter fun m => !m.isMetricName

/-- Two queries agree in what is read of them. -/
structure Query.ReadAlike (q q' : Query) : Prop where
  /-- They start at the same time. -/
  startMs : q.startMs = q'.startMs
  /-- They end at the same time. -/
  endMs : q.endMs = q'.endMs
  /-- Both ask for the same metric first, or neither asks for one. -/
  metricName? : q.metricName? = q'.metricName?
  /-- The other matchers are the same, in the same order. -/
  others : q.others = q'.others

variable {q q' : Query} {config : Config}

/-- The metric of a query depends on the value of the first matcher about its name alone. -/
theorem Query.metric_eq : q.metric config = match q.metricName? with
    | none => .ok none
    | some name => (Metric.ofName config.databases name).map some := by
  unfold Query.metric Query.metricName?
  cases q.matchers.find? LabelMatcher.isMetricName <;> rfl

/-- The predicates of a query are those of the other matchers. -/
theorem Query.predicates_eq (metric? : Option Metric) (systemDatabase : Text) :
    LabelMatcher.predicates q.matchers metric? systemDatabase =
      q.others.mapM fun m => m.predicate metric? systemDatabase := rfl

/-- Queries that are read alike have the same outcome. -/
theorem Query.ReadAlike.compile_eq (h : q.ReadAlike q') (config : Config)
    (catalog : Option TagCatalog) : q.compile config catalog = q'.compile config catalog := by
  have hmetric : q.metric config = q'.metric config := by
    rw [Query.metric_eq, Query.metric_eq, h.metricName?]
  unfold Query.compile
  simp only [Query.predicates_eq, h.startMs, h.endMs, h.others, hmetric]

/-! ## Queries that are read alike -/

variable {before after : List LabelMatcher} {m : LabelMatcher}

/-- Behind matchers about other labels, the first matcher about the name is found. -/
theorem LabelMatcher.find?_isMetricName_append (hm : m.isMetricName = true)
    (hbefore : ∀ b ∈ before, b.isMetricName = false) :
    (before ++ m :: after).find? isMetricName = some m := by
  have hnone : before.find? isMetricName = none :=
    List.find?_eq_none.mpr fun b hb => Bool.eq_false_iff.mp (hbefore b hb)
  rw [List.find?_append, hnone, Option.none_or, List.find?_cons_of_pos hm]

/-- A matcher about the name is none of the others. -/
theorem Query.others_append (q : Query) (before after : List LabelMatcher)
    (hm : m.isMetricName = true) : { q with matchers := before ++ m :: after }.others =
      { q with matchers := before ++ after }.others := by
  simp only [Query.others, List.filter_append]
  rw [List.filter_cons_of_neg (by simp [hm])]

/-- The first matcher about the name can be moved in front of the matchers before it. -/
theorem Query.readAlike_move (q : Query) (before after : List LabelMatcher)
    (hm : m.isMetricName = true) (hbefore : ∀ b ∈ before, b.isMetricName = false) :
    { q with matchers := before ++ m :: after }.ReadAlike
      { q with matchers := m :: (before ++ after) } where
  startMs := rfl
  endMs := rfl
  metricName? := by
    simp only [Query.metricName?]
    rw [LabelMatcher.find?_isMetricName_append hm hbefore, List.find?_cons_of_pos hm]
  others := (q.others_append before after hm).trans (q.others_append [] (before ++ after) hm).symm

/-- Behind a matcher about the name, a further one can be left out. -/
theorem Query.readAlike_drop (q : Query) (before after : List LabelMatcher)
    (hm : m.isMetricName = true) (hbefore : ∃ b ∈ before, b.isMetricName = true) :
    { q with matchers := before ++ m :: after }.ReadAlike
      { q with matchers := before ++ after } where
  startMs := rfl
  endMs := rfl
  metricName? := by
    obtain ⟨first, hfirst⟩ := Option.isSome_iff_exists.mp (List.find?_isSome.mpr hbefore)
    simp only [Query.metricName?, List.find?_append, hfirst, Option.some_or]
  others := q.others_append before after hm

/-! ## Requests -/

/-- The column of a label: its own in a table with a column per tag, and else a key of the tags. -/
def Metric.labelColumn (metric : Metric) (config : Config) (label : Text) : Text :=
  if metric.isResolved = true ∧ metric.database ≠ config.systemDatabase then label
  else Metric.inBackticks ("tag." ++ label)

/-- The metric chooses the column of a label. -/
theorem columnReference_some (metric : Metric) (config : Config) (label : Text) :
    columnReference label (some metric) config.systemDatabase =
      metric.labelColumn config label := by
  simp [columnReference, Metric.hasTagColumns, Metric.labelColumn]

/-- A predicate is about the column that the metric chooses, wherever its matcher stands. -/
theorem LabelMatcher.predicate_some_eq_ok {metric : Metric} {text : Text}
    (h : m.predicate (some metric) config.systemDatabase = .ok text) :
    ∃ comparison : Comparison, m.type = comparison.number ∧
      text = metric.labelColumn config m.name ++ comparison.operator ++ quoteLiteral m.value := by
  obtain ⟨comparison, htype, -, rfl⟩ := LabelMatcher.predicate_eq_ok_iff.mp h
  exact ⟨comparison, Comparison.ofNumber?_eq_some_iff.mp htype, by rw [columnReference_some]⟩

/-- Requests whose first queries have the same bounds, the same value in the first matcher about the
metric's name, if there is one, and the same other matchers in the same order have the same outcome,
compiled or refused. Nothing else of a request has an influence. In the statement the other matchers
appear behind the range in the order of the request, each about the column that the metric chooses
for its label. -/
theorem ReadRequest.compile_eq_of_readAlike (config : Config) (catalog : Option TagCatalog)
    (r r' : ReadRequest) (h : Option.Rel Query.ReadAlike r.queries.head? r'.queries.head?) :
    r.compile config catalog = r'.compile config catalog ∧
    ∀ q compiled calls, r.queries.head? = some q →
      r.compile config catalog = .ok (compiled, calls) → ∃ predicates,
        compiled.sql = assemble compiled.metric
          (timeSelection :: compiled.metric.selection ::
            (expandTags compiled.metric compiled.range config catalog).1)
          (compiled.range.predicate :: predicates) config ∧
        List.Forall₂ (fun m predicate => ∃ comparison : Comparison, m.type = comparison.number ∧
            predicate = compiled.metric.labelColumn config m.name ++ comparison.operator ++
              quoteLiteral m.value)
          q.others predicates := by
  obtain ⟨queries, accepted⟩ := r
  obtain ⟨queries', accepted'⟩ := r'
  constructor
  · -- Neither request has a query, or both first queries are read alike.
    match queries, queries', h with
    | [], [], .none => rfl
    | q :: _, q' :: _, .some hq => exact hq.compile_eq config catalog
  · intro q compiled calls hfirst hcompile
    obtain ⟨later, rfl⟩ := List.head?_eq_some_iff.mp hfirst
    obtain ⟨metric, predicates, range, -, -, -, hpredicates, -, rfl⟩ :=
      Query.compile_eq_ok_iff.mp hcompile
    exact ⟨predicates, rfl, (LabelMatcher.predicates_eq_ok_iff.mp hpredicates).imp
      fun _ _ => LabelMatcher.predicate_some_eq_ok⟩

/-- The matcher that asks for a column of a table with a column per tag. -/
def rrtMatcher : LabelMatcher := ⟨0, metricNameLabel, "flow_metrics__vtap_app_port__rrt__1m"⟩

/-- The metric that it asks for. -/
def rrtMetric : Metric := ⟨"rrt", "flow_metrics", "vtap_app_port", "1m"⟩

/-- A matcher about a tag. -/
def podMatcher : LabelMatcher := ⟨1, "pod", "x"⟩

/-- A query whose matcher about a tag stands before the metric's name. -/
def nameLastQuery : Query where
  startMs := 1000
  endMs := 2000
  matchers := [podMatcher, rrtMatcher]

/-- The request of this query alone. -/
def nameLastRequest : ReadRequest where
  queries := [nameLastQuery]

/-- A matcher that asks for another metric. -/
def upMatcher : LabelMatcher := ⟨0, metricNameLabel, "up"⟩

/-- The query with the name in front and another name behind, and with hints. -/
def nameFirstQuery : Query where
  startMs := 1000
  endMs := 2000
  matchers := [rrtMatcher, podMatcher, upMatcher]
  hints := some { func := "rate" }

/-- The request of this query with a further one and a response type. -/
def nameFirstRequest : ReadRequest where
  queries := [nameFirstQuery, {}]
  accepted := [1]

/-- The first queries are read alike: one name is moved to the front, and the other left out. -/
theorem readAlike_nameLast : Option.Rel Query.ReadAlike nameLastRequest.queries.head?
    nameFirstRequest.queries.head? := by
  have hmove := nameLastQuery.readAlike_move [podMatcher] [] (m := rrtMatcher) (by decide)
    (by decide)
  have hdrop := nameFirstQuery.readAlike_drop [rrtMatcher, podMatcher] [] (m := upMatcher)
    (by decide) ⟨rrtMatcher, by decide, by decide⟩
  exact .some ⟨rfl, rfl, hmove.metricName?.trans hdrop.metricName?.symm,
    hmove.others.trans hdrop.others.symm⟩

/-- Both requests are compiled into one statement, and the tag is a column of the table. -/
theorem compile_eq_of_readAlike_nameLast :
    Option.Rel Query.ReadAlike nameLastRequest.queries.head? nameFirstRequest.queries.head? ∧
    ∃ compiled, nameLastRequest.compile {} none = .ok (compiled, []) ∧
      nameFirstRequest.compile {} none = .ok (compiled, []) ∧
      compiled.sql = assemble compiled.metric
        (timeSelection :: compiled.metric.selection ::
          (expandTags compiled.metric compiled.range {} none).1)
        [compiled.range.predicate, "pod!='x'"] {} := by
  obtain ⟨hsame, hpredicates⟩ :=
    ReadRequest.compile_eq_of_readAlike {} none nameLastRequest nameFirstRequest readAlike_nameLast
  obtain ⟨compiled, hcompile, hmetric⟩ : ∃ compiled,
      nameLastRequest.compile {} none = .ok (compiled, []) ∧ compiled.metric = rrtMetric :=
    ⟨_, rfl, rfl⟩
  obtain ⟨predicates, hsql, hpairs⟩ := hpredicates nameLastQuery compiled [] rfl hcompile
  have hothers : nameLastQuery.others = [podMatcher] := by decide
  -- One matcher is left, hence one predicate.
  rw [hothers, List.forall₂_cons_left_iff] at hpairs
  obtain ⟨predicate, rest, ⟨comparison, htype, hpredicate⟩, hnil, rfl⟩ := hpairs
  obtain rfl := List.forall₂_nil_left_iff.mp hnil
  have hnumber : comparison = .notEqual := by
    have hfound : Comparison.ofNumber? podMatcher.type = some comparison :=
      Comparison.ofNumber?_eq_some_iff.mpr htype
    exact (Option.some.inj hfound).symm
  have hcolumn : rrtMetric.labelColumn {} podMatcher.name = "pod" := if_pos (by decide)
  rw [hmetric, hcolumn, hnumber] at hpredicate
  refine ⟨readAlike_nameLast, compiled, hcompile, hsame.symm.trans hcompile, ?_⟩
  rw [hsql, hpredicate]
  rfl

end RemoteRead
