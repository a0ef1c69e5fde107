import RemoteRead.Proofs.Compile.Refusal
import RemoteRead.Proofs.Sql.Statement

/-!
# Names in statements

A statement takes over names from its request: the name of the metric, its table and data source,
and the labels of matchers. Each of them is accepted by a pattern first, which lets a line feed at
the end of a name pass. Apart from that line feed, names are plain (`Metric.WellFormed.plain_iff`,
`LabelMatcher.isPlain_iff_of_predicate`).

What plain names bring into a statement is letters, digits and underscores. All other code points of
the statement, its marks, are those of the statement in which every name is a placeholder:
`names_plain_unless_endsLine`. The marks of a statement are given by those of its parts
(`marks_assemble_eq`), and each part keeps its marks when its name is masked.
-/

namespace RemoteRead

open Identifier (accepts acceptsWord dropLineFeed isFollowing isPlain isWord)
open Outcome

/-! ## Names that end a line -/

variable {t : Text}

/-- A text that does not end a line has no line feed to be dropped. -/
theorem Identifier.dropLineFeed_of_not_endsLine (h : ¬ t.EndsLine) : dropLineFeed t = t := if_neg h

/-- What is accepted as a word is one, unless it ends a line. -/
theorem Identifier.isWord_iff_of_acceptsWord (h : acceptsWord t = true) :
    isWord t = true ↔ ¬ t.EndsLine := by
  refine ⟨not_endsLine_of_isWord, fun hlast => ?_⟩
  rwa [acceptsWord, dropLineFeed_of_not_endsLine hlast] at h

/-- What is accepted as an identifier is a plain one, unless it ends a line. -/
theorem Identifier.isPlain_iff_of_accepts (h : accepts t = true) :
    isPlain t = true ↔ ¬ t.EndsLine := by
  refine ⟨fun hplain => not_endsLine_of_isWord (isWord_of_isPlain hplain), fun hlast => ?_⟩
  rwa [accepts, dropLineFeed_of_not_endsLine hlast] at h

/-- The names of a metric are plain: its name and the table of a resolved one are identifiers, and a
data source is a word. -/
structure Metric.Plain (m : Metric) : Prop where
  /-- The name is an identifier. -/
  name : isPlain m.name = true
  /-- So is the table, if there is one. -/
  table : m.isResolved = true → isPlain m.table = true
  /-- A data source is a word. -/
  dataSource : m.dataSource ≠ [] → isWord m.dataSource = true

/-- One of the names of a metric ends a line. -/
def Metric.EndsLine (m : Metric) : Prop :=
  m.name.EndsLine ∨ (m.isResolved = true ∧ m.table.EndsLine) ∨ m.dataSource.EndsLine

/-- The names that a metric was read from are plain, unless one of them ends a line. -/
theorem Metric.WellFormed.plain_iff {m : Metric} (h : m.WellFormed) : m.Plain ↔ ¬ m.EndsLine := by
  constructor
  · rintro hplain (hname | ⟨hresolved, htable⟩ | hsource)
    · exact (Identifier.isPlain_iff_of_accepts h.name).mp hplain.name hname
    · have haccepts := h.table hresolved
      exact (Identifier.isPlain_iff_of_accepts haccepts).mp (hplain.table hresolved) htable
    · have hne : m.dataSource ≠ [] := by
        intro hempty
        rw [hempty] at hsource
        cases hsource
      exact Identifier.not_endsLine_of_isWord (hplain.dataSource hne) hsource
  · intro hends
    obtain ⟨hname, hends⟩ := not_or.mp hends
    obtain ⟨htable, hsource⟩ := not_or.mp hends
    refine ⟨(Identifier.isPlain_iff_of_accepts h.name).mpr hname, fun hresolved => ?_,
      fun hne => ?_⟩
    · refine (Identifier.isPlain_iff_of_accepts (h.table hresolved)).mpr fun hlast => ?_
      exact htable ⟨hresolved, hlast⟩
    · have hword : acceptsWord m.dataSource = true :=
        h.dataSource (List.isEmpty_eq_false_iff.mpr hne)
      exact (Identifier.isWord_iff_of_acceptsWord hword).mpr hsource

/-- The label of a matcher that has a predicate is plain, unless it ends a line. -/
theorem LabelMatcher.isPlain_iff_of_predicate {m : LabelMatcher} {metric : Option Metric}
    {systemDatabase text : Text} (h : m.predicate metric systemDatabase = .ok text) :
    isPlain m.name = true ↔ ¬ m.name.EndsLine := by
  obtain ⟨-, -, hlabel, -⟩ := predicate_eq_ok_iff.mp h
  exact Identifier.isPlain_iff_of_accepts hlabel

/-! ## Marks -/

/-- The code points of a text that are no letters, digits or underscores. -/
def Text.marks (t : Text) : Text := t.filter fun c => !isFollowing c

/-- The marks of two texts in a row are those of both. -/
@[simp]
theorem Text.marks_append (s t : Text) : (s ++ t).marks = s.marks ++ t.marks :=
  List.filter_append s t

/-- A word has no marks. -/
theorem Text.marks_of_isWord (h : isWord t = true) : t.marks = [] := by
  refine List.filter_eq_nil_iff.mpr fun c hc => ?_
  rw [Identifier.isFollowing_of_isWord h c hc]
  decide

/-- A plain identifier has no marks. -/
theorem Text.marks_of_isPlain (h : isPlain t = true) : t.marks = [] :=
  marks_of_isWord (Identifier.isWord_of_isPlain h)

/-- The marks of joined texts are theirs, with those of the separator in between. -/
theorem Text.marks_join (sep : Text) (texts : List Text) :
    (join sep texts).marks = join sep.marks (texts.map marks) := by
  fun_induction join sep texts with
  | case1 => rfl
  | case2 t => rfl
  | case3 t u r ih => simp [join, ih]

/-- The marks of backticks and what they hold. -/
theorem Text.marks_inBackticks (t : Text) :
    marks (Metric.inBackticks t) = Metric.inBackticks (marks t) := by
  have hquote : marks [CodePoint.ofNat 0x60] = [CodePoint.ofNat 0x60] := by decide
  show marks ([CodePoint.ofNat 0x60] ++ t ++ [CodePoint.ofNat 0x60]) = _
  rw [marks_append, marks_append, hquote]
  rfl

/-! ## Masked names -/

/-- What stands for a name. -/
def placeholder : Text := "x"

/-- The placeholder has no marks. -/
theorem marks_placeholder : Text.marks placeholder = [] := by decide

/-- The metric with a placeholder for each of its names. -/
def Metric.masked (m : Metric) : Metric :=
  { m with
    name := placeholder
    table := placeholder
    dataSource := if m.dataSource.isEmpty then [] else placeholder }

/-- The matcher with a placeholder for its label, unless it is about the name of the metric. -/
def LabelMatcher.masked (m : LabelMatcher) : LabelMatcher :=
  if m.isMetricName then m else { m with name := placeholder }

/-- The query with placeholders for the labels of its matchers. -/
def Query.masked (q : Query) : Query := { q with matchers := q.matchers.map LabelMatcher.masked }

/-- The statement of a query for a metric, with the tag columns that are selected. -/
def Query.statement (q : Query) (metric : Metric) (tags : List Text) (config : Config) :
    Except Failure Text :=
  (LabelMatcher.predicates q.matchers (some metric) config.systemDatabase).map fun predicates =>
    assemble metric (timeSelection :: metric.selection :: tags) (q.range.predicate :: predicates)
      config

variable {metric : Metric} {m : LabelMatcher} {q : Query} {config : Config} {systemDatabase : Text}

/-- A masked metric has a table if the metric has. -/
@[simp]
theorem Metric.isResolved_masked (m : Metric) : m.masked.isResolved = m.isResolved := rfl

/-- A masked metric has columns for tags if the metric has. -/
@[simp]
theorem Metric.hasTagColumns_masked (m : Metric) (systemDatabase : Text) :
    m.masked.hasTagColumns systemDatabase = m.hasTagColumns systemDatabase := rfl

/-- A masked metric has a data source if the metric has. -/
@[simp]
theorem Metric.isEmpty_dataSource_masked (m : Metric) :
    m.masked.dataSource.isEmpty = m.dataSource.isEmpty := by
  cases hsource : m.dataSource.isEmpty <;> simp [masked, hsource, placeholder, Text.ofString]

/-- A masked matcher is for the name of the metric if the matcher is. -/
@[simp]
theorem LabelMatcher.isMetricName_masked (m : LabelMatcher) :
    m.masked.isMetricName = m.isMetricName := by
  unfold masked
  split_ifs with hname
  · rfl
  · rw [Bool.eq_false_iff.mpr hname]
    rfl

/-- The matchers about other labels than the metric's are the masked ones. -/
theorem Query.filter_masked (q : Query) :
    (q.masked.matchers.filter fun m => !m.isMetricName) =
      (q.matchers.filter fun m => !m.isMetricName).map LabelMatcher.masked := by
  unfold masked
  rw [List.filter_map]
  congr 1
  exact List.filter_congr fun m _ => by simp

/-- The column of a plain metric keeps its marks when the name is masked. -/
theorem Metric.Plain.marks_selection (h : metric.Plain) :
    Text.marks metric.selection = Text.marks metric.masked.selection := by
  have hname : Text.marks metric.name = Text.marks metric.masked.name := by
    rw [Text.marks_of_isPlain h.name]
    exact marks_placeholder.symm
  unfold selection
  rw [isResolved_masked]
  split_ifs
  · simp [Text.marks_inBackticks, hname]
  · simp [hname]

/-- So does its source. -/
theorem Metric.Plain.marks_source (h : metric.Plain) :
    Text.marks (Sql.sourceText metric config) =
      Text.marks (Sql.sourceText metric.masked config) := by
  unfold Sql.sourceText
  rw [isResolved_masked]
  split_ifs with hresolved
  · have htable : Text.marks metric.table = Text.marks metric.masked.table := by
      rw [Text.marks_of_isPlain (h.table hresolved)]
      exact marks_placeholder.symm
    unfold sourceTable
    rw [isEmpty_dataSource_masked]
    split_ifs with hsource
    · exact htable
    · -- With a data source, both names are inside one pair of backticks.
      have hword : Text.marks metric.dataSource = Text.marks metric.masked.dataSource := by
        have hmasked : metric.masked.dataSource = placeholder := if_neg hsource
        have hne : metric.dataSource ≠ [] := fun hempty => hsource (List.isEmpty_iff.mpr hempty)
        rw [hmasked, marks_placeholder]
        exact Text.marks_of_isWord (h.dataSource hne)
      simp [Text.marks_inBackticks, htable, hword]
  · have hname : Text.marks metric.name = Text.marks metric.masked.name := by
      rw [Text.marks_of_isPlain h.name]
      exact marks_placeholder.symm
    simp [hname]

/-- The predicate of a matcher with a plain label keeps its marks when the label is masked. -/
theorem LabelMatcher.exists_predicate_masked {text : Text} (hm : m.isMetricName = false)
    (hlabel : isPlain m.name = true)
    (h : m.predicate (some metric) systemDatabase = .ok text) :
    ∃ text', m.masked.predicate (some metric.masked) systemDatabase = .ok text' ∧
      Text.marks text = Text.marks text' := by
  obtain ⟨comparison, hcomparison, -, rfl⟩ := predicate_eq_ok_iff.mp h
  have hmasked : m.masked = { m with name := placeholder } := if_neg (by simp [hm])
  have haccepted : accepts placeholder = true := by decide
  rw [hmasked]
  refine ⟨_, predicate_eq_ok_iff.mpr ⟨comparison, hcomparison, haccepted, rfl⟩, ?_⟩
  have hname : Text.marks m.name = Text.marks placeholder := by
    rw [Text.marks_of_isPlain hlabel, marks_placeholder]
  -- Which style of column it is does not depend on the names.
  have hstyle : columnReference placeholder (some metric.masked) systemDatabase =
      columnReference placeholder (some metric) systemDatabase := rfl
  have hcolumn : Text.marks (columnReference m.name (some metric) systemDatabase) =
      Text.marks (columnReference placeholder (some metric.masked) systemDatabase) := by
    rw [hstyle]
    unfold columnReference
    split_ifs
    · exact hname
    · simp [Text.marks_inBackticks, hname]
  simp [hcolumn]

/-- The predicates of matchers with plain labels keep their marks when the labels are masked. -/
theorem LabelMatcher.exists_predicates_masked {texts : List Text}
    (hlabels : ∀ m ∈ q.matchers, m.isMetricName = false → isPlain m.name = true)
    (h : LabelMatcher.predicates q.matchers (some metric) systemDatabase = .ok texts) :
    ∃ texts', LabelMatcher.predicates q.masked.matchers (some metric.masked) systemDatabase =
      .ok texts' ∧ texts.map Text.marks = texts'.map Text.marks := by
  have hpredicates := predicates_eq_ok_iff.mp h
  simp only [predicates_eq_ok_iff, Query.filter_masked, List.forall₂_map_left_iff]
  -- Along the matchers: each predicate has a masked counterpart with the same marks.
  have hplain : ∀ m ∈ q.matchers.filter fun m => !m.isMetricName,
      m.isMetricName = false ∧ isPlain m.name = true := by
    intro m hm
    obtain ⟨hmem, hother⟩ := List.mem_filter.mp hm
    have hother : m.isMetricName = false := Bool.not_eq_true' _ ▸ hother
    exact ⟨hother, hlabels m hmem hother⟩
  clear h
  generalize (q.matchers.filter fun m => !m.isMetricName) = others at hpredicates hplain ⊢
  induction hpredicates with
  | nil => exact ⟨[], .nil, rfl⟩
  | @cons m text rest texts hpredicate _ ih =>
    obtain ⟨⟨hm, hlabel⟩, hrest⟩ := List.forall_mem_cons.mp hplain
    obtain ⟨text', htext', hmarks⟩ := exists_predicate_masked hm hlabel hpredicate
    obtain ⟨texts', htexts', hmarksRest⟩ := ih hrest
    exact ⟨text' :: texts', .cons htext' htexts', by rw [List.map_cons, hmarks, hmarksRest]; rfl⟩

/-- The marks of a statement are those of its columns, its source and its conditions. -/
theorem marks_assemble_eq {metric' : Metric} {columns columns' predicates predicates' : List Text}
    (hresolved : metric'.isResolved = metric.isResolved)
    (hcolumns : columns.map Text.marks = columns'.map Text.marks)
    (hsource : Text.marks (Sql.sourceText metric config) =
      Text.marks (Sql.sourceText metric' config))
    (hpredicates : predicates.map Text.marks = predicates'.map Text.marks) :
    Text.marks (assemble metric columns predicates config) =
      Text.marks (assemble metric' columns' predicates' config) := by
  have hending : Sql.endingText metric' config = Sql.endingText metric config := by
    unfold Sql.endingText
    rw [hresolved]
  rw [Sql.assemble_eq, Sql.assemble_eq]
  simp only [Text.marks_append, Text.marks_join, hcolumns, hsource, hpredicates, hending]

/-- The statement of a query with plain names keeps its marks when all names are masked. -/
theorem Query.exists_statement_masked {tags : List Text} {sql : Text} (hmetric : metric.Plain)
    (hlabels : ∀ m ∈ q.matchers, m.isMetricName = false → isPlain m.name = true)
    (h : q.statement metric tags config = .ok sql) :
    ∃ sql', q.masked.statement metric.masked tags config = .ok sql' ∧
      Text.marks sql = Text.marks sql' := by
  obtain ⟨predicates, hpredicates, rfl⟩ := map_eq_ok_iff.mp h
  obtain ⟨predicates', hpredicates', hmarks⟩ :=
    LabelMatcher.exists_predicates_masked hlabels hpredicates
  refine ⟨_, map_eq_ok_iff.mpr ⟨predicates', hpredicates', rfl⟩, ?_⟩
  have hrange : q.masked.range = q.range := rfl
  refine marks_assemble_eq metric.isResolved_masked ?_ hmetric.marks_source ?_
  · simp only [List.map_cons, hmetric.marks_selection]
  · simp only [List.map_cons, hrange, hmarks]

/-- The statement that a query is compiled into is its statement for the compiled metric. -/
theorem Query.statement_of_compile {catalog : Option TagCatalog} {compiled : CompiledQuery}
    {calls : List CatalogCall} (h : q.compile config catalog = .ok (compiled, calls)) :
    q.statement compiled.metric (expandTags compiled.metric compiled.range config catalog).1
      config = .ok compiled.sql := by
  obtain ⟨metric, predicates, range, rfl, -, -, hpredicates, -, rfl⟩ :=
    Query.compile_eq_ok_iff.mp h
  exact map_eq_ok_iff.mpr ⟨predicates, hpredicates, rfl⟩

/-- The names of a metric and the label of a matcher are plain, with or without a line feed behind
them. Where no name has one, the statement has the letters, digits and underscores of the names, and
all its other code points are those of the statement with a placeholder for each name. -/
theorem names_plain_unless_endsLine (databases : Registry) (config : Config)
    (catalog : Option TagCatalog) :
    (∀ name m, Metric.ofName databases name = .ok m →
      m.WellFormed ∧ (m.Plain ↔ ¬ m.EndsLine)) ∧
    (∀ (m : LabelMatcher) metric systemDatabase text,
      m.predicate metric systemDatabase = .ok text →
        accepts m.name = true ∧ (isPlain m.name = true ↔ ¬ m.name.EndsLine)) ∧
    (∀ (q : Query) compiled calls,
      q.compile config catalog = .ok (compiled, calls) → ¬ compiled.metric.EndsLine →
      (∀ m ∈ q.matchers, m.isMetricName = false → ¬ m.name.EndsLine) →
        ∃ masked,
          q.masked.statement compiled.metric.masked
            (expandTags compiled.metric compiled.range config catalog).1 config = .ok masked ∧
          Text.marks compiled.sql = Text.marks masked) := by
  refine ⟨fun name m hname => ?_, fun m metric systemDatabase text htext => ?_, ?_⟩
  · have hformed := Metric.wellFormed_of_ofName hname
    exact ⟨hformed, hformed.plain_iff⟩
  · obtain ⟨-, -, hlabel, -⟩ := LabelMatcher.predicate_eq_ok_iff.mp htext
    exact ⟨hlabel, LabelMatcher.isPlain_iff_of_predicate htext⟩
  · intro q compiled calls hcompile hmetric hlabels
    have hformed : compiled.metric.WellFormed := by
      obtain ⟨metric, -, -, -, -, hread, -, -, rfl⟩ := Query.compile_eq_ok_iff.mp hcompile
      obtain ⟨first, -, hname⟩ := Query.metric_eq_some_iff.mp hread
      exact Metric.wellFormed_of_ofName hname
    have hsound := (Query.exists_compile_iff.mp ⟨_, hcompile⟩).matchers
    -- A name without a line feed at its end is plain, and plain names may be masked.
    refine Query.exists_statement_masked (hformed.plain_iff.mpr hmetric) (fun m hm hother => ?_)
      (Query.statement_of_compile hcompile)
    exact (Identifier.isPlain_iff_of_accepts (hsound m hm hother).label).mpr
      (hlabels m hm hother)

/-- A query for a metric of an interval, with a matcher in front. -/
def intervalQuery : Query where
  startMs := 1000
  endMs := 2000
  matchers := [⟨2, "pod", "web-.*"⟩, ⟨0, metricNameLabel, "flow_log__l7_flow_log__byte__1m"⟩]

/-- The metric that it reads. -/
def intervalMetric : Metric := ⟨"byte", "flow_log", "l7_flow_log", "1m"⟩

/-- The name ends no line. -/
theorem not_endsLine_intervalMetric : ¬ intervalMetric.EndsLine := by
  unfold Metric.EndsLine
  decide

/-- Five places of the statement hold a name: the column and its alias, the table and the interval
in backticks, and the column of the label. -/
theorem names_plain_interval : ∃ sql masked,
    Metric.ofName defaultDatabases "flow_log__l7_flow_log__byte__1m" = .ok intervalMetric ∧
    intervalMetric.Plain ∧ isPlain "pod" = true ∧
    intervalQuery.compile {} none = .ok (⟨sql, "flow_log", "1m", intervalMetric, ⟨1, 2⟩⟩, []) ∧
    intervalQuery.masked.statement intervalMetric.masked [] {} = .ok masked ∧
    Text.marks sql = Text.marks masked := by
  obtain ⟨hmetric, hlabel, hstatement⟩ := names_plain_unless_endsLine defaultDatabases {} none
  have hname : Metric.ofName defaultDatabases "flow_log__l7_flow_log__byte__1m" =
      .ok intervalMetric := rfl
  have hcompile : intervalQuery.compile {} none =
      .ok (⟨_, "flow_log", "1m", intervalMetric, ⟨1, 2⟩⟩, []) := rfl
  have hpod : ∀ m ∈ intervalQuery.matchers, m.isMetricName = false → ¬ m.name.EndsLine := by decide
  obtain ⟨masked, hmasked, hmarks⟩ :=
    hstatement intervalQuery _ _ hcompile not_endsLine_intervalMetric hpod
  have hplain : isPlain "pod" = true :=
    (hlabel ⟨2, "pod", "web-.*"⟩ none "deepflow_system" _ rfl).2.mpr (by decide)
  exact ⟨_, masked, hname, (hmetric _ _ hname).2.mpr not_endsLine_intervalMetric, hplain,
    hcompile, hmasked, hmarks⟩

/-- A query whose names end a line. -/
def lineQuery : Query where
  startMs := 1000
  endMs := 2000
  matchers := [⟨0, metricNameLabel, "up\n"⟩, ⟨0, "job\n", "api"⟩]

/-- A name and a label that end a line are accepted, and bring the line feed into the statement. -/
theorem lineFeed_in_statement : ∃ compiled,
    Metric.ofName defaultDatabases "up\n" = .ok { name := "up\n" } ∧ isPlain "up\n" = false ∧
    LabelMatcher.predicate ⟨0, "job\n", "api"⟩ none "deepflow_system" =
      .ok "`tag.job\n`='api'" ∧ isPlain "job\n" = false ∧
    lineQuery.compile {} none = .ok (compiled, []) ∧
    compiled.metric.name = Text.ofString "up\n" ∧
    CodePoint.ofChar '\n' ∈ Text.marks compiled.sql :=
  ⟨_, rfl, by decide, rfl, by decide, rfl, rfl, by decide⟩

end RemoteRead
