import RemoteRead.Proofs.Compile
import RemoteRead.Proofs.Sql.Phrase

/-!
# The tokens of a compiled statement

`lex_compile` gives the tokens of every statement that a query is compiled into. All of them come
from the query's metric, range and labels, from the catalog and from the configuration, but for one
literal per matcher, which denotes the matcher's value.

The parts of a statement are phrases: its columns (`phrase_columns`), its source (`phrase_source`),
and its conditions with the ending (`phrase_compiled`). `lex_assemble` puts them together.
-/

namespace RemoteRead.Sql

open Identifier (accepts dropLineFeed isPlain)

/-! ## Tokens of the parts -/

/-- The word of an identifier. -/
def identifierToken (t : Text) : Token := .word (dropLineFeed t)

/-- The tokens of the column of the time. -/
def timeTokens : List Token :=
  [.word "toUnixTimestamp", .mark "(", .word "time", .mark ")", .word "AS", .word "timestamp"]

/-- The tokens of the column of a metric. -/
def selectionTokens (metric : Metric) : List Token :=
  if metric.isResolved then
    [identifierToken metric.name, .word "as", .name backtick ("metrics." ++ metric.name)]
  else [.word "metrics", .mark ".", identifierToken metric.name]

/-- The token of the table of a metric: its identifier, or one name with the data source. -/
def tableToken (metric : Metric) : Token :=
  if metric.dataSource.isEmpty then identifierToken metric.table
  else .name backtick (metric.table ++ "." ++ metric.dataSource)

/-- The tokens of the source of a metric: its table, or its view. -/
def sourceTokens (metric : Metric) (config : Config) : List Token :=
  if metric.isResolved then [tableToken metric]
  else [.word config.virtualNamespace, .mark ".", identifierToken metric.name]

/-- The tokens of the condition on the time. -/
def rangeTokens (r : TimeRange) : List Token :=
  [.mark "(", .word "time", .mark ">="] ++ (integerTokens r.start ++
    ([.word "AND", .word "time", .mark "<="] ++ (integerTokens r.stop ++ [.mark ")"])))

/-- The tokens of the column of a label. -/
def referenceTokens (label : Text) (metric : Metric) (systemDatabase : Text) : List Token :=
  if metric.hasTagColumns systemDatabase then [identifierToken label]
  else [.name backtick ("tag." ++ label)]

/-- The tokens of a comparison. -/
def comparisonTokens : Comparison → List Token
  | .equal => [.mark "="]
  | .notEqual => [.mark "!="]
  | .matchesPattern => [.word "regexp"]
  | .failsPattern => [.word "not", .word "regexp"]

/-- The tokens of the condition of a matcher in front of its value; one of an unknown type has no
comparison. -/
def leadTokens (metric : Metric) (systemDatabase : Text) (m : LabelMatcher) : List Token :=
  referenceTokens m.name metric systemDatabase ++
    ((Comparison.ofNumber? m.type).map comparisonTokens).getD []

/-- The tokens of the condition of a matcher. -/
def matcherTokens (metric : Metric) (systemDatabase : Text) (m : LabelMatcher) : List Token :=
  leadTokens metric systemDatabase m ++ [.literal m.value]

/-- The tokens behind the conditions: the order of a table, and the limit. -/
def endingTokens (metric : Metric) (config : Config) : List Token :=
  (if metric.isResolved then [.word "ORDER", .word "BY", .word "time", .word "desc"] else []) ++
    .word "LIMIT" :: integerTokens config.rowLimit

/-- The tokens of the columns of a statement. -/
def columnTokens (metric : Metric) (tags : List Text) : List Token :=
  timeTokens ++ (selectionTokens metric :: tags.map lex).flatMap ([.mark ","] ++ ·)

/-- The tokens of the conditions of a query. -/
def conditionTokens (metric : Metric) (range : TimeRange) (q : Query) (config : Config) :
    List Token :=
  rangeTokens range ++ ((q.matchers.filter fun m => !m.isMetricName).map
    (matcherTokens metric config.systemDatabase)).flatMap ([.word "AND"] ++ ·)

/-- The tokens of the statement of a query. -/
def statementTokens (metric : Metric) (tags : List Text) (range : TimeRange) (q : Query)
    (config : Config) : List Token :=
  .word "SELECT" :: (columnTokens metric tags ++ .word "FROM" :: (sourceTokens metric config ++
    .word "WHERE" :: (conditionTokens metric range q config ++ endingTokens metric config)))

/-! ## The parts are phrases -/

variable {metric : Metric} {config : Config} {systemDatabase : Text}

/-- The column of the time is a phrase. -/
theorem phrase_timeSelection : Phrase timeSelection timeTokens := by
  have hopening : Opening (Text.ofString "toUnixTimestamp(time) AS ")
      [.word "toUnixTimestamp", .mark "(", .word "time", .mark ")", .word "AS"] := fun _ => rfl
  have hword : Phrase (Text.ofString "timestamp") [.word "timestamp"] := phrase_plain (by decide)
  exact hopening.append hword

/-- The column of a metric. -/
theorem phrase_selection (hmetric : metric.WellFormed) :
    Phrase metric.selection (selectionTokens metric) := by
  have hname : Phrase metric.name [identifierToken metric.name] := phrase_identifier hmetric.name
  unfold Metric.selection selectionTokens
  split_ifs
  · have hseparator : Separator (Text.ofString " as ") [.word "as"] :=
      ⟨fun _ => rfl, by decide, by decide⟩
    have hunquoted : Unquoted (Text.ofString "metrics." ++ metric.name) :=
      Unquoted.append (by decide) (unquoted_of_accepts hmetric.name)
    have hphrase := hname.separate hseparator (phrase_inBackticks hunquoted)
    simpa using hphrase
  · have hopening : Opening (Text.ofString "metrics.") [.word "metrics", .mark "."] := fun _ => rfl
    exact hopening.append hname

/-- The table of a metric. -/
theorem phrase_sourceTable (hmetric : metric.WellFormed) (hresolved : metric.isResolved = true) :
    Phrase metric.sourceTable [tableToken metric] := by
  have htable := hmetric.table hresolved
  unfold Metric.sourceTable tableToken
  cases hsource : metric.dataSource.isEmpty with
  | true => exact phrase_identifier htable
  | false =>
    -- Neither the table nor the data source can close the backticks.
    have hunquoted : Unquoted (metric.table ++ Text.ofString "." ++ metric.dataSource) :=
      ((unquoted_of_accepts htable).append (by decide)).append
        (unquoted_of_acceptsWord (hmetric.dataSource hsource))
    exact phrase_inBackticks hunquoted

/-- The condition on the time. -/
theorem phrase_range (r : TimeRange) : Phrase r.predicate (rangeTokens r) := by
  have hopening : Opening (Text.ofString "(time >= ") [.mark "(", .word "time", .mark ">="] :=
    fun _ => rfl
  have hseparator : Separator (Text.ofString " AND time <= ")
      [.word "AND", .word "time", .mark "<="] := ⟨fun _ => rfl, by decide, by decide⟩
  have hclosing : Opening (Text.ofString ")") [.mark ")"] := fun _ => rfl
  -- From the back: the last number stops at the parenthesis, the first one at the blank.
  have hstop : Phrase (Text.ofInt r.stop ++ Text.ofString ")")
      (integerTokens r.stop ++ [.mark ")"]) :=
    (phrase_ofInt r.stop).append (by decide) hclosing.phrase
  have hphrase := hopening.append ((phrase_ofInt r.start).separate hseparator hstop)
  have htext : r.predicate = Text.ofString "(time >= " ++ (Text.ofInt r.start ++
      (Text.ofString " AND time <= " ++ (Text.ofInt r.stop ++ Text.ofString ")"))) := by
    simp [TimeRange.predicate, TimeRange.comparison, Text.ofString]
  rw [htext]
  exact hphrase

/-- The column of a label. -/
theorem phrase_reference {label : Text} (hlabel : accepts label = true) :
    Phrase (columnReference label (some metric) systemDatabase)
      (referenceTokens label metric systemDatabase) := by
  unfold columnReference referenceTokens
  simp only [Option.map_some, Option.getD_some]
  split_ifs
  · exact phrase_identifier hlabel
  · exact phrase_inBackticks (Unquoted.append (by decide) (unquoted_of_accepts hlabel))

/-- A comparison with a value; the quote of the value ends the comparison. -/
theorem phrase_comparison (comparison : Comparison) (value : Text) :
    Phrase (comparison.operator ++ quoteLiteral value)
      (comparisonTokens comparison ++ [.literal value]) := by
  intro rest hrest
  have hvalue := phrase_quoteLiteral value rest hrest
  -- With the quote of the value in place, every operator is read off by computation.
  rw [List.append_assoc, List.append_assoc, ← hvalue]
  cases comparison <;> rfl

/-- The condition of a matcher. -/
theorem phrase_predicate {m : LabelMatcher} {text : Text}
    (h : m.predicate (some metric) systemDatabase = .ok text) :
    Phrase text (matcherTokens metric systemDatabase m) := by
  obtain ⟨comparison, hcomparison, hlabel, rfl⟩ := LabelMatcher.predicate_eq_ok_iff.mp h
  have hstops : Stops (comparison.operator ++ quoteLiteral m.value) :=
    Stops.append_of_ne_nil (by cases comparison <;> decide) (by cases comparison <;> decide) _
  unfold matcherTokens leadTokens
  rw [hcomparison, List.append_assoc, List.append_assoc]
  exact (phrase_reference hlabel).append hstops (phrase_comparison comparison m.value)

/-! ## The tag columns -/

/-- A catalog that names no column with a backtick or a backslash. -/
def PlainColumns (catalog : TagCatalog) : Prop :=
  ∀ call tags, catalog call = .ok tags → ∀ d ∈ tags,
    Unquoted d.name ∧ Unquoted d.clientName ∧ Unquoted d.serverName

/-- Each column of a described tag is a name in backticks. -/
theorem exists_name_of_mem_columns {d : TagDescription} {isEdge : Bool} (hname : Unquoted d.name)
    (hclient : Unquoted d.clientName) (hserver : Unquoted d.serverName) {column : Text}
    (h : column ∈ d.columns isEdge) :
    ∃ t, Unquoted t ∧ column = Metric.inBackticks t := by
  unfold TagDescription.columns at h
  split_ifs at h
  · simp at h
  · simp only [List.mem_cons, List.not_mem_nil, or_false] at h
    rcases h with rfl | rfl
    · exact ⟨_, hclient, rfl⟩
    · exact ⟨_, hserver, rfl⟩
  · obtain rfl := List.mem_singleton.mp h
    exact ⟨_, hname, rfl⟩

/-- Each tag column is one token: a word, or a name in backticks. -/
theorem exists_tagToken {catalog : Option TagCatalog} (hcatalog : ∀ ask ∈ catalog, PlainColumns ask)
    {range : TimeRange} {column : Text} (h : column ∈ (expandTags metric range config catalog).1) :
    ∃ t, Phrase column [.word t] ∨ Phrase column [.name backtick t] := by
  unfold expandTags at h
  split_ifs at h
  · -- Views and the system database have one column for all tags.
    obtain rfl := List.mem_singleton.mp h
    exact ⟨"tag", .inl (phrase_plain (by decide))⟩
  · cases catalog with
    | none => simp at h
    | some ask =>
      dsimp only at h
      split at h
      · simp at h
      · rename_i tags htags
        obtain ⟨d, hd, hcolumn⟩ := List.mem_flatMap.mp h
        obtain ⟨hname, hclient, hserver⟩ := hcatalog ask rfl _ tags htags d hd
        obtain ⟨t, ht, rfl⟩ := exists_name_of_mem_columns hname hclient hserver hcolumn
        exact ⟨t, .inr (phrase_inBackticks ht)⟩

/-- Tag columns are phrases. -/
theorem phrase_tags {catalog : Option TagCatalog} (hcatalog : ∀ ask ∈ catalog, PlainColumns ask)
    (range : TimeRange) : List.Forall₂ Phrase (expandTags metric range config catalog).1
      ((expandTags metric range config catalog).1.map lex) := by
  rw [List.forall₂_map_right_iff, List.forall₂_same]
  intro column hcolumn
  obtain ⟨t, h | h⟩ := exists_tagToken hcatalog hcolumn
  · rw [h.lex_eq]
    exact h
  · rw [h.lex_eq]
    exact h

/-! ## Statements -/

/-- The text of the source of a metric. -/
def sourceText (metric : Metric) (config : Config) : Text :=
  if metric.isResolved then metric.sourceTable
  else config.virtualNamespace ++ (Text.ofString "." ++ metric.name)

/-- The text behind the conditions. -/
def endingText (metric : Metric) (config : Config) : Text :=
  (if metric.isResolved then Text.ofString " ORDER BY time desc LIMIT "
    else Text.ofString " LIMIT ") ++ Text.ofInt config.rowLimit

/-- A statement consists of its columns, its source, its conditions and its ending. -/
theorem assemble_eq (metric : Metric) (columns predicates : List Text) (config : Config) :
    assemble metric columns predicates config =
      Text.ofString "SELECT " ++ (Text.join "," columns ++ (Text.ofString " FROM " ++
        (sourceText metric config ++ (Text.ofString " WHERE " ++
          (Text.join " AND " predicates ++ endingText metric config))))) := by
  unfold assemble sourceText endingText
  have hlimit : Text.ofString " ORDER BY time desc LIMIT " =
      Text.ofString " ORDER BY time desc" ++ Text.ofString " LIMIT " := rfl
  split_ifs
  · simp [hlimit]
  · simp

/-- The source of a metric. -/
theorem phrase_source (hmetric : metric.WellFormed)
    (hnamespace : isPlain config.virtualNamespace = true) :
    Phrase (sourceText metric config) (sourceTokens metric config) := by
  unfold sourceText sourceTokens
  split_ifs with hresolved
  · exact phrase_sourceTable hmetric hresolved
  · have hpoint : Separator (Text.ofString ".") [.mark "."] :=
      ⟨fun _ => rfl, by decide, by decide⟩
    exact (phrase_plain hnamespace).separate hpoint (phrase_identifier hmetric.name)

/-- Conditions with the ending of a statement behind them. -/
theorem phrase_conditions {range : TimeRange} {predicates : List Text}
    {conditions : List (List Token)} (h : List.Forall₂ Phrase predicates conditions)
    (metric : Metric) (config : Config) :
    Phrase (Text.join " AND " (range.predicate :: predicates) ++ endingText metric config)
      (rangeTokens range ++ conditions.flatMap ([.word "AND"] ++ ·) ++
        endingTokens metric config) := by
  have hseparator : Separator (Text.ofString " AND ") [.word "AND"] :=
    ⟨fun _ => rfl, by decide, by decide⟩
  have hjoin := Phrase.join hseparator (phrase_range range) h
  have hlimit := phrase_ofInt config.rowLimit
  unfold endingText endingTokens
  split_ifs
  · -- A table is read in an order.
    have horder : Separator (Text.ofString " ORDER BY time desc LIMIT ")
        [.word "ORDER", .word "BY", .word "time", .word "desc", .word "LIMIT"] :=
      ⟨fun _ => rfl, by decide, by decide⟩
    have hphrase := hjoin.separate horder hlimit
    exact hphrase
  · -- A view has its own.
    have hplain : Separator (Text.ofString " LIMIT ") [.word "LIMIT"] :=
      ⟨fun _ => rfl, by decide, by decide⟩
    have hphrase := hjoin.separate hplain hlimit
    exact hphrase

/-- The columns of a statement. -/
theorem phrase_columns {catalog : Option TagCatalog} (hmetric : metric.WellFormed)
    (hcatalog : ∀ ask ∈ catalog, PlainColumns ask) (range : TimeRange) (config : Config) :
    Phrase (Text.join "," (timeSelection :: metric.selection ::
        (expandTags metric range config catalog).1))
      (columnTokens metric (expandTags metric range config catalog).1) := by
  have hseparator : Separator (Text.ofString ",") [.mark ","] :=
    ⟨fun _ => rfl, by decide, by decide⟩
  exact Phrase.join hseparator phrase_timeSelection
    (.cons (phrase_selection hmetric) (phrase_tags hcatalog range))

/-- The word in front of the conditions. -/
theorem separator_where : Separator (Text.ofString " WHERE ") [.word "WHERE"] :=
  ⟨fun _ => rfl, by decide, by decide⟩

/-- A statement has the tokens of its columns, whatever its source and its conditions are. -/
theorem lex_assemble_columns {columns : List Text} {columnTokens : List Token}
    (hcolumns : Phrase (Text.join "," columns) columnTokens) (metric : Metric)
    (predicates : List Text) (config : Config) :
    lex (assemble metric columns predicates config) =
      .word "SELECT" :: (columnTokens ++ .word "FROM" :: lex (sourceText metric config ++
        (Text.ofString " WHERE " ++
          (Text.join " AND " predicates ++ endingText metric config)))) := by
  have hselect : Opening (Text.ofString "SELECT ") [.word "SELECT"] := fun _ => rfl
  have hfrom : Separator (Text.ofString " FROM ") [.word "FROM"] :=
    ⟨fun _ => rfl, by decide, by decide⟩
  rw [assemble_eq, hselect, hcolumns _ (hfrom.stops.append_of_ne_nil hfrom.ne_nil _),
    hfrom.opening]
  rfl

/-- A statement has its source between its columns and its conditions. -/
theorem lex_assemble {columns predicates : List Text} {columnTokens conditionTokens : List Token}
    (hmetric : metric.WellFormed) (hnamespace : isPlain config.virtualNamespace = true)
    (hcolumns : Phrase (Text.join "," columns) columnTokens)
    (hconditions : Phrase (Text.join " AND " predicates ++ endingText metric config)
      conditionTokens) :
    lex (assemble metric columns predicates config) =
      .word "SELECT" :: (columnTokens ++ .word "FROM" :: (sourceTokens metric config ++
        .word "WHERE" :: conditionTokens)) := by
  have hsource := phrase_source hmetric hnamespace
  rw [lex_assemble_columns hcolumns, (hsource.separate separator_where hconditions).lex_eq]
  rfl

/-- The conditions of a compiled query are those of its range and its matchers. -/
theorem phrase_compiled {q : Query} {predicates : List Text} (range : TimeRange)
    (h : LabelMatcher.predicates q.matchers (some metric) config.systemDatabase = .ok predicates) :
    Phrase (Text.join " AND " (range.predicate :: predicates) ++ endingText metric config)
      (conditionTokens metric range q config ++ endingTokens metric config) := by
  have hpredicates : List.Forall₂ Phrase predicates
      ((q.matchers.filter fun m => !m.isMetricName).map
        (matcherTokens metric config.systemDatabase)) := by
    rw [List.forall₂_map_right_iff]
    exact ((LabelMatcher.predicates_eq_ok_iff.mp h).imp
      fun _ _ hpredicate => phrase_predicate hpredicate).flip
  exact phrase_conditions hpredicates metric config

/-- The statement that a query is compiled into has its source between columns and conditions, and
its tokens are those of these parts. -/
theorem lex_compile {q : Query} {catalog : Option TagCatalog} {compiled : CompiledQuery}
    {calls : List CatalogCall} (hnamespace : isPlain config.virtualNamespace = true)
    (hcatalog : ∀ ask ∈ catalog, PlainColumns ask)
    (h : q.compile config catalog = .ok (compiled, calls)) :
    ∃ columns conditions : Text,
      compiled.sql = "SELECT " ++ columns ++ " FROM " ++ sourceText compiled.metric config ++
        " WHERE " ++ conditions ∧
      lex columns = columnTokens compiled.metric
        (expandTags compiled.metric compiled.range config catalog).1 ∧
      lex conditions = conditionTokens compiled.metric compiled.range q config ++
        endingTokens compiled.metric config ∧
      lex compiled.sql = statementTokens compiled.metric
        (expandTags compiled.metric compiled.range config catalog).1 compiled.range q config := by
  obtain ⟨metric, predicates, range, -, -, hmetric, hpredicates, -, rfl⟩ :=
    Query.compile_eq_ok_iff.mp h
  obtain ⟨m, -, hname⟩ := Query.metric_eq_some_iff.mp hmetric
  have hformed := Metric.wellFormed_of_ofName hname
  -- Select list and conditions are phrases: they lex alone as they do in the statement.
  have hcolumns := phrase_columns hformed hcatalog range config
  have hconditions := phrase_compiled range hpredicates
  refine ⟨_, _, ?_, hcolumns.lex_eq, hconditions.lex_eq,
    lex_assemble hformed hnamespace hcolumns hconditions⟩
  dsimp only
  rw [assemble_eq]
  simp

end RemoteRead.Sql
