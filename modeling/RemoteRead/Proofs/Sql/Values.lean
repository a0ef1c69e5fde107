import RemoteRead.Proofs.Sql.Statement

/-!
# Values of matchers stay literals

Whatever the values of a request are, its statement has one literal for each of them and is else the
statement of the same request with empty values: `values_stay_literals`. So no value ends its
literal early, opens a comment or adds a token. The source of a resolved metric is a single token.

The statement's tokens are known (`lex_compile`). All but the literals of its matchers are fixed,
which means that they are neither literals nor comments nor left open, and do not depend on the
values. What the theorem says of all tokens is then read off the literals.
-/

namespace RemoteRead

/-- The matcher with an empty value, unless it is about the name of the metric. -/
def LabelMatcher.blank (m : LabelMatcher) : LabelMatcher :=
  if m.isMetricName then m else { m with value := [] }

/-- The query with empty values. -/
def Query.blank (q : Query) : Query := { q with matchers := q.matchers.map LabelMatcher.blank }

/-- The request with empty values. -/
def ReadRequest.blank (r : ReadRequest) : ReadRequest :=
  { r with queries := r.queries.map Query.blank }

/-- The values of a query, those that are compared with the name of the metric apart. -/
def Query.values (q : Query) : List Text :=
  (q.matchers.filter fun m => !m.isMetricName).map (·.value)

/-- Without its value a matcher has the same type. -/
@[simp]
theorem LabelMatcher.type_blank (m : LabelMatcher) : m.blank.type = m.type := by
  unfold blank
  split_ifs <;> rfl

/-- Without its value a matcher has the same name. -/
@[simp]
theorem LabelMatcher.name_blank (m : LabelMatcher) : m.blank.name = m.name := by
  unfold blank
  split_ifs <;> rfl

/-- Without its value a matcher is for the name of the metric if it is with it. -/
@[simp]
theorem LabelMatcher.isMetricName_blank (m : LabelMatcher) :
    m.blank.isMetricName = m.isMetricName := by
  unfold isMetricName
  rw [name_blank]

/-- The matchers about other labels than the metric's are the same, with empty values. -/
theorem Query.filter_blank (q : Query) :
    (q.blank.matchers.filter fun m => !m.isMetricName) =
      (q.matchers.filter fun m => !m.isMetricName).map LabelMatcher.blank := by
  unfold blank
  rw [List.filter_map]
  congr 1
  exact List.filter_congr fun m _ => by simp

/-- The metric does not depend on the values. -/
theorem Query.metric_blank (q : Query) (config : Config) :
    q.blank.metric config = q.metric config := by
  have hsame : LabelMatcher.isMetricName ∘ LabelMatcher.blank = LabelMatcher.isMetricName :=
    funext LabelMatcher.isMetricName_blank
  unfold metric blank
  rw [List.find?_map, hsame]
  cases hfind : q.matchers.find? LabelMatcher.isMetricName with
  | none => rfl
  | some m =>
    have hname : m.isMetricName = true := List.find?_some hfind
    -- The matcher that names the metric keeps its value.
    have hblank : m.blank = m := if_pos hname
    simp [hblank]

/-- Whether a matcher has a predicate does not depend on its value. -/
theorem LabelMatcher.exists_predicate_blank {m : LabelMatcher} {metric : Option Metric}
    {systemDatabase text : Text} (h : m.predicate metric systemDatabase = .ok text) :
    ∃ text', m.blank.predicate metric systemDatabase = .ok text' := by
  obtain ⟨comparison, hcomparison, hlabel, -⟩ := predicate_eq_ok_iff.mp h
  rw [← m.type_blank] at hcomparison
  rw [← m.name_blank] at hlabel
  exact ⟨_, predicate_eq_ok_iff.mpr ⟨comparison, hcomparison, hlabel, rfl⟩⟩

/-- A query that is compiled is also compiled with empty values, for the same metric and range and
with the same questions to the catalog. -/
theorem Query.exists_compile_blank {q : Query} {config : Config} {catalog : Option TagCatalog}
    {compiled : CompiledQuery} {calls : List CatalogCall}
    (h : q.compile config catalog = .ok (compiled, calls)) :
    ∃ blank, q.blank.compile config catalog = .ok (blank, calls) ∧
      blank.metric = compiled.metric ∧ blank.range = compiled.range := by
  obtain ⟨metric, predicates, range, hrange, hordered, hmetric, hpredicates, hcalls, rfl⟩ :=
    Query.compile_eq_ok_iff.mp h
  -- Each predicate has a counterpart, since only its literal comes from the value.
  obtain ⟨predicates', hpredicates'⟩ : ∃ predicates', LabelMatcher.predicates q.blank.matchers
      (some metric) config.systemDatabase = .ok predicates' := by
    simp only [LabelMatcher.predicates_eq_ok_iff, Query.filter_blank, List.forall₂_map_left_iff]
    refine Outcome.exists_forall₂ fun m hm => ?_
    obtain ⟨text, -, htext⟩ :=
      Outcome.exists_of_mem_left (LabelMatcher.predicates_eq_ok_iff.mp hpredicates) hm
    exact LabelMatcher.exists_predicate_blank htext
  refine ⟨_, Query.compile_eq_ok_iff.mpr ⟨metric, predicates', range, hrange, hordered, ?_,
    hpredicates', hcalls, rfl⟩, rfl, rfl⟩
  rw [Query.metric_blank, hmetric]

namespace Sql

open Identifier (isPlain)

namespace Token

/-- A token that is neither a comment nor left open. -/
def isClosed : Token → Bool
  | comment _ => false
  | unterminated _ => false
  | _ => true

/-- The text that a literal denotes. -/
def literal? : Token → Option Text
  | literal value => some value
  | _ => none

/-- The token with an empty text if it is a literal. -/
def blank : Token → Token
  | literal _ => literal []
  | token => token

/-- A closed token that is no literal. -/
def isFixed (token : Token) : Bool := token.isClosed && token.literal?.isNone

/-- A word is fixed. -/
@[simp]
theorem isFixed_word (t : Text) : (word t).isFixed = true := rfl

/-- A number is fixed. -/
@[simp]
theorem isFixed_number (digits : Text) : (number digits).isFixed = true := rfl

/-- A mark is fixed. -/
@[simp]
theorem isFixed_mark (t : Text) : (mark t).isFixed = true := rfl

/-- A quoted name is fixed. -/
@[simp]
theorem isFixed_name (quote : CodePoint) (t : Text) : (name quote t).isFixed = true := rfl

/-- A fixed token is closed. -/
theorem isClosed_of_isFixed {token : Token} (h : token.isFixed = true) : token.isClosed = true :=
  (Bool.and_eq_true_iff.mp h).1

/-- A fixed token has no value to be dropped. -/
theorem blank_of_isFixed {token : Token} (h : token.isFixed = true) : token.blank = token := by
  cases token <;> simp [isFixed, literal?, blank] at h ⊢

end Token

variable {metric : Metric} {config : Config} {tokens tokens' : List Token}

/-! ## Fixed tokens -/

/-- Tokens none of which is a literal, a comment or left open. -/
def Fixed (tokens : List Token) : Prop := ∀ token ∈ tokens, token.isFixed = true

/-- Whether tokens are fixed can be decided. -/
instance (tokens : List Token) : Decidable (Fixed tokens) :=
  inferInstanceAs (Decidable (∀ token ∈ tokens, token.isFixed = true))

/-- Fixed tokens in front of fixed ones are fixed. -/
theorem Fixed.append (h : Fixed tokens) (h' : Fixed tokens') : Fixed (tokens ++ tokens') := by
  intro token ht
  rcases List.mem_append.mp ht with ht | ht
  · exact h token ht
  · exact h' token ht

/-- A fixed token in front of fixed ones keeps them fixed. -/
theorem Fixed.cons {token : Token} (h : token.isFixed = true) (h' : Fixed tokens) :
    Fixed (token :: tokens) := List.forall_mem_cons.mpr ⟨h, h'⟩

/-- Fixed tokens stay as they are with empty values. -/
theorem Fixed.map_blank (h : Fixed tokens) : tokens.map Token.blank = tokens := by
  conv_rhs => rw [← List.map_id tokens]
  exact List.map_congr_left fun token ht => Token.blank_of_isFixed (h token ht)

/-- Fixed tokens hold no literals. -/
theorem Fixed.filterMap_literal? (h : Fixed tokens) : tokens.filterMap Token.literal? = [] := by
  refine List.filterMap_eq_nil_iff.mpr fun token ht => ?_
  have hfixed := h token ht
  simp only [Token.isFixed, Bool.and_eq_true, Option.isNone_iff_eq_none] at hfixed
  exact hfixed.2

/-- The tokens of a number are fixed. -/
theorem fixed_integerTokens (n : Int) : Fixed (integerTokens n) := by
  unfold integerTokens
  split_ifs <;> simp [Fixed]

/-- The tokens of the condition on the time are fixed. -/
theorem fixed_rangeTokens (r : TimeRange) : Fixed (rangeTokens r) :=
  Fixed.append (by decide) ((fixed_integerTokens r.start).append
    (Fixed.append (by decide) ((fixed_integerTokens r.stop).append (by decide))))

/-- The tokens of the column of a metric are fixed. -/
theorem fixed_selectionTokens (metric : Metric) : Fixed (selectionTokens metric) := by
  unfold selectionTokens
  split_ifs <;> simp [Fixed, identifierToken]

/-- The tokens of the source of a metric are fixed. -/
theorem fixed_sourceTokens (metric : Metric) (config : Config) :
    Fixed (sourceTokens metric config) := by
  unfold sourceTokens tableToken
  split_ifs <;> simp [Fixed, identifierToken]

/-- The tokens of the end of a statement are fixed. -/
theorem fixed_endingTokens (metric : Metric) (config : Config) :
    Fixed (endingTokens metric config) := by
  unfold endingTokens
  refine Fixed.append ?_ (Fixed.cons (by decide) (fixed_integerTokens config.rowLimit))
  split_ifs <;> decide

/-- The tag columns hold no literals. -/
theorem fixed_columnTokens {catalog : Option TagCatalog}
    (hcatalog : ∀ ask ∈ catalog, PlainColumns ask) (range : TimeRange) :
    Fixed (columnTokens metric (expandTags metric range config catalog).1) := by
  refine Fixed.append (by decide) ?_
  intro token ht
  obtain ⟨column, hcolumn, ht⟩ := List.mem_flatMap.mp ht
  have hfixed : Fixed column := by
    rcases List.mem_cons.mp hcolumn with rfl | hcolumn
    · exact fixed_selectionTokens metric
    · obtain ⟨tag, htag, rfl⟩ := List.mem_map.mp hcolumn
      obtain ⟨t, h | h⟩ := exists_tagToken hcatalog htag
      · rw [h.lex_eq]
        simp [Fixed]
      · rw [h.lex_eq]
        simp [Fixed]
  exact Fixed.append (by decide) hfixed token ht

/-- The tokens of a condition in front of its value are fixed. -/
theorem fixed_leadTokens (metric : Metric) (systemDatabase : Text) (m : LabelMatcher) :
    Fixed (leadTokens metric systemDatabase m) := by
  have hreference : Fixed (referenceTokens m.name metric systemDatabase) := by
    unfold referenceTokens
    split_ifs <;> simp [Fixed, identifierToken]
  have hcomparison : Fixed (((Comparison.ofNumber? m.type).map comparisonTokens).getD []) := by
    cases Comparison.ofNumber? m.type with
    | none => decide
    | some comparison => cases comparison <;> decide
  exact hreference.append hcomparison

/-! ## Statements with their values -/

/-- A matcher with an empty value has an empty literal. -/
theorem map_blank_matcherTokens (metric : Metric) (systemDatabase : Text) {m : LabelMatcher}
    (hm : m.isMetricName = false) :
    (matcherTokens metric systemDatabase m).map Token.blank =
      matcherTokens metric systemDatabase m.blank := by
  have hblank : m.blank = { m with value := [] } := if_neg (by simp [hm])
  rw [hblank, matcherTokens, matcherTokens, List.map_append,
    (fixed_leadTokens metric systemDatabase m).map_blank]
  rfl

/-- The conditions of a query with empty values are those of the query with empty literals. -/
theorem map_blank_conditionTokens (metric : Metric) (range : TimeRange) (q : Query)
    (config : Config) : (conditionTokens metric range q config).map Token.blank =
      conditionTokens metric range q.blank config := by
  have hmatchers : ∀ m ∈ q.matchers.filter fun m => !m.isMetricName,
      ([Token.word "AND"] ++ matcherTokens metric config.systemDatabase m).map Token.blank =
        [Token.word "AND"] ++ matcherTokens metric config.systemDatabase m.blank := by
    intro m hm
    have hname : m.isMetricName = false := by simpa using (List.mem_filter.mp hm).2
    rw [List.map_append, map_blank_matcherTokens metric _ hname]
    rfl
  unfold conditionTokens
  rw [List.map_append, (fixed_rangeTokens range).map_blank, List.map_flatMap, Query.filter_blank]
  simp only [List.flatMap_map]
  rw [List.flatMap_congr hmatchers]

/-- The literals of a query's conditions are its values. -/
theorem filterMap_conditionTokens (metric : Metric) (range : TimeRange) (q : Query)
    (config : Config) :
    (conditionTokens metric range q config).filterMap Token.literal? = q.values := by
  unfold conditionTokens Query.values
  rw [List.filterMap_append, (fixed_rangeTokens range).filterMap_literal?, List.nil_append,
    List.flatMap_map]
  induction q.matchers.filter fun m => !m.isMetricName with
  | nil => rfl
  | cons m r ih =>
    rw [List.flatMap_cons, List.filterMap_append, ih, matcherTokens, List.filterMap_append,
      List.filterMap_append, (fixed_leadTokens metric _ m).filterMap_literal?]
    rfl

/-- The conditions of a query hold no comment and nothing left open. -/
theorem isClosed_conditionTokens (metric : Metric) (range : TimeRange) (q : Query)
    (config : Config) : ∀ token ∈ conditionTokens metric range q config, token.isClosed = true := by
  intro token ht
  rcases List.mem_append.mp ht with ht | ht
  · exact Token.isClosed_of_isFixed (fixed_rangeTokens range token ht)
  · obtain ⟨condition, hcondition, ht⟩ := List.mem_flatMap.mp ht
    obtain ⟨m, -, rfl⟩ := List.mem_map.mp hcondition
    rw [matcherTokens] at ht
    rcases List.mem_append.mp ht with ht | ht
    · obtain rfl := List.mem_singleton.mp ht
      rfl
    · rcases List.mem_append.mp ht with ht | ht
      · exact Token.isClosed_of_isFixed (fixed_leadTokens metric _ m token ht)
      · obtain rfl := List.mem_singleton.mp ht
        rfl

/-- The statement reads from a source, between its columns and its conditions, which is one
token. -/
def ReadsFrom (sql source : Text) (token : Token) : Prop :=
  ∃ columns conditions : Text,
    sql = "SELECT " ++ columns ++ " FROM " ++ source ++ " WHERE " ++ conditions ∧
      lex sql = .word "SELECT" :: (lex columns ++ .word "FROM" :: token :: .word "WHERE" ::
        lex conditions)

/-- The statement of a resolved metric reads from its table. -/
theorem readsFrom_of_compile {q : Query} {catalog : Option TagCatalog} {compiled : CompiledQuery}
    {calls : List CatalogCall} (hnamespace : isPlain config.virtualNamespace = true)
    (hcatalog : ∀ ask ∈ catalog, PlainColumns ask)
    (h : q.compile config catalog = .ok (compiled, calls))
    (hresolved : compiled.metric.isResolved = true) :
    ReadsFrom compiled.sql compiled.metric.sourceTable (tableToken compiled.metric) := by
  obtain ⟨columns, conditions, hsql, hcolumns, hconditions, hlex⟩ :=
    lex_compile hnamespace hcatalog h
  have htext : sourceText compiled.metric config = compiled.metric.sourceTable := if_pos hresolved
  have htokens : sourceTokens compiled.metric config = [tableToken compiled.metric] :=
    if_pos hresolved
  refine ⟨columns, conditions, ?_, ?_⟩
  · rw [hsql, htext]
  · rw [hlex, statementTokens, hcolumns, hconditions, htokens]
    rfl

/-- All tokens of a statement but those of its conditions are fixed, and the same for all
queries. -/
theorem exists_statementTokens_eq {catalog : Option TagCatalog}
    (hcatalog : ∀ ask ∈ catalog, PlainColumns ask) (metric : Metric) (range : TimeRange)
    (config : Config) : ∃ front back, Fixed front ∧ Fixed back ∧
      ∀ q, statementTokens metric (expandTags metric range config catalog).1 range q config =
        front ++ (conditionTokens metric range q config ++ back) := by
  have hcolumns : Fixed (columnTokens metric (expandTags metric range config catalog).1) :=
    fixed_columnTokens hcatalog range
  have hfront : Fixed (.word "SELECT" ::
      (columnTokens metric (expandTags metric range config catalog).1 ++
        .word "FROM" :: (sourceTokens metric config ++ [.word "WHERE"]))) :=
    Fixed.cons rfl (hcolumns.append
      (Fixed.cons rfl ((fixed_sourceTokens metric config).append (by decide))))
  refine ⟨_, endingTokens metric config, hfront, fixed_endingTokens metric config, fun q => ?_⟩
  simp [statementTokens]

/-- For a plain namespace and a catalog that names no column with a backtick or a backslash, the
statement of a request has no comment and no open quote, its literals denote the values of the first
query in order, all other tokens are those of the request with empty values, and the source of a
resolved metric is one token. -/
theorem values_stay_literals (request : ReadRequest) (config : Config)
    (catalog : Option TagCatalog) (compiled : CompiledQuery) (calls : List CatalogCall)
    (hnamespace : isPlain config.virtualNamespace = true)
    (hcatalog : ∀ ask ∈ catalog, PlainColumns ask)
    (hcompile : request.compile config catalog = .ok (compiled, calls)) :
    (∀ token ∈ lex compiled.sql, token.isClosed = true) ∧
    (lex compiled.sql).filterMap Token.literal? = (request.queries.take 1).flatMap Query.values ∧
    (∃ blank, request.blank.compile config catalog = .ok (blank, calls) ∧
      (lex compiled.sql).map Token.blank = lex blank.sql) ∧
    (compiled.metric.isResolved = true →
      ReadsFrom compiled.sql compiled.metric.sourceTable (tableToken compiled.metric)) := by
  unfold ReadRequest.compile at hcompile
  split at hcompile
  · simp at hcompile
  · rename_i q rest hqueries
    -- The query and the one with empty values have the same tokens around their conditions.
    obtain ⟨blank, hblank, hmetric, hrange⟩ := Query.exists_compile_blank hcompile
    have hcompileBlank : request.blank.compile config catalog = .ok (blank, calls) := by
      simpa [ReadRequest.blank, ReadRequest.compile, hqueries] using hblank
    obtain ⟨front, back, hfront, hback, hstatement⟩ :=
      exists_statementTokens_eq hcatalog compiled.metric compiled.range config
    obtain ⟨-, -, -, -, -, hlex⟩ := lex_compile hnamespace hcatalog hcompile
    obtain ⟨-, -, -, -, -, hlexBlank⟩ := lex_compile hnamespace hcatalog hblank
    rw [hstatement] at hlex
    rw [hmetric, hrange, hstatement] at hlexBlank
    refine ⟨?_, ?_, ⟨blank, hcompileBlank, ?_⟩, readsFrom_of_compile hnamespace hcatalog hcompile⟩
    · -- No literal, name or comment is left open,
      intro token ht
      rw [hlex, List.mem_append, List.mem_append] at ht
      rcases ht with ht | ht | ht
      · exact Token.isClosed_of_isFixed (hfront token ht)
      · exact isClosed_conditionTokens _ _ _ _ token ht
      · exact Token.isClosed_of_isFixed (hback token ht)
    · -- the literals are those of the conditions,
      rw [hlex, List.filterMap_append, List.filterMap_append, hfront.filterMap_literal?,
        hback.filterMap_literal?, filterMap_conditionTokens, hqueries]
      simp
    · -- and the other tokens do not depend on the values.
      rw [hlex, hlexBlank, List.map_append, List.map_append, hfront.map_blank, hback.map_blank,
        map_blank_conditionTokens]

/-- A request whose value holds a quote, a backslash at its end, and a comment between them. -/
def quoteRequest : ReadRequest where
  queries := [{
    startMs := 1000
    endMs := 2000
    matchers := [
      ⟨0, metricNameLabel, "flow_log__l7_flow_log__byte__1m"⟩,
      ⟨1, "pod", "x' OR 1=1 -- \\"⟩] }]

/-- A catalog that names one tag. -/
def podCatalog : TagCatalog := fun _ => .ok [⟨"pod", "pod_0", "pod_1"⟩]

/-- The catalog describes columns that are identifiers. -/
theorem plainColumns_podCatalog : PlainColumns podCatalog := by
  intro call tags h d hd
  obtain rfl := Except.ok.inj h
  obtain rfl := List.mem_singleton.mp hd
  decide

/-- The value stays one literal, and the table with its interval one name. -/
theorem values_stay_literals_quote : ∃ compiled calls,
    isPlain ({} : Config).virtualNamespace = true ∧ PlainColumns podCatalog ∧
    quoteRequest.compile {} (some podCatalog) = .ok (compiled, calls) ∧
    (∀ token ∈ lex compiled.sql, token.isClosed = true) ∧
    (lex compiled.sql).filterMap Token.literal? = ["x' OR 1=1 -- \\"] ∧
    (∃ blank, quoteRequest.blank.compile {} (some podCatalog) = .ok (blank, calls) ∧
      (lex compiled.sql).map Token.blank = lex blank.sql) ∧
    ReadsFrom compiled.sql compiled.metric.sourceTable (.name backtick "l7_flow_log.1m") := by
  have hcatalog : ∀ ask ∈ some podCatalog, PlainColumns ask := by
    intro ask hask
    obtain rfl := Option.some.inj hask
    exact plainColumns_podCatalog
  obtain ⟨hclosed, hvalues, hblank, hsource⟩ :=
    values_stay_literals quoteRequest {} (some podCatalog) _ _ (by decide) hcatalog rfl
  exact ⟨_, _, by decide, plainColumns_podCatalog, rfl, hclosed, hvalues, hblank, hsource rfl⟩

end Sql

end RemoteRead
