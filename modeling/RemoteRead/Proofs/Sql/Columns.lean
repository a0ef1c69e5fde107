import RemoteRead.Proofs.Series.Layout
import RemoteRead.Proofs.Sql.Statement

/-!
# The columns of an answer

The select list of a statement is written by the compiler, and the columns of its answer are found
again by name. The store names a column by the alias of its expression, or by the expression itself
without backticks (`Sql.columnName`).

The decoder finds every selected column where it was written (`selected_columns_are_located`): the
time first, the metric second, and behind them either the column of all tags or the columns that the
catalog gives. Two decisions meet here, since `expandTags` and `columnReference` choose apart from
each other whether tags are in one column.
-/

namespace RemoteRead

namespace Sql

/-! ## Names of selected expressions -/

/-- The word that an alias stands behind. -/
def Token.isAs : Token → Bool
  | word t => t == "as" || t == "AS"
  | _ => false

/-- The alias at the end of an expression. -/
def aliasOf? (tokens : List Token) : Option Text :=
  match tokens.reverse with
  | .word t :: keyword :: _ :: _ => if keyword.isAs then some t else none
  | .name _ t :: keyword :: _ :: _ => if keyword.isAs then some t else none
  | _ => none

/-- The name of a selected expression: its alias, or its own text without backticks. -/
def columnName (expression : Text) : Text :=
  (aliasOf? (lex expression)).getD (expression.filter (· ≠ backtick))

/-- A text without backticks. -/
def Unticked (t : Text) : Prop := backtick ∉ t

/-- A text without backticks is its own text without backticks. -/
theorem Unticked.filter_eq {t : Text} (h : Unticked t) : t.filter (· ≠ backtick) = t := by
  rw [List.filter_eq_self]
  rintro c hc
  exact decide_eq_true fun heq => h (heq ▸ hc)

/-- A quote that can be closed by the last code point only takes the whole text. -/
theorem length_of_quotedBody {quote : CodePoint} {t : Text} (hquote : quote ∉ t) :
    ∀ {s : Text} {n : Nat}, quotedBody quote (t ++ [quote]) = some (s, n) → n = t.length + 1 := by
  -- By induction along the reading, which passes over one code point or over an escaped pair.
  match t with
  | [] =>
    intro s n h
    simp only [List.nil_append, quotedBody, if_true] at h
    exact (Prod.mk.inj (Option.some.inj h)).2.symm
  | [c] =>
    intro s n h
    have hc : c ≠ quote := fun heq => hquote (by simp [heq])
    simp only [List.cons_append, List.nil_append, quotedBody, if_neg hc, if_true] at h
    split_ifs at h
    · cases h
    · exact (Prod.mk.inj (Option.some.inj h)).2.symm
  | c :: d :: r =>
    intro s n h
    obtain ⟨hc, hrest⟩ := not_or.mp (List.mem_cons.not.mp hquote)
    obtain ⟨-, hr⟩ := not_or.mp (List.mem_cons.not.mp hrest)
    simp only [List.cons_append, quotedBody, if_neg (Ne.symm hc)] at h
    split_ifs at h
    · obtain ⟨⟨s', n'⟩, hread, heq⟩ := Option.map_eq_some_iff.mp h
      have hlength := length_of_quotedBody hr hread
      have hn := (Prod.mk.inj heq).2
      simp only [List.length_cons]
      omega
    · obtain ⟨⟨s', n'⟩, hread, heq⟩ := Option.map_eq_some_iff.mp h
      have hlength := length_of_quotedBody hrest hread
      have hn := (Prod.mk.inj heq).2
      simp only [List.length_cons] at hlength ⊢
      omega
termination_by t.length

/-- A text in backticks that holds none is one token, closed or not. -/
theorem exists_lex_inBackticks {t : Text} (h : Unticked t) :
    ∃ token, lex (Metric.inBackticks t) = [token] := by
  have hwhole (token : Token) (n : Nat) (hn : n = t.length + 1)
      (hfront : front backtick (t ++ [backtick]) = (some token, n)) :
      lex (Metric.inBackticks t) = [token] := by
    show lex (backtick :: (t ++ [backtick])) = [token]
    rw [lex_cons, hfront, hn]
    simp [lex, lexFrom]
  unfold front at hwhole
  rw [if_neg (by decide), if_neg (by decide), if_pos (by decide)] at hwhole
  cases hbody : quotedBody backtick (t ++ [backtick]) with
  | some body => exact ⟨_, hwhole _ _ (length_of_quotedBody h hbody) (by rw [hbody])⟩
  | none =>
    have hlength : (t ++ [backtick]).length = t.length + 1 := List.length_append
    exact ⟨_, hwhole _ _ hlength (by rw [hbody])⟩

/-! ## The names of the select list -/

/-- The first column is called as the column of the time. -/
theorem columnName_timeSelection : columnName timeSelection = timeColumn := by
  rw [columnName, phrase_timeSelection.lex_eq]
  rfl

/-- The column of a metric is named by the prefix and the name. -/
theorem columnName_selection {metric : Metric} (hmetric : metric.WellFormed) :
    columnName metric.selection = metricPrefix ++ metric.name := by
  have hlex := (phrase_selection hmetric).lex_eq
  unfold columnName selectionTokens at *
  rw [hlex]
  cases hresolved : metric.isResolved with
  | true => rfl
  | false =>
    have hunticked : Unticked (metricPrefix ++ metric.name) := by
      intro hmem
      have hunquoted : Unquoted (metricPrefix ++ metric.name) :=
        Unquoted.append (by decide) (unquoted_of_accepts hmetric.name)
      exact (hunquoted _ hmem).1 rfl
    have hselection : metric.selection = metricPrefix ++ metric.name := by
      rw [Metric.selection, hresolved]
      rfl
    rw [hselection]
    exact hunticked.filter_eq

/-- A column in backticks is named by what they hold. -/
theorem columnName_inBackticks {t : Text} (h : Unticked t) :
    columnName (Metric.inBackticks t) = t := by
  obtain ⟨token, hlex⟩ := exists_lex_inBackticks h
  -- One token alone has no alias.
  have halias : aliasOf? [token] = none := by cases token <;> rfl
  rw [columnName, hlex, halias, Option.getD_none]
  show (backtick :: (t ++ [backtick])).filter (· ≠ backtick) = t
  simpa using h.filter_eq

end Sql

/-! ## Columns that a catalog gives -/

/-- The names of the columns of a tag. -/
def TagDescription.columnNames (d : TagDescription) (isEdge : Bool) : List Text :=
  if ignoredTags.contains d.name then []
  else if isEdge && d.name != d.clientName then [d.clientName, d.serverName]
  else [d.name]

/-- The columns of a tag are selected by their names in backticks. -/
theorem TagDescription.columns_eq (d : TagDescription) (isEdge : Bool) :
    d.columns isEdge = (d.columnNames isEdge).map Metric.inBackticks := by
  unfold columns columnNames
  split_ifs <;> rfl

/-- The names of the tag columns that a catalog gives for the table of a metric, none where it is
not asked or has no answer. -/
def catalogColumns (metric : Metric) (range : TimeRange) (config : Config)
    (catalog : Option TagCatalog) : List Text :=
  if metric.hasTagColumns config.systemDatabase then
    match catalog with
    | none => []
    | some ask =>
      match ask (catalogCall metric range) with
      | .error _ => []
      | .ok tags => tags.flatMap (·.columnNames (config.edgeTables.contains metric.table))
  else []

variable {metric : Metric} {range : TimeRange} {config : Config} {catalog : Option TagCatalog}

/-- Views and tables of the system database have no tag columns. -/
theorem Metric.not_hasTagColumns (metric : Metric) (systemDatabase : Text) :
    (!metric.isResolved || metric.database == systemDatabase) =
      !metric.hasTagColumns systemDatabase := by
  simp [hasTagColumns, bne]

/-- A table with tag columns is read by those of the catalog, and any other by the column of all
tags. -/
theorem expandTags_eq : (expandTags metric range config catalog).1 =
    if metric.hasTagColumns config.systemDatabase then
      (catalogColumns metric range config catalog).map Metric.inBackticks
    else [tagColumn] := by
  unfold expandTags catalogColumns
  rw [metric.not_hasTagColumns]
  cases metric.hasTagColumns config.systemDatabase with
  | false => rfl
  | true =>
    cases catalog with
    | none => rfl
    | some ask =>
      cases hanswer : ask (catalogCall metric range) with
      | error e => simp [hanswer]
      | ok tags => simp [hanswer, TagDescription.columns_eq, List.map_flatMap]

/-- The select list of the statement for a metric. -/
def selections (metric : Metric) (range : TimeRange) (config : Config)
    (catalog : Option TagCatalog) : List Text :=
  timeSelection :: metric.selection :: (expandTags metric range config catalog).1

/-- The names of the columns that answer a select list. -/
def selectedNames (metric : Metric) (range : TimeRange) (config : Config)
    (catalog : Option TagCatalog) : List Value :=
  (selections metric range config catalog).map fun e => .text (Sql.columnName e)

/-- A name that a catalog may give to a column: it can be put in backticks, and it is not that of a
special column. -/
structure PlainName (name : Text) : Prop where
  /-- The name has no backtick. -/
  unticked : Sql.Unticked name
  /-- It is not that of the column of all tags. -/
  ne_tag : name ≠ tagColumn
  /-- It is not that of the time. -/
  ne_time : name ≠ timeColumn
  /-- It is not that of a metric. -/
  not_metric : ¬ metricPrefix <+: name

/-- The answer has the time, the metric, and the tags. -/
theorem selectedNames_eq (hmetric : metric.WellFormed)
    (hcatalog : ∀ name ∈ catalogColumns metric range config catalog, PlainName name) :
    selectedNames metric range config catalog =
      (timeColumn :: (metricPrefix ++ metric.name) ::
        if metric.hasTagColumns config.systemDatabase then
          catalogColumns metric range config catalog
        else [tagColumn]).map Value.text := by
  unfold selectedNames selections
  rw [List.map_cons, List.map_cons, List.map_cons, List.map_cons, Sql.columnName_timeSelection,
    Sql.columnName_selection hmetric, expandTags_eq]
  split_ifs
  · rw [List.map_map]
    have htags := List.map_congr_left fun name hname =>
      congrArg Value.text (Sql.columnName_inBackticks (hcatalog name hname).unticked)
    exact congrArg (_ :: _ :: ·) htags
  · rfl

/-! ## Locating the selected columns -/

namespace Layout

/-- A plain name is that of a bare tag. -/
theorem ofName_bare {name : Text} (h : PlainName name) : ColumnRole.ofName name = .bare := by
  unfold ColumnRole.ofName
  rw [if_neg h.ne_tag, if_neg (by simpa using h.not_metric), if_neg h.ne_time]

/-- The name of the time has the role of the time. -/
theorem ofName_time : ColumnRole.ofName timeColumn = .time := by decide

/-- A name with the prefix is that of a metric. -/
theorem ofName_metric (name : Text) : ColumnRole.ofName (metricPrefix ++ name) = .metric name := by
  have htag : metricPrefix ++ name ≠ tagColumn := by
    intro h
    exact absurd (List.cons.inj h).1 (by decide)
  unfold ColumnRole.ofName
  rw [if_neg htag, if_pos (by simp), List.drop_left]

/-- Columns of bare tags change nothing of what was found. -/
theorem scan_bare {names : List Text} (h : ∀ name ∈ names, ColumnRole.ofName name = .bare) :
    ∀ (f : Found) (i : Nat), scan f i (names.map Value.text) = .ok f := by
  induction names with
  | nil => exact fun f i => rfl
  | cons name names ih =>
    intro f i
    obtain ⟨hname, hnames⟩ := List.forall_mem_cons.mp h
    rw [List.map_cons, scan, hname]
    exact ih hnames f (i + 1)

/-- The first columns are found as time and metric, and bare tags behind them stay bare. -/
theorem locate_bare (name : Text) {tags : List Text}
    (h : ∀ tag ∈ tags, ColumnRole.ofName tag = .bare) :
    locate ((timeColumn :: (metricPrefix ++ name) :: tags).map Value.text) =
      .ok ⟨name, 1, 0, none, List.range' 2 tags.length⟩ := by
  have hscan : scan {} 0 ((timeColumn :: (metricPrefix ++ name) :: tags).map Value.text) =
      .ok ⟨none, some (1, name), some 0⟩ := by
    rw [List.map_cons, List.map_cons, scan, ofName_time, scan, ofName_metric]
    exact scan_bare h _ _
  -- Of the places from 0 on, all but the first two are those of bare tags.
  have hplaces : (List.range (tags.length + 2)).filter (fun i =>
      i ≠ 1 ∧ i ≠ 0 ∧ some i ≠ none) = List.range' 2 tags.length := by
    rw [List.range_eq_range', List.range'_succ, List.range'_succ, List.filter_cons_of_neg (by simp),
      List.filter_cons_of_neg (by simp), List.filter_eq_self]
    intro i hi
    have hle := (List.mem_range'_1.mp hi).1
    simp only [decide_eq_true_eq]
    exact ⟨by omega, by omega, Option.some_ne_none i⟩
  unfold locate
  rw [hscan]
  simp only [List.length_map, List.length_cons]
  rw [hplaces]

/-- The first columns are found as time and metric, and the column of all tags behind them. -/
theorem locate_tag (name : Text) :
    locate ([timeColumn, metricPrefix ++ name, tagColumn].map Value.text) =
      .ok ⟨name, 1, 0, some 2, []⟩ := by
  have hscan : scan {} 0 ([timeColumn, metricPrefix ++ name, tagColumn].map Value.text) =
      .ok ⟨some 2, some (1, name), some 0⟩ := by
    rw [List.map_cons, List.map_cons, scan, ofName_time, scan, ofName_metric]
    rfl
  unfold locate
  rw [hscan]
  rfl

end Layout

/-- The places behind the first two are those of the names behind them. -/
theorem map_getElem?_range' {α : Type} (a b : α) (l : List α) :
    (List.range' 2 l.length).map (fun i => (a :: b :: l)[i]?) = l.map some := by
  refine List.ext_getElem (by simp) fun i hi hi' => ?_
  have hplace : 2 + i = i + 2 := Nat.add_comm 2 i
  simp [hplace]

/-! ## Predicates -/

/-- A predicate is about the column of all tags exactly where the table has no tag columns. -/
theorem LabelMatcher.addresses_iff {m : LabelMatcher} {systemDatabase predicate : Text}
    (h : m.predicate (some metric) systemDatabase = .ok predicate) :
    Metric.inBackticks ("tag." ++ m.name) <+: predicate ↔
      metric.hasTagColumns systemDatabase = false := by
  obtain ⟨comparison, -, hname, rfl⟩ := LabelMatcher.predicate_eq_ok_iff.mp h
  rw [columnReference, Option.map_some, Option.getD_some]
  cases hcolumns : metric.hasTagColumns systemDatabase with
  | false =>
    rw [if_neg (by simp), List.append_assoc]
    exact iff_of_true (List.prefix_append _ _) rfl
  | true =>
    rw [if_pos rfl]
    refine iff_of_false ?_ (by simp)
    -- The label itself is the column, and does not start with a backtick.
    have hunquoted := Sql.unquoted_of_accepts hname
    cases hlabel : m.name with
    | nil =>
      rw [hlabel] at hname
      exact absurd hname (by decide)
    | cons c r =>
      rw [hlabel] at hunquoted
      rintro ⟨rest, heq⟩
      exact (hunquoted c List.mem_cons_self).1 (List.cons.inj heq).1.symm

/-! ## The layout of an answer -/

/-- The metrics with columns for tags are those of tables outside the system database. -/
theorem Metric.hasTagColumns_eq_true_iff {systemDatabase : Text} :
    metric.hasTagColumns systemDatabase = true ↔
      metric.isResolved = true ∧ metric.database ≠ systemDatabase := by
  simp [hasTagColumns]

/-- Where a request is compiled and the catalog names no column like a special one, the columns of
the answer are located where the statement selects them: the time, the metric with the name of the
compiled one, and the tags. A view or a table of the system database has one column of all tags, and
every other table the columns of the catalog, in order. The predicates are about the column of all
tags exactly where it is selected. -/
theorem selected_columns_are_located (request : ReadRequest) (config : Config)
    (catalog : Option TagCatalog) (compiled : CompiledQuery) (calls : List CatalogCall)
    (hcompile : request.compile config catalog = .ok (compiled, calls))
    (hcatalog : ∀ name ∈ catalogColumns compiled.metric compiled.range config catalog,
      PlainName name) :
    ∃ q predicates layout, request.queries.head? = some q ∧
      compiled.sql = assemble compiled.metric
        (selections compiled.metric compiled.range config catalog)
        (compiled.range.predicate :: predicates) config ∧
      Layout.locate (selectedNames compiled.metric compiled.range config catalog) = .ok layout ∧
      layout.timeIndex = 0 ∧ layout.metricIndex = 1 ∧
      layout.metricName = compiled.metric.name ∧
      (compiled.metric.isResolved = false ∨ compiled.metric.database = config.systemDatabase →
        layout.tagIndex = some 2 ∧ layout.bareIndexes = []) ∧
      (compiled.metric.isResolved = true ∧ compiled.metric.database ≠ config.systemDatabase →
        layout.tagIndex = none ∧
        layout.bareIndexes.map
            (fun i => (selectedNames compiled.metric compiled.range config catalog)[i]?) =
          (catalogColumns compiled.metric compiled.range config catalog).map
            fun name => some (.text name)) ∧
      List.Forall₂ (fun m predicate => Metric.inBackticks ("tag." ++ m.name) <+: predicate ↔
          layout.tagIndex.isSome = true)
        (q.matchers.filter fun m => !m.isMetricName) predicates := by
  unfold ReadRequest.compile at hcompile
  split at hcompile
  · cases hcompile
  · rename_i q rest hqueries
    -- Only the first query is compiled: its metric, its predicates and its range.
    obtain ⟨metric, predicates, range, -, -, hmetric, hpredicates, -, rfl⟩ :=
      Query.compile_eq_ok_iff.mp hcompile
    obtain ⟨m, -, hname⟩ := Query.metric_eq_some_iff.mp hmetric
    -- The names of the select list are plain, so they read back from the statement.
    have hformed := Metric.wellFormed_of_ofName hname
    have hpredicates := LabelMatcher.predicates_eq_ok_iff.mp hpredicates
    have haddress := hpredicates.imp fun _ _ => LabelMatcher.addresses_iff
    have hnames := selectedNames_eq hformed hcatalog
    dsimp only at hnames hcatalog ⊢
    have hiff := @Metric.hasTagColumns_eq_true_iff metric config.systemDatabase
    -- The two layouts: the tag blob for views and system metrics, bare tags for the others.
    cases hcolumns : metric.hasTagColumns config.systemDatabase with
    | false =>
      -- Time, value and blob, in this order.
      rw [hcolumns, if_neg (by simp)] at hnames
      refine ⟨q, predicates, ⟨metric.name, 1, 0, some 2, []⟩, by rw [hqueries]; rfl, rfl, ?_, rfl,
        rfl, rfl, fun _ => ⟨rfl, rfl⟩, fun h => ?_, ?_⟩
      · rw [hnames]
        exact Layout.locate_tag metric.name
      · -- This metric has no tag columns,
        exact absurd (hiff.mpr h) (by simp [hcolumns])
      · -- and its predicates address the blob.
        exact haddress.imp fun _ _ h => by simp [h, hcolumns]
    | true =>
      -- Time and value, then the columns of the catalog.
      rw [hcolumns, if_pos rfl] at hnames
      have hbare := fun name hname => Layout.ofName_bare (hcatalog name hname)
      refine ⟨q, predicates, _, by rw [hqueries]; rfl, rfl,
        hnames ▸ Layout.locate_bare metric.name hbare, rfl, rfl, rfl, fun h => ?_,
        fun _ => ⟨rfl, ?_⟩, ?_⟩
      · -- It is resolved and no system metric, so it is not read through the blob.
        obtain ⟨hresolved, hother⟩ := hiff.mp hcolumns
        rcases h with h | h
        · simp [hresolved] at h
        · exact absurd h hother
      · -- The columns from the third one on, in the order of the catalog.
        have hplaces := map_getElem?_range' (Value.text timeColumn)
          (Value.text (metricPrefix ++ metric.name))
          ((catalogColumns metric range config catalog).map Value.text)
        rw [List.length_map, List.map_map] at hplaces
        rw [hnames]
        exact hplaces
      · exact haddress.imp fun _ _ h => by simp [h, hcolumns]

/-- A request for a metric of an edge table, with a matcher. -/
def edgeRequest : ReadRequest where
  queries := [{
    startMs := 1000
    endMs := 2000
    matchers := [
      ⟨0, metricNameLabel, "flow_metrics__vtap_flow_edge_port__byte__1m"⟩,
      ⟨0, "pod_0", "x"⟩] }]

/-- A catalog with a directional tag, an ignored one, and one whose name looks like an alias. -/
def edgeCatalog : TagCatalog := fun _ =>
  .ok [⟨"pod", "pod_0", "pod_1"⟩, ⟨"pod_ingress", "pod_ingress", "pod_ingress"⟩,
    ⟨"a as b", "a as b", "a as b"⟩]

/-- The metric of the request. -/
def edgeMetric : Metric := ⟨"byte", "flow_metrics", "vtap_flow_edge_port", "1m"⟩

/-- The catalog describes columns with plain names. -/
theorem plainNames_edgeCatalog : ∀ name ∈ catalogColumns edgeMetric ⟨1, 2⟩ {} (some edgeCatalog),
    PlainName name := by
  have hcolumns : catalogColumns edgeMetric ⟨1, 2⟩ {} (some edgeCatalog) =
      [Text.ofString "pod_0", "pod_1", "a as b"] := rfl
  rw [hcolumns]
  intro name hname
  simp only [List.mem_cons, List.not_mem_nil, or_false] at hname
  rcases hname with rfl | rfl | rfl <;>
    exact ⟨by unfold Sql.Unticked; decide, by decide, by decide, by decide⟩

/-- The columns of the answer are found behind those of the time and the metric. -/
theorem selected_columns_are_located_edge : ∃ compiled calls layout,
    edgeRequest.compile {} (some edgeCatalog) = .ok (compiled, calls) ∧
    (∀ name ∈ catalogColumns compiled.metric compiled.range {} (some edgeCatalog),
      PlainName name) ∧
    Layout.locate (selectedNames compiled.metric compiled.range {} (some edgeCatalog)) =
      .ok layout ∧
    layout.timeIndex = 0 ∧ layout.metricIndex = 1 ∧ layout.metricName = Text.ofString "byte" ∧
    layout.tagIndex = none := by
  have hcompile : edgeRequest.compile {} (some edgeCatalog) =
      .ok (⟨_, _, _, edgeMetric, ⟨1, 2⟩⟩, _) := rfl
  obtain ⟨q, predicates, layout, -, -, hlayout, htime, hmetric, hname, -, htags, -⟩ :=
    selected_columns_are_located edgeRequest {} (some edgeCatalog) _ _ hcompile
      plainNames_edgeCatalog
  exact ⟨_, _, layout, hcompile, plainNames_edgeCatalog, hlayout, htime, hmetric, hname,
    (htags ⟨rfl, by decide⟩).1⟩

end RemoteRead
