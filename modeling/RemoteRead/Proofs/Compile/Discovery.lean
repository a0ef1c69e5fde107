import RemoteRead.Proofs.Compile.Refusal
import RemoteRead.Proofs.Sql.Columns

/-!
# Discovery of tags

Compilation checks a request first (`ReadRequest.checks`), and what it has then, `Parts`, makes a
statement with any tag columns. A catalog is asked in between, so its answer can change the tag
columns and nothing else.

`compile` reports the questions to the catalog itself, and only where it succeeds. To show that the
report is complete, `ReadRequest.compileIn` is the same compilation in a monad in which questions
have effects, and `ReadRequest.recorded` runs it with a catalog that writes every question down,
also where the request is refused in the end. `recorded_eq` says what is written down, and
`discovery_never_decides` what follows: a catalog that fails leaves the outcome as it is without
one, a catalog that answers adds columns behind that of the metric, and there is one question at
most, when all checks have passed and the metric is of a table with tag columns.
-/

namespace RemoteRead

open Outcome

/-! ## Compilation with effects -/

/-- A catalog whose answers have effects. -/
abbrev CatalogIn (M : Type → Type) := CatalogCall → M (Except Error (List TagDescription))

/-- The catalog that writes down what it is asked. -/
def TagCatalog.recording (ask : TagCatalog) : CatalogIn (StateM (List CatalogCall)) :=
  fun call => do
    modify (· ++ [call])
    return ask call

section Effects

variable {M : Type → Type} [Monad M]

/-- The tag columns to select, as `expandTags` has them, with the effects of the question. -/
def expandTagsIn (metric : Metric) (range : TimeRange) (config : Config)
    (catalog : Option (CatalogIn M)) : M (List Text) :=
  if !metric.isResolved || metric.database == config.systemDatabase then return ["tag"]
  else
    match catalog with
    | none => return []
    | some ask => do
      match ← ask (catalogCall metric range) with
      | .error _ => return []
      | .ok tags => return tags.flatMap (·.columns (config.edgeTables.contains metric.table))

/-- The statement of a query, as `Query.compile` has it, with the effects of the question. -/
def Query.compileIn (q : Query) (config : Config) (catalog : Option (CatalogIn M)) :
    ExceptT Failure M CompiledQuery := do
  let range := TimeRange.ofMillis q.startMs q.endMs
  if range.stop < range.start then
    throw (.invalidTimeRange (.int range.start) (.int range.stop))
  let metric? ← ExceptT.mk (pure (q.metric config))
  let predicates ← ExceptT.mk
    (pure (LabelMatcher.predicates q.matchers metric? config.systemDatabase))
  match metric? with
  | none => throw .noMetricSelected
  | some metric =>
    let tags ← ExceptT.lift (expandTagsIn metric range config catalog)
    let sql := assemble metric (timeSelection :: metric.selection :: tags)
      (range.predicate :: predicates) config
    return ⟨sql, metric.database, metric.dataSource, metric, range⟩

/-- The statement of a request, as `ReadRequest.compile` has it, with the effects of the
question. -/
def ReadRequest.compileIn (r : ReadRequest) (config : Config) (catalog : Option (CatalogIn M)) :
    ExceptT Failure M CompiledQuery :=
  match r.queries with
  | [] => throw (.invalidRequest (.text "request contains no queries"))
  | q :: _ => q.compileIn config catalog

end Effects

/-- The outcome of a compilation, and all questions that the catalog was asked on the way. -/
def ReadRequest.recorded (r : ReadRequest) (config : Config) (catalog : Option TagCatalog) :
    Except Failure CompiledQuery × List CatalogCall :=
  Id.run (((r.compileIn config (catalog.map TagCatalog.recording)).run).run [])

/-! ## What is checked -/

/-- What a statement is made of but for the tag columns. -/
structure Parts where
  /-- The metric. -/
  metric : Metric
  /-- The range in seconds. -/
  range : TimeRange
  /-- The conditions of the matchers. -/
  predicates : List Text

/-- The statement with given tag columns. -/
def Parts.compiled (p : Parts) (config : Config) (tags : List Text) : CompiledQuery where
  sql := assemble p.metric (timeSelection :: p.metric.selection :: tags)
    (p.range.predicate :: p.predicates) config
  database := p.metric.database
  dataSource := p.metric.dataSource
  metric := p.metric
  range := p.range

/-- The checks of a query, in their order. -/
def Query.checks (q : Query) (config : Config) : Except Failure Parts := do
  if q.range.stop < q.range.start then
    throw (.invalidTimeRange (.int q.range.start) (.int q.range.stop))
  let metric? ← q.metric config
  let predicates ← LabelMatcher.predicates q.matchers metric? config.systemDatabase
  match metric? with
  | none => throw .noMetricSelected
  | some metric => return ⟨metric, q.range, predicates⟩

/-- The checks of a request. -/
def ReadRequest.checks (r : ReadRequest) (config : Config) : Except Failure Parts :=
  match r.queries with
  | [] => .error (.invalidRequest (.text "request contains no queries"))
  | q :: _ => q.checks config

variable {q : Query} {config : Config} {catalog : Option TagCatalog}

/-- A query is compiled from its parts, once all checks have passed. -/
theorem Query.compile_eq_checks : q.compile config catalog = (q.checks config).map fun p =>
    (p.compiled config (expandTags p.metric p.range config catalog).1,
      (expandTags p.metric p.range config catalog).2) := by
  unfold Query.compile Query.checks
  change (if q.range.stop < q.range.start then _ else _) = _
  -- Both sides make the same checks, and come to the same failure where one of them fails.
  split_ifs
  · rfl
  · cases q.metric config with
    | error f => rfl
    | ok metric? =>
      simp only [bind, Except.bind]
      cases LabelMatcher.predicates q.matchers metric? config.systemDatabase with
      | error f => rfl
      | ok predicates => cases metric? <;> rfl

section Effects

variable {M : Type → Type} [Monad M] [LawfulMonad M]

/-- In a monad, the checks have no effect and the question is all that has one. -/
theorem Query.run_compileIn (q : Query) (catalog : Option (CatalogIn M)) :
    (q.compileIn config catalog).run =
      match q.checks config with
      | .error f => pure (.error f)
      | .ok p => (fun tags => .ok (p.compiled config tags)) <$>
          expandTagsIn p.metric p.range config catalog := by
  unfold Query.compileIn Query.checks
  simp only [mk_pure_bind]
  change ExceptT.run (if q.range.stop < q.range.start then _ else _) = _
  -- The checks have outcomes without effects, so they can be followed one after the other.
  split_ifs
  · exact congrArg ExceptT.run (mk_pure_bind (.error _) _)
  · cases q.metric config with
    | error f => rfl
    | ok metric? =>
      dsimp only [bind, Except.bind]
      cases LabelMatcher.predicates q.matchers metric? config.systemDatabase with
      | error f => rfl
      | ok predicates =>
        cases metric? with
        | none => rfl
        | some metric =>
          -- All checks have passed, and the question is what is left to do.
          let p : Parts := ⟨metric, q.range, predicates⟩
          have hlift := ExceptT.run_bind_lift (ε := Failure)
            (expandTagsIn metric q.range config catalog) fun tags => pure (p.compiled config tags)
          exact hlift.trans (bind_pure_comp _ _)

/-- So it is for a request. -/
theorem ReadRequest.run_compileIn (r : ReadRequest) (catalog : Option (CatalogIn M)) :
    (r.compileIn config catalog).run =
      match r.checks config with
      | .error f => pure (.error f)
      | .ok p => (fun tags => .ok (p.compiled config tags)) <$>
          expandTagsIn p.metric p.range config catalog := by
  unfold ReadRequest.compileIn ReadRequest.checks
  cases r.queries with
  | nil => rfl
  | cons q later => exact q.run_compileIn catalog

end Effects

/-- The recording catalog is asked what `expandTags` reports. -/
theorem run_expandTagsIn (metric : Metric) (range : TimeRange) (config : Config)
    (catalog : Option TagCatalog) (log : List CatalogCall) :
    Id.run ((expandTagsIn metric range config (catalog.map TagCatalog.recording)).run log) =
      ((expandTags metric range config catalog).1,
        log ++ (expandTags metric range config catalog).2) := by
  unfold expandTagsIn expandTags
  split_ifs
  · simp
  · cases catalog with
    | none => simp
    | some ask =>
      cases hanswer : ask (catalogCall metric range) <;> simp [TagCatalog.recording, hanswer]

/-- A refused request has asked nothing; a compiled one has asked what `expandTags` reports. -/
theorem ReadRequest.recorded_eq (r : ReadRequest) : r.recorded config catalog =
    match r.checks config with
    | .error f => (.error f, [])
    | .ok p => (.ok (p.compiled config (expandTags p.metric p.range config catalog).1),
        (expandTags p.metric p.range config catalog).2) := by
  unfold recorded
  rw [r.run_compileIn]
  cases r.checks config with
  | error f => rfl
  | ok p =>
    have hrun := run_expandTagsIn p.metric p.range config catalog []
    simp [hrun]

/-- A request is compiled from its parts, once all checks have passed. -/
theorem ReadRequest.compile_eq_checks (r : ReadRequest) :
    r.compile config catalog = (r.checks config).map fun p =>
      (p.compiled config (expandTags p.metric p.range config catalog).1,
        (expandTags p.metric p.range config catalog).2) := by
  unfold ReadRequest.compile ReadRequest.checks
  cases r.queries with
  | nil => rfl
  | cons q later => exact Query.compile_eq_checks

/-- All checks pass for the accepted requests. -/
theorem ReadRequest.exists_checks_iff (r : ReadRequest) (config : Config) :
    (∃ p, r.checks config = .ok p) ↔ r.Accepted config := by
  unfold ReadRequest.checks ReadRequest.Accepted
  cases r.queries with
  | nil => simp
  | cons q later =>
    have hcompile : (∃ answer, q.compile config none = .ok answer) ↔ q.Accepted config :=
      Query.exists_compile_iff
    rw [Query.compile_eq_checks] at hcompile
    cases hchecks : q.checks config <;> simpa [hchecks, Except.map] using hcompile

/-- The parts of a request are those of its first query. -/
theorem ReadRequest.parts_of_checks {r : ReadRequest} {p : Parts} (h : r.checks config = .ok p) :
    ∃ q, r.queries.head? = some q ∧ q.metric config = .ok (some p.metric) ∧ p.range = q.range := by
  unfold ReadRequest.checks at h
  split at h
  · cases h
  · rename_i q later hqueries
    refine ⟨q, by rw [hqueries]; rfl, ?_⟩
    unfold Query.checks at h
    split_ifs at h
    · cases h
    · simp only [bind_eq_ok_iff] at h
      obtain ⟨metric?, hmetric, predicates, -, h⟩ := h
      cases metric? with
      | none => cases h
      | some metric =>
        obtain rfl := pure_eq_ok_iff.mp h
        exact ⟨hmetric, rfl⟩

/-! ## What the answer changes -/

variable {metric : Metric} {range : TimeRange}

/-- The columns of the catalog come before those that are there without one. -/
theorem expandTags_eq_append : (expandTags metric range config catalog).1 =
    (catalogColumns metric range config catalog).map Metric.inBackticks ++
      (expandTags metric range config none).1 := by
  rw [expandTags_eq, expandTags_eq]
  unfold catalogColumns
  split_ifs <;> simp

/-- A catalog is asked one question about a table with tag columns, and none about any other. -/
theorem expandTags_calls : (expandTags metric range config catalog).2 =
    if catalog.isSome = true ∧ metric.hasTagColumns config.systemDatabase = true then
      [catalogCall metric range]
    else [] := by
  unfold expandTags
  rw [metric.not_hasTagColumns]
  cases metric.hasTagColumns config.systemDatabase with
  | false => simp
  | true =>
    cases catalog with
    | none => simp
    | some ask => cases hanswer : ask (catalogCall metric range) <;> simp [hanswer]

/-- A catalog that fails on what it is asked gives no columns. -/
theorem catalogColumns_of_failing (h : ∀ ask ∈ catalog,
    ∀ call ∈ (expandTags metric range config catalog).2, ∃ e, ask call = .error e) :
    catalogColumns metric range config catalog = [] := by
  rw [expandTags_calls] at h
  unfold catalogColumns
  split_ifs with hcolumns
  · cases catalog with
    | none => rfl
    | some ask =>
      -- The question is the one that the catalog fails on.
      obtain ⟨e, he⟩ := h ask rfl (catalogCall metric range) (by simp [hcolumns])
      dsimp only
      rw [he]
  · rfl

/-- Joined texts have a separator before each but the first. -/
theorem Text.join_cons (sep t : Text) (texts : List Text) :
    join sep (t :: texts) = t ++ texts.flatMap (sep ++ ·) := by
  induction texts generalizing t with
  | nil => simp [join]
  | cons u texts ih => simp [join, ih]

/-- The text of a statement up to the column of its metric. -/
def Metric.selectionFront (metric : Metric) : Text :=
  "SELECT " ++ timeSelection ++ "," ++ metric.selection

/-- The tag columns stand behind the column of the metric. -/
theorem exists_assemble_tags (metric : Metric) (tags predicates : List Text) (config : Config) :
    ∃ back, ∀ columns : List Text,
      assemble metric (timeSelection :: metric.selection :: (columns ++ tags)) predicates config =
        metric.selectionFront ++ columns.flatMap (Text.ofString "," ++ ·) ++ back := by
  refine ⟨tags.flatMap (Text.ofString "," ++ ·) ++ (Text.ofString " FROM " ++
    (Sql.sourceText metric config ++ (Text.ofString " WHERE " ++
      (Text.join " AND " predicates ++ Sql.endingText metric config)))), fun columns => ?_⟩
  rw [Sql.assemble_eq, Text.join_cons, Metric.selectionFront]
  simp

/-- The outcomes of a request without a catalog and with one: both are refused with the same
failure, or both are compiled, and the statements differ in the columns of the catalog behind that
of the metric. -/
inductive AppendsTags (config : Config) (catalog : Option TagCatalog) :
    Except Failure CompiledQuery → Except Failure CompiledQuery → Prop where
  /-- Both are refused. -/
  | refused (f : Failure) : AppendsTags config catalog (.error f) (.error f)
  /-- Both are compiled. -/
  | compiled (plain : CompiledQuery) (back : Text)
    (hsql : plain.sql = plain.metric.selectionFront ++ back) :
    AppendsTags config catalog (.ok plain) (.ok { plain with
      sql := plain.metric.selectionFront ++
        ((catalogColumns plain.metric plain.range config catalog).map
          Metric.inBackticks).flatMap (Text.ofString "," ++ ·) ++ back })

/-- The catalog appends its columns to the statement of the parts. -/
theorem Parts.appendsTags (p : Parts) (config : Config) (catalog : Option TagCatalog) :
    AppendsTags config catalog
      (.ok (p.compiled config (expandTags p.metric p.range config none).1))
      (.ok (p.compiled config (expandTags p.metric p.range config catalog).1)) := by
  obtain ⟨back, hback⟩ := exists_assemble_tags p.metric (expandTags p.metric p.range config none).1
    (p.range.predicate :: p.predicates) config
  -- The statement without a catalog is the case of no further column.
  have hplain := hback []
  rw [List.flatMap_nil, List.append_nil] at hplain
  have hcatalog := hback ((catalogColumns p.metric p.range config catalog).map Metric.inBackticks)
  rw [← expandTags_eq_append] at hcatalog
  have hcompiled : p.compiled config (expandTags p.metric p.range config catalog).1 =
      { p.compiled config (expandTags p.metric p.range config none).1 with
        sql := p.metric.selectionFront ++
          ((catalogColumns p.metric p.range config catalog).map Metric.inBackticks).flatMap
            (Text.ofString "," ++ ·) ++ back } := by
    rw [← hcatalog]
    rfl
  rw [hcompiled]
  exact .compiled _ back hplain

/-! ## Discovery never decides -/

/-- Whether a request is compiled does not depend on the catalog. The run that records every
question has the outcome of the compilation, and a refused request has asked nothing. Where the
catalog fails on what it is asked, the outcome is the one without a catalog, and what it answers
only appends its columns to that of the metric. It is asked at most once, and exactly if there is a
catalog, all checks have passed, and the metric is of a table outside the system database; the
question has the database, the table, the statement that lists the tags, and the range in
seconds. -/
theorem ReadRequest.discovery_never_decides (r : ReadRequest) (config : Config)
    (catalog : Option TagCatalog) :
    (r.recorded config catalog = match r.compile config catalog with
      | .error f => (.error f, [])
      | .ok (compiled, calls) => (.ok compiled, calls)) ∧
    ((∀ ask ∈ catalog, ∀ call ∈ (r.recorded config catalog).2, ∃ e, ask call = .error e) →
      (r.recorded config catalog).1 = (r.recorded config none).1) ∧
    AppendsTags config catalog (r.recorded config none).1 (r.recorded config catalog).1 ∧
    (r.recorded config catalog).2.length ≤ 1 ∧
    ∀ call, call ∈ (r.recorded config catalog).2 ↔ catalog.isSome = true ∧ r.Accepted config ∧
      ∃ q metric, r.queries.head? = some q ∧ q.metric config = .ok (some metric) ∧
        metric.isResolved = true ∧ metric.database ≠ config.systemDatabase ∧
        call = ⟨metric.database, metric.table, q.range.showTags metric.table, q.range⟩ := by
  have haccepted := r.exists_checks_iff config
  rw [r.recorded_eq, r.recorded_eq, r.compile_eq_checks]
  cases hchecks : r.checks config with
  | error f =>
    -- Nothing was asked, and the request is not among the accepted ones.
    refine ⟨rfl, fun _ => rfl, .refused f, Nat.zero_le 1, fun call => ?_⟩
    rw [hchecks] at haccepted
    refine iff_of_false List.not_mem_nil ?_
    rintro ⟨-, h, -⟩
    obtain ⟨p, hp⟩ := haccepted.mpr h
    cases hp
  | ok p =>
    obtain ⟨q, hfirst, hmetric, hrange⟩ := ReadRequest.parts_of_checks hchecks
    dsimp only
    refine ⟨rfl, fun hfailing => ?_, p.appendsTags config catalog, ?_, fun call => ?_⟩
    · rw [expandTags_eq_append, catalogColumns_of_failing hfailing]
      rfl
    · rw [expandTags_calls]
      split_ifs <;> simp
    · rw [expandTags_calls]
      constructor
      · intro h
        split_ifs at h with hasks
        · obtain ⟨hresolved, hother⟩ := Metric.hasTagColumns_eq_true_iff.mp hasks.2
          refine ⟨hasks.1, haccepted.mp ⟨p, hchecks⟩, q, p.metric, hfirst, hmetric, hresolved,
            hother, ?_⟩
          rw [List.mem_singleton.mp h, catalogCall, hrange]
        · cases h
      · rintro ⟨hsome, -, q', metric, hfirst', hmetric', hresolved, hother, rfl⟩
        -- The question is about the first query and its metric, which are those of the parts.
        obtain rfl := Option.some.inj (hfirst.symm.trans hfirst')
        obtain rfl := Option.some.inj (Except.ok.inj (hmetric.symm.trans hmetric'))
        rw [if_pos ⟨hsome, Metric.hasTagColumns_eq_true_iff.mpr ⟨hresolved, hother⟩⟩, hrange]
        exact List.mem_singleton_self _

/-- A request for a metric of a table with tag columns. -/
def discoveryRequest : ReadRequest where
  queries := [{
    startMs := -1500
    endMs := 1500
    matchers := [⟨0, metricNameLabel, "flow_log__l7_flow_log__byte"⟩] }]

/-- A catalog that never answers. -/
def timeoutCatalog : TagCatalog := fun _ => .error (Fault.other "TimeoutError" "timed out")

/-- A catalog that describes two tags of every table. -/
def twoTagCatalog : TagCatalog := fun _ => .ok [⟨"pod", "pod_0", "pod_1"⟩, ⟨"tap", "tap", "tap"⟩]

/-- The catalog that never answers is asked, and the request is compiled as without one; the other
one gives three columns. -/
theorem discovery_never_decides_timeout :
    (∀ ask ∈ some timeoutCatalog,
      ∀ call ∈ (discoveryRequest.recorded {} (some timeoutCatalog)).2,
        ∃ e, ask call = .error e) ∧
    (discoveryRequest.recorded {} (some timeoutCatalog)).1 =
      (discoveryRequest.recorded {} none).1 ∧
    (discoveryRequest.recorded {} (some timeoutCatalog)).2 =
      [⟨"flow_log", "l7_flow_log",
        "SHOW tags FROM l7_flow_log WHERE time >= -1 AND time <= 2", ⟨-1, 2⟩⟩] ∧
    ∃ plain back, (discoveryRequest.recorded {} none).1 = .ok plain ∧
      plain.sql = plain.metric.selectionFront ++ back ∧
      (discoveryRequest.recorded {} (some twoTagCatalog)).1 = .ok { plain with
        sql := plain.metric.selectionFront ++ Text.ofString ",`pod_0`,`pod_1`,`tap`" ++ back } := by
  have hfails : ∀ ask ∈ some timeoutCatalog,
      ∀ call ∈ (discoveryRequest.recorded {} (some timeoutCatalog)).2,
        ∃ e, ask call = .error e := by
    rintro ask ⟨⟩ call -
    exact ⟨_, rfl⟩
  obtain ⟨-, hsame, -, -, -⟩ := discoveryRequest.discovery_never_decides {} (some timeoutCatalog)
  obtain ⟨-, -, happends, -, -⟩ := discoveryRequest.discovery_never_decides {} (some twoTagCatalog)
  refine ⟨hfails, hsame hfails, rfl, ?_⟩
  obtain ⟨plain, hplain, hmetric⟩ : ∃ plain, (discoveryRequest.recorded {} none).1 = .ok plain ∧
      plain.metric = ⟨"byte", "flow_log", "l7_flow_log", []⟩ := ⟨_, rfl, rfl⟩
  rw [hplain] at happends ⊢
  -- The outcome is compared by what the theorem says of it, not evaluated.
  generalize (discoveryRequest.recorded {} (some twoTagCatalog)).1 = outcome at happends ⊢
  cases happends with
  | compiled _ back hsql =>
    have hcolumns : catalogColumns plain.metric plain.range {} (some twoTagCatalog) =
        [Text.ofString "pod_0", "pod_1", "tap"] := by
      rw [hmetric]
      rfl
    rw [hcolumns]
    exact ⟨plain, back, rfl, hsql, rfl⟩

end RemoteRead
