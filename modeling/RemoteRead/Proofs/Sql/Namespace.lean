import RemoteRead.Proofs.Environment
import RemoteRead.Proofs.Settings.Checked
import RemoteRead.Proofs.Sql.Statement
import RemoteRead.Proofs.Text.Trim

/-!
# Namespaces in statements

The name of a view stands in a statement behind its namespace and a point, and neither is quoted.
Settings refuse a namespace with one of six code points (`Settings.IsNamespace`), and let all others
through: commas, parentheses, tabs, the marks of comments. Among what they let through, a namespace
is one token in front of the point exactly if it is a word, with blanks around it at most
(`lex_namespace_iff`). All other parts of a statement have their own tokens whatever the namespace
is, so that a statement reads one view for these namespaces and for no others
(`views_read_one_source_unless_split`).
-/

namespace RemoteRead

/-! ## Accepted namespaces -/

namespace Settings

/-- What settings ask of a namespace. -/
structure IsNamespace (t : Text) : Prop where
  ne_nil : t ≠ []
  unbroken : ∀ c ∈ t, c ∉ namespaceBreakers

/-- Accepted namespaces are as settings ask. -/
theorem isNamespace_of_checkNamespace {v : Value} {t : Text} (h : checkNamespace v = .ok t) :
    IsNamespace t := by
  unfold checkNamespace at h
  obtain ⟨u, -, h⟩ := Outcome.bind_eq_ok_iff.mp h
  split_ifs at h with hflaw
  · cases h
  obtain rfl := Except.ok.inj h
  simp only [Bool.or_eq_true, not_or, List.any_eq_true, List.contains_iff_mem, not_exists,
    not_and] at hflaw
  exact ⟨fun hnil => hflaw.1 (List.isEmpty_iff.mpr hnil), hflaw.2⟩

/-- A whole number in bounds is at least the lower one. -/
theorem le_of_checkInt {least n : Int} {most : Option Int} {v : Value}
    (h : checkInt least most v = .ok n) : least ≤ n := by
  obtain ⟨m, -, h⟩ := Outcome.bind_eq_ok_iff.mp h
  split_ifs at h with habove hbelow
  · cases h
  · cases h
  · rw [← Except.ok.inj h]
    exact Int.not_lt.mp hbelow

variable {e : Environment} {source : Source} {s : Settings}

/-- The namespace of settings that are read is as they ask. -/
theorem IsRead.isNamespace (h : IsRead e source s) : IsNamespace s.virtualNamespace := by
  have hvirtual := h.virtualNamespace
  cases hsource : source "virtual_namespace" with
  | none =>
    rw [hsource] at hvirtual
    rw [← Except.ok.inj hvirtual]
    exact ⟨by decide, by decide⟩
  | some v =>
    rw [hsource] at hvirtual
    exact isNamespace_of_checkNamespace hvirtual

/-- What compilation takes from settings that are read is accepted. -/
theorem IsRead.checked_config (h : IsRead e source s) : s.config.checked = .ok s.config := by
  have hlimit {name : Text} {default n : Int} (hdefault : 1 ≤ default)
      (hn : IsSetting (source name) default (checkInt 1 none) n) : 1 ≤ n := by
    cases hsource : source name with
    | none =>
      rw [hsource] at hn
      rwa [← Except.ok.inj hn]
    | some v =>
      rw [hsource] at hn
      exact le_of_checkInt hn
  have hrow : 1 ≤ s.config.rowLimit := hlimit (by decide) h.rowLimit
  have hseries : 1 ≤ s.config.seriesLimit := hlimit (by decide) h.seriesLimit
  rw [Config.checked, if_neg (by omega), if_neg (by omega)]

end Settings

namespace Sql

/-! ## The token at the front -/

variable {c : CodePoint} {r t w : Text}

/-- A blank has no token. -/
theorem lex_cons_blank (hblank : isBlank c = true) (r : Text) : lex (c :: r) = lex r := by
  have hfront : front c r = (none, 0) := if_pos hblank
  rw [lex_cons, hfront]
  rfl

/-- What the token at the front says about the code point that is there: a word starts with a word
code point, and a mark with the code point itself. -/
structure Fronts (c : CodePoint) (token : Token) : Prop where
  word : ∀ w, token = .word w → isWordChar c = true
  mark : ∀ t, token = .mark t → t.head? = some c

/-- A token that is neither a word nor a mark says nothing. -/
theorem fronts_of_ne {token : Token} (hword : ∀ w, token ≠ .word w) (hmark : ∀ t, token ≠ .mark t) :
    Fronts c token :=
  ⟨fun w h => absurd h (hword w), fun t h => absurd h (hmark t)⟩

/-- A run of word code points is no mark. -/
theorem fronts_runToken (hword : isWordChar c = true) (t : Text) : Fronts c (runToken t) := by
  refine ⟨fun _ _ => hword, fun m h => ?_⟩
  rw [runToken] at h
  split_ifs at h

/-- A quoted token is neither a word nor a mark. -/
theorem fronts_quotedToken (quote : CodePoint) (t : Text) : Fronts c (quotedToken quote t) := by
  rw [quotedToken]
  split_ifs
  · exact fronts_of_ne (by simp) (by simp)
  · exact fronts_of_ne (by simp) (by simp)

/-- A comment is neither a word nor a mark. -/
theorem fronts_comment (t : Text) : Fronts c (.comment t) := fronts_of_ne (by simp) (by simp)

/-- A token that is left open is neither a word nor a mark. -/
theorem fronts_unterminated (t : Text) : Fronts c (.unterminated t) :=
  fronts_of_ne (by simp) (by simp)

/-- A mark starts with its own code point. -/
theorem fronts_mark (t : Text) : Fronts c (.mark (c :: t)) where
  word w h := by cases h
  mark m h := by
    rw [← Token.mark.inj h]
    rfl

/-- Anything but a blank has a token at its front. -/
theorem exists_front (hblank : isBlank c = false) (r : Text) :
    ∃ token, (front c r).1 = some token ∧ Fronts c token := by
  rw [front, if_neg (by simp [hblank])]
  split_ifs with hword
  · exact ⟨_, rfl, fronts_runToken hword _⟩
  · cases quotedBody c r with
    | none => exact ⟨_, rfl, fronts_unterminated _⟩
    | some found => exact ⟨_, rfl, fronts_quotedToken c found.1⟩
  · exact ⟨_, rfl, fronts_comment _⟩
  · cases Text.cut? "*/" (r.drop 1) with
    | none => exact ⟨_, rfl, fronts_unterminated _⟩
    | some found => exact ⟨_, rfl, fronts_comment _⟩
  · exact ⟨_, rfl, fronts_mark _⟩
  · exact ⟨_, rfl, fronts_mark _⟩

/-- Anything but a blank has tokens, of which the first is the one at its front. -/
theorem exists_lex_cons (hblank : isBlank c = false) (r : Text) :
    ∃ token rest, lex (c :: r) = token :: rest ∧ Fronts c token := by
  obtain ⟨token, hfront, hfronts⟩ := exists_front hblank r
  exact ⟨token, _, by rw [lex_cons, hfront]; rfl, hfronts⟩

/-- A text without quotes that starts with a word code point is a run of them and a text that
stops. -/
theorem exists_run (hword : isWordChar c = true) (hquotes : ∀ d ∈ c :: r, d ∉ quotes) :
    ∃ run tail, c :: r = run ++ tail ∧ run ≠ [] ∧ (∀ d ∈ run, isWordChar d = true) ∧
      Stops tail := by
  have hsplit : (c :: r).takeWhile isWordChar ++ (c :: r).dropWhile isWordChar = c :: r :=
    List.takeWhile_append_dropWhile
  refine ⟨_, _, hsplit.symm, ?_, fun d hd => List.mem_takeWhile_imp hd, fun d hd => ?_⟩
  · rw [List.takeWhile_cons_of_pos hword]
    exact List.cons_ne_nil _ _
  · have hmem : d ∈ (c :: r).dropWhile isWordChar := List.mem_of_head? hd
    exact ⟨Text.head?_dropWhile_eq_false isWordChar _ d hd,
      hquotes d ((List.dropWhile_sublist _).subset hmem)⟩

/-! ## A word between blanks -/

/-- The mark between a namespace and the name of a view. -/
def point : CodePoint := CodePoint.ofChar '.'

/-- A text that ends, or goes on with a point. -/
def Points (t : Text) : Prop := ∀ c ∈ t.head?, c = point

/-- A point is a token of its own in front of every text. -/
theorem lex_point (rest : Text) : lex (point :: rest) = .mark "." :: lex rest := rfl

/-- A point goes on with a point. -/
theorem points_cons (rest : Text) : Points (point :: rest) := fun _ h => (Option.some.inj h).symm

/-- A text that goes on with a point stops words and quotes. -/
theorem Points.stops (h : Points t) : Stops t := fun c hc => by
  rw [h c hc]
  decide

/-- The text is the word, with nothing but blanks around it. -/
structure IsWord (t w : Text) : Prop where
  between : ∃ left right, t = left ++ (w ++ right) ∧ (∀ c ∈ left, isBlank c = true) ∧
    ∀ c ∈ right, isBlank c = true
  wordChars : ∀ c ∈ w, isWordChar c = true
  not_number : w.all CodePoint.isDigit = false

/-- The run of a word is no number. -/
theorem runToken_eq_word_iff : runToken t = .word w ↔ t = w ∧ t.all CodePoint.isDigit = false := by
  rw [runToken]
  split_ifs with h
  · simp [h]
  · simp [h]

/-- A plain identifier is a word. -/
theorem isWord_of_isPlain (h : Identifier.isPlain w = true) : IsWord w w := by
  have hne : w ≠ [] := by
    rintro rfl
    cases h
  have hrun := lex_run hne (isWordChar_of_isPlain h) stops_nil
  rw [List.append_nil, (phrase_plain h).lex_eq] at hrun
  exact ⟨⟨[], [], by simp, nofun, nofun⟩, isWordChar_of_isPlain h,
    (runToken_eq_word_iff.mp (List.cons.inj hrun).1.symm).2⟩

/-- A blank in front does not matter. -/
theorem IsWord.cons_blank (hblank : isBlank c = true) (h : IsWord t w) : IsWord (c :: t) w := by
  obtain ⟨left, right, rfl, hleft, hright⟩ := h.between
  exact ⟨⟨c :: left, right, rfl, List.forall_mem_cons.mpr ⟨hblank, hleft⟩, hright⟩, h.wordChars,
    h.not_number⟩

/-- Blanks have no tokens. -/
theorem lex_blanks (h : ∀ c ∈ t, isBlank c = true) (rest : Text) : lex (t ++ rest) = lex rest := by
  induction t with
  | nil => rfl
  | cons c t ih =>
    obtain ⟨hc, ht⟩ := List.forall_mem_cons.mp h
    rw [List.cons_append, lex_cons_blank hc, ih ht]

/-- A blank is neither a word code point nor a quote. -/
theorem stops_blanks (h : ∀ c ∈ t, isBlank c = true) : Stops t := by
  intro c hc
  have hblank := h c (List.mem_of_head? hc)
  refine ⟨?_, fun hquote => ?_⟩
  · by_contra hword
    rw [isBlank_of_isWordChar (Bool.not_eq_false _ ▸ hword)] at hblank
    cases hblank
  · have hquotes : ∀ q ∈ quotes, isBlank q = false := by decide
    rw [hquotes c hquote] at hblank
    cases hblank

/-- A text without points that has no tokens in front of a point is blank. -/
theorem blanks_of_lex {u : Text} (ht : point ∉ t) (hu : Points u) (h : lex (t ++ u) = lex u) :
    ∀ c ∈ t, isBlank c = true := by
  induction t with
  | nil => exact nofun
  | cons c t ih =>
    obtain ⟨hc, ht⟩ := not_or.mp (mt List.mem_cons.mpr ht)
    cases hblank : isBlank c with
    | true =>
      rw [List.cons_append, lex_cons_blank hblank] at h
      exact List.forall_mem_cons.mpr ⟨hblank, ih ht h⟩
    | false =>
      -- Another token than the point is at the front.
      obtain ⟨token, tokens, hfront, hfronts⟩ := exists_lex_cons hblank (t ++ u)
      rw [List.cons_append, hfront] at h
      cases u with
      | nil => cases h
      | cons d rest =>
        obtain rfl := hu d rfl
        rw [lex_point] at h
        exact absurd (Option.some.inj (hfronts.mark _ (List.cons.inj h).1)) hc

variable {ns u : Text}

/-- A word is one token in front of a point. -/
theorem IsWord.lex_append (h : IsWord ns w) (hu : Stops u) :
    lex (ns ++ u) = .word w :: lex u := by
  obtain ⟨left, right, rfl, hleft, hright⟩ := h.between
  have hne : w ≠ [] := by
    rintro rfl
    cases h.not_number
  have htoken : runToken w = .word w := runToken_eq_word_iff.mpr ⟨rfl, h.not_number⟩
  rw [List.append_assoc, List.append_assoc, lex_blanks hleft,
    lex_run hne h.wordChars ((stops_blanks hright).append hu), lex_blanks hright, htoken]

/-- What has one word for its token in front of a point is that word. -/
theorem isWord_of_lex (hns : ∀ c ∈ ns, c ∉ quotes ∧ c ≠ point) (hu : Points u)
    (h : lex (ns ++ u) = .word w :: lex u) : IsWord ns w := by
  induction ns with
  | nil => exact absurd (congrArg List.length h) (by simp)
  | cons c r ih =>
    obtain ⟨-, hr⟩ := List.forall_mem_cons.mp hns
    cases hblank : isBlank c with
    | true =>
      rw [List.cons_append, lex_cons_blank hblank] at h
      exact (ih hr h).cons_blank hblank
    | false =>
      -- The token at the front is a word, so a run of word code points is there.
      obtain ⟨token, tokens, hfront, hfronts⟩ := exists_lex_cons hblank (r ++ u)
      rw [List.cons_append, hfront] at h
      have hword := hfronts.word w (List.cons.inj h).1
      rw [← hfront, ← List.cons_append] at h
      obtain ⟨run, tail, hsplit, hne, hall, hstops⟩ := exists_run hword fun d hd => (hns d hd).1
      have htail : point ∉ tail := fun hmem =>
        (hns point (hsplit ▸ List.mem_append_right run hmem)).2 rfl
      rw [hsplit, List.append_assoc, lex_run hne hall (hstops.append hu.stops)] at h
      obtain ⟨htoken, htokens⟩ := List.cons.inj h
      obtain ⟨rfl, hdigits⟩ := runToken_eq_word_iff.mp htoken
      exact ⟨⟨[], tail, hsplit, nofun, blanks_of_lex htail hu htokens⟩, hall, hdigits⟩

/-- What settings ask of a namespace leaves neither quotes nor points. -/
theorem not_mem_quotes_of_isNamespace (h : Settings.IsNamespace ns) :
    ∀ c ∈ ns, c ∉ quotes ∧ c ≠ point := by
  have hquotes : ∀ q ∈ quotes, q ∈ Settings.namespaceBreakers := by decide
  have hpoint : point ∈ Settings.namespaceBreakers := by decide
  intro c hc
  exact ⟨fun hquote => h.unbroken c hc (hquotes c hquote), fun heq =>
    h.unbroken c hc (heq ▸ hpoint)⟩

/-- In front of a point, an accepted namespace is one word exactly if it is that word between
blanks. -/
theorem lex_namespace_iff (h : Settings.IsNamespace ns) (rest : Text) :
    lex (ns ++ point :: rest) = .word w :: .mark "." :: lex rest ↔ IsWord ns w := by
  rw [← lex_point]
  exact ⟨isWord_of_lex (not_mem_quotes_of_isNamespace h) (points_cons rest), fun hword =>
    hword.lex_append (points_cons rest).stops⟩

/-! ## Statements that read views -/

open Identifier (isPlain)

/-- The tokens of a statement that reads one view: its columns, the namespace and the name of the
view with a point between them, and its conditions. -/
def viewTokens (ns : Text) (metric : Metric) (tags : List Text) (range : TimeRange) (q : Query)
    (config : Config) : List Token :=
  .word "SELECT" :: (columnTokens metric tags ++ .word "FROM" :: .word ns :: .mark "." ::
    .word metric.name :: .word "WHERE" ::
      (conditionTokens metric range q config ++ endingTokens metric config))

variable {metric : Metric} {config : Config} {range : TimeRange} {catalog : Option TagCatalog}

/-- All tags of a view are in one column. -/
theorem expandTags_of_view (hview : metric.isResolved = false) :
    expandTags metric range config catalog = ([Text.ofString "tag"], []) := by
  simp [expandTags, hview]

/-- The tokens of a statement that reads a view are those of its columns, and then those of its
namespace with what follows. -/
theorem lex_assemble_view {columns predicates : List Text}
    {columnTokens conditionTokens : List Token}
    (hview : metric.isResolved = false) (hname : isPlain metric.name = true)
    (hcolumns : Phrase (Text.join "," columns) columnTokens)
    (hconditions : Phrase (Text.join " AND " predicates ++ endingText metric config)
      conditionTokens) :
    ∃ rest, lex rest = .word metric.name :: .word "WHERE" :: conditionTokens ∧
      lex (assemble metric columns predicates config) = .word "SELECT" :: (columnTokens ++
        .word "FROM" :: lex (config.virtualNamespace ++ point :: rest)) := by
  refine ⟨_, ((phrase_plain hname).separate separator_where hconditions).lex_eq, ?_⟩
  have hsource : sourceText metric config =
      config.virtualNamespace ++ (Text.ofString "." ++ metric.name) := by
    rw [sourceText, if_neg (by simp [hview])]
  rw [lex_assemble_columns hcolumns, hsource]
  simp [point, Text.ofString]

/-- Where settings are read, compilation accepts what it takes from them. The statement of a query
for a view with a plain name reads one view, a namespace with a point and that name behind it,
exactly if the namespace of the settings is a word with blanks around it at most. A plain namespace
is one. -/
theorem views_read_one_source_unless_split {e : Environment} {source : Settings.Source}
    {s : Settings} (hread : Settings.ofSource e source = .ok (.ok s))
    {q : Query} {catalog : Option TagCatalog} {compiled : CompiledQuery} {calls : List CatalogCall}
    (hcompile : q.compile s.config catalog = .ok (compiled, calls))
    (hview : compiled.metric.isResolved = false) (hname : isPlain compiled.metric.name = true) :
    s.config.checked = .ok s.config ∧
    (∀ w, lex compiled.sql = viewTokens w compiled.metric ["tag"] compiled.range q s.config ↔
      IsWord s.virtualNamespace w) ∧
    (isPlain s.virtualNamespace = true → lex compiled.sql =
      viewTokens s.virtualNamespace compiled.metric ["tag"] compiled.range q s.config) := by
  have hsettings := Settings.ofSource_eq_ok_iff.mp hread
  suffices hsource : ∀ w, lex compiled.sql =
      viewTokens w compiled.metric ["tag"] compiled.range q s.config ↔
        IsWord s.virtualNamespace w from
    ⟨hsettings.checked_config, hsource, fun hplain => (hsource _).mpr (isWord_of_isPlain hplain)⟩
  intro w
  obtain ⟨metric, predicates, range, -, -, hmetric, hpredicates, -, rfl⟩ :=
    Query.compile_eq_ok_iff.mp hcompile
  obtain ⟨m, -, hdenotes⟩ := Query.metric_eq_some_iff.mp hmetric
  dsimp only at hview hname ⊢
  -- No catalog is asked for the columns of a view.
  have hnone : ∀ ask ∈ (none : Option TagCatalog), PlainColumns ask := nofun
  have hcolumns := phrase_columns (Metric.wellFormed_of_ofName hdenotes) hnone range s.config
  rw [expandTags_of_view hview] at hcolumns ⊢
  obtain ⟨rest, hrest, hlex⟩ :=
    lex_assemble_view hview hname hcolumns (phrase_compiled range hpredicates)
  -- The tokens before and after the namespace are the same, so it is left to be one word.
  rw [hlex, viewTokens, ← hrest]
  simp only [List.cons.injEq, true_and, List.append_cancel_left_eq]
  exact lex_namespace_iff hsettings.isNamespace rest

/-- A query for a view, with a matcher. -/
def viewQuery : Query where
  startMs := 1000
  endMs := 2000
  matchers := [⟨0, metricNameLabel, "up"⟩, ⟨0, "job", "api"⟩]

/-- What the query denotes. -/
def upMetric : Metric := ⟨"up", "", "", ""⟩

/-- The settings of a source that only gives a namespace. -/
def namespaced (ns : Text) : Settings := { virtualNamespace := ns }

/-- A line feed behind a namespace is a blank in front of the point. -/
theorem views_read_one_source_line : ∃ sql,
    Settings.ofSource (.holding [] []) (.ofList [("virtual_namespace", .text "views_1\n")]) =
      .ok (.ok (namespaced "views_1\n")) ∧
    viewQuery.compile (namespaced "views_1\n").config none =
      .ok (⟨sql, "", "", upMetric, ⟨1, 2⟩⟩, []) ∧
    upMetric.isResolved = false ∧ isPlain upMetric.name = true ∧
    lex sql = viewTokens "views_1" upMetric ["tag"] ⟨1, 2⟩ viewQuery
      (namespaced "views_1\n").config := by
  have hread : Settings.ofSource (.holding [] [])
      (.ofList [("virtual_namespace", .text "views_1\n")]) = .ok (.ok (namespaced "views_1\n")) :=
    rfl
  have hcompile : viewQuery.compile (namespaced "views_1\n").config none =
      .ok (⟨_, "", "", upMetric, ⟨1, 2⟩⟩, []) := rfl
  obtain ⟨-, hsource, -⟩ := views_read_one_source_unless_split hread hcompile rfl rfl
  have hword : IsWord (namespaced "views_1\n").virtualNamespace "views_1" :=
    ⟨⟨[], "\n", rfl, by decide, by decide⟩, by decide, by decide⟩
  exact ⟨_, hread, hcompile, rfl, rfl, (hsource _).mpr hword⟩

/-- Settings accept a namespace with a comma, and the statement then reads two sources. -/
theorem view_read_beside_another : ∃ sql,
    Settings.ofSource (.holding [] []) (.ofList [("virtual_namespace", .text "a,b")]) =
      .ok (.ok (namespaced "a,b")) ∧
    viewQuery.compile (namespaced "a,b").config none =
      .ok (⟨sql, "", "", upMetric, ⟨1, 2⟩⟩, []) ∧
    lex sql = .word "SELECT" :: (columnTokens upMetric ["tag"] ++ .word "FROM" :: .word "a" ::
      .mark "," :: .word "b" :: .mark "." :: .word "up" :: .word "WHERE" ::
        (conditionTokens upMetric ⟨1, 2⟩ viewQuery (namespaced "a,b").config ++
          endingTokens upMetric (namespaced "a,b").config)) ∧
    ∀ w, lex sql ≠ viewTokens w upMetric ["tag"] ⟨1, 2⟩ viewQuery (namespaced "a,b").config := by
  have hcompile : viewQuery.compile (namespaced "a,b").config none =
      .ok (⟨_, "", "", upMetric, ⟨1, 2⟩⟩, []) := rfl
  refine ⟨_, rfl, hcompile, by decide +kernel, fun w hsame => ?_⟩
  -- A comma would have to be the point.
  have hmark : (viewTokens w upMetric ["tag"] ⟨1, 2⟩ viewQuery (namespaced "a,b").config)[15]? =
      some (.mark ".") := rfl
  rw [← hsame] at hmark
  revert hmark
  decide +kernel

end Sql

end RemoteRead
