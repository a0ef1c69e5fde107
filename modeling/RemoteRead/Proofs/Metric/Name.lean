import RemoteRead.Metric
import RemoteRead.Proofs.Identifier
import RemoteRead.Proofs.Text.Split

/-!
# What metric names denote

A name with segments denotes a metric of a table, any other a view. `ofName_eq_ok_iff` says which
metric a name denotes, for the segments that the name is split into.

A name that is put together from the segments of a metric denotes this metric
(`names_denote_their_segments`), as long as every delimiter in it is one that was put there: a
segment must not hold one, and one that ends in an underscore would give it to the delimiter behind.

The other way round, the names that denote a metric are its `spelling` and those that leave
something unread: an empty fourth segment, or segments after the fourth. Only without the latter do
different names denote different metrics (`names_differ_unless_unread`).
-/

namespace RemoteRead

open Identifier (accepts acceptsWord isPlain isWord)

namespace Metric

/-! ## Segments -/

/-- The underscore, of which the delimiter has two. -/
def underscore : CodePoint := CodePoint.ofChar '_'

/-- The delimiter is two underscores. -/
theorem delimiter_eq : delimiter = [underscore, underscore] := by decide

/-- The delimiter is not empty, so that splitting makes progress. -/
theorem delimiter_ne_nil : delimiter ≠ [] := by decide

/-- A segment without the delimiter that does not end in an underscore stands before the delimiter
behind it. -/
theorem standsBefore_delimiter {segment : Text} (h : ¬ delimiter <:+: segment)
    (hlast : segment.getLast? ≠ some underscore) : Text.StandsBefore delimiter segment := by
  intro hoccurs
  rw [delimiter_eq] at h hoccurs
  rcases List.infix_concat_iff.mp hoccurs with hends | hinside
  · -- Two underscores at the end, of which one belongs to the delimiter.
    obtain ⟨front, hfront⟩ := hends
    have hfront : (front ++ [underscore]) ++ [underscore] = segment ++ [underscore] := by
      rw [← hfront, List.append_assoc]
      rfl
    have hsegment : front ++ [underscore] = segment := List.append_cancel_right hfront
    rw [← hsegment, List.getLast?_concat] at hlast
    exact hlast rfl
  · exact h hinside

/-- Segments without the delimiter, of which none but the last ends in an underscore, are what their
join is split into. -/
theorem pieces_delimiter {segments : List Text} (hne : segments ≠ [])
    (h : ∀ segment ∈ segments, ¬ delimiter <:+: segment)
    (hlast : ∀ segment ∈ segments.dropLast, segment.getLast? ≠ some underscore) :
    Text.Pieces delimiter segments := by
  fun_induction Text.Pieces delimiter segments with
  | case1 => exact hne rfl
  | case2 segment => exact h segment List.mem_cons_self
  | case3 segment next segments ih =>
    obtain ⟨hsegment, hrest⟩ := List.forall_mem_cons.mp h
    rw [List.dropLast_cons_cons] at hlast
    obtain ⟨hsegmentLast, hrestLast⟩ := List.forall_mem_cons.mp hlast
    exact ⟨standsBefore_delimiter hsegment hsegmentLast,
      ih (List.cons_ne_nil next segments) hrest hrestLast⟩

variable {databases : Registry} {name : Text} {m : Metric} {rest : List Text}

/-- What is asked of the segments of a name: a registered database, one of its tables if it lists
any, and identifiers. -/
structure Admitted (databases : Registry) (m : Metric) : Prop where
  /-- The database is registered, with the table or without any. -/
  registered : ∃ tables, tablesOf? databases m.database = some tables ∧
    (tables = [] ∨ m.table ∈ tables)
  /-- The table is an identifier. -/
  table : accepts m.table = true
  /-- So is the name of the column. -/
  name : accepts m.name = true
  /-- A data source is a word. -/
  dataSource : m.dataSource = [] ∨ acceptsWord m.dataSource = true

/-- Segments denote the metric of the first three and of the fourth, if there is one. -/
theorem ofSegments?_eq_some_iff {segments : List Text} :
    ofSegments? databases segments = some m ↔ ∃ rest,
      segments = m.database :: m.table :: m.name :: rest ∧ m.dataSource = rest.headD [] ∧
        m.Admitted databases := by
  constructor
  · intro h
    unfold ofSegments? at h
    split at h
    · rename_i database table name rest
      split at h
      · simp at h
      · rename_i tables htables
        dsimp only at h
        -- Each check that is passed is one of the conditions.
        split_ifs at h with haccepted hsource hlisted
        obtain rfl := Option.some.inj h
        simp only [Bool.not_eq_true', Bool.not_eq_false, Bool.and_eq_true] at haccepted
        refine ⟨rest, rfl, rfl, ⟨tables, htables, ?_⟩, haccepted.1, haccepted.2, ?_⟩
        · simpa [or_iff_not_imp_left] using hlisted
        · simpa [or_iff_not_imp_left] using hsource
    · simp at h
  · rintro ⟨rest, rfl, hsource, ⟨tables, htables, hlisted⟩, htable, hname, hword⟩
    -- Each condition passes its check, in the order in which they stand in `ofSegments?`.
    have haccepted : ¬ (!(accepts m.table && accepts m.name)) = true := by
      simp [htable, hname]
    have hword : ¬ (!(rest.headD []).isEmpty && !acceptsWord (rest.headD [])) = true := by
      rw [← hsource]
      simpa [or_iff_not_imp_left] using hword
    have hlisted : ¬ (!tables.isEmpty && !tables.contains m.table) = true := by
      simpa [or_iff_not_imp_left] using hlisted
    simp only [ofSegments?, htables]
    rw [if_neg haccepted, if_neg hword, if_neg hlisted, ← hsource]

/-- A name denotes a metric if it denotes one at all. -/
theorem ofName_eq_ok_iff_ofName? :
    ofName databases name = .ok m ↔ ofName? databases name = some m := by
  unfold ofName
  cases ofName? databases name <;> simp

/-- A name without the delimiter denotes a view, and one with it the metric of its segments. -/
theorem ofName_eq_ok_iff :
    ofName databases name = .ok m ↔
      (¬ delimiter <:+: name ∧ accepts name = true ∧ m = { name }) ∨
      (delimiter <:+: name ∧ m.Admitted databases ∧ ∃ rest,
        Text.splitOn delimiter name = m.database :: m.table :: m.name :: rest ∧
          m.dataSource = rest.headD []) := by
  rw [ofName_eq_ok_iff_ofName?, ofName?, ← Text.contains_iff]
  -- The delimiter decides between a name of segments and the name of a view.
  by_cases hdelimited : Text.contains delimiter name = true
  · rw [if_pos hdelimited, ofSegments?_eq_some_iff]
    constructor
    · rintro ⟨rest, hsplit, hsource, hm⟩
      exact .inr ⟨hdelimited, hm, rest, hsplit, hsource⟩
    · rintro (⟨hplain, -⟩ | ⟨-, hm, rest, hsplit, hsource⟩)
      · exact absurd hdelimited hplain
      · exact ⟨rest, hsplit, hsource, hm⟩
  · rw [if_neg hdelimited]
    constructor
    · intro h
      split_ifs at h with haccepts
      exact .inl ⟨hdelimited, haccepts, (Option.some.inj h).symm⟩
    · rintro (⟨-, haccepts, rfl⟩ | ⟨h, -⟩)
      · exact if_pos haccepts
      · exact absurd h hdelimited

/-- Two segments or more are joined with a delimiter. -/
theorem delimiter_infix_join (segment next : Text) (rest : List Text) :
    delimiter <:+: Text.join delimiter (segment :: next :: rest) := by
  rw [Text.join]
  exact List.infix_append segment delimiter _

/-- A name that is split into the segments of a metric denotes it. -/
theorem ofName_join (hm : m.Admitted databases) (hsource : m.dataSource = rest.headD [])
    (hpieces : Text.Pieces delimiter (m.database :: m.table :: m.name :: rest)) :
    ofName databases (Text.join delimiter (m.database :: m.table :: m.name :: rest)) = .ok m :=
  ofName_eq_ok_iff.mpr (.inr ⟨delimiter_infix_join _ _ _, hm, rest,
    Text.splitOn_join delimiter_ne_nil hpieces, hsource⟩)

/-- A name put together from segments denotes the metric of these segments, and a name without a
delimiter the view of this name. -/
theorem names_denote_their_segments (databases : Registry) :
    (∀ database table name tables (dataSource : Option Text),
      tablesOf? databases database = some tables → (tables = [] ∨ table ∈ tables) →
      isPlain table = true → isPlain name = true → (∀ s ∈ dataSource, isWord s = true) →
      (∀ segment ∈ database :: table :: name :: dataSource.toList,
        Text.contains delimiter segment = false) →
      (∀ segment ∈ (database :: table :: name :: dataSource.toList).dropLast,
        segment.getLast? ≠ some underscore) →
        ofName databases (Text.join delimiter (database :: table :: name :: dataSource.toList)) =
          .ok { name, database, table, dataSource := dataSource.getD [] }) ∧
    (∀ name, isPlain name = true → Text.contains delimiter name = false →
      ofName databases name = .ok { name }) := by
  constructor
  · intro database table name tables dataSource htables hlisted htable hname hsource hclear hlast
    have hword : dataSource.getD [] = [] ∨ acceptsWord (dataSource.getD []) = true := by
      cases dataSource with
      | none => exact .inl rfl
      | some s => exact .inr (Identifier.acceptsWord_of_isWord (hsource s rfl))
    have hhead : dataSource.getD [] = dataSource.toList.headD [] := by
      cases dataSource <;> rfl
    -- No segment holds the delimiter or ends in an underscore, so the text splits back into them.
    refine ofName_join (m := { name, database, table, dataSource := dataSource.getD [] })
      ⟨⟨tables, htables, hlisted⟩, Identifier.accepts_of_isPlain htable,
        Identifier.accepts_of_isPlain hname, hword⟩ hhead
      (pieces_delimiter (List.cons_ne_nil _ _) (fun segment hsegment => ?_) hlast)
    rw [← Text.contains_iff, hclear segment hsegment]
    exact Bool.false_ne_true
  · intro name hname hclear
    have hundelimited : ¬ delimiter <:+: name := by
      rw [← Text.contains_iff, hclear]
      exact Bool.false_ne_true
    exact ofName_eq_ok_iff.mpr (.inl ⟨hundelimited, Identifier.accepts_of_isPlain hname, rfl⟩)

/-- Segments of which two start and one ends with an underscore. -/
def underscored : List Text := ["event", "event", "_count", "_1m_"]

/-- Of three underscores in a row, the first two are the delimiter. -/
theorem name_of_underscored :
    tablesOf? defaultDatabases "event" = some [Text.ofString "event"] ∧
    isPlain "event" = true ∧ isPlain "_count" = true ∧ isWord "_1m_" = true ∧
    (∀ segment ∈ underscored, Text.contains delimiter segment = false) ∧
    (∀ segment ∈ underscored.dropLast, segment.getLast? ≠ some underscore) ∧
    Text.join delimiter underscored = Text.ofString "event__event___count___1m_" ∧
    ofName defaultDatabases "event__event___count___1m_" =
      .ok ⟨"_count", "event", "event", "_1m_"⟩ ∧
    isPlain "up_" = true ∧ Text.contains delimiter "up_" = false ∧
    ofName defaultDatabases "up_" = .ok { name := "up_" } := by
  obtain ⟨htable, hview⟩ := names_denote_their_segments defaultDatabases
  have hword : ∀ s ∈ some (Text.ofString "_1m_"), isWord s = true := by decide
  have hclear : ∀ segment ∈ underscored, Text.contains delimiter segment = false := by decide
  have hlast : ∀ segment ∈ underscored.dropLast, segment.getLast? ≠ some underscore := by decide
  have hjoin : Text.join delimiter underscored = Text.ofString "event__event___count___1m_" := by
    decide
  have hread := htable "event" "event" "_count" ["event"] (some "_1m_") rfl
    (.inr List.mem_cons_self) (by decide) (by decide) hword hclear hlast
  refine ⟨rfl, by decide, by decide, by decide, hclear, hlast, hjoin, ?_, by decide, by decide,
    hview "up_" (by decide) (by decide)⟩
  rw [← hjoin]
  exact hread

/-! ## Names that denote one metric -/

/-- The segments of a metric of a table, with the data source if it has one. -/
def segments (m : Metric) : List Text :=
  m.database :: m.table :: m.name :: if m.dataSource.isEmpty then [] else [m.dataSource]

/-- The name that spells a metric out: the segments of one of a table, the name of a view. -/
def spelling (m : Metric) : Text :=
  if m.table.isEmpty then m.name else Text.join delimiter m.segments

/-- Something of a name is left unread: its fourth segment is empty, or there are more than four. -/
def LeavesUnread (name : Text) : Prop :=
  ∃ fourth later, (Text.splitOn delimiter name).drop 3 = fourth :: later ∧
    (fourth = [] ∨ later ≠ [])

/-- What is left unread shows behind the third segment. -/
theorem leavesUnread_iff (hsplit : Text.splitOn delimiter name =
    m.database :: m.table :: m.name :: rest) :
    LeavesUnread name ↔ ∃ fourth later, rest = fourth :: later ∧ (fourth = [] ∨ later ≠ []) := by
  rw [LeavesUnread, hsplit]
  rfl

/-- The segments of a name are those of its metric, followed by those that are left unread. -/
theorem splitOn_eq_segments (hsplit : Text.splitOn delimiter name =
    m.database :: m.table :: m.name :: rest) (hsource : m.dataSource = rest.headD []) :
    (¬ LeavesUnread name ∧ Text.splitOn delimiter name = m.segments) ∨
    (LeavesUnread name ∧ ∃ next later,
      Text.splitOn delimiter name = m.segments ++ next :: later) := by
  rw [leavesUnread_iff hsplit, hsplit, segments, hsource]
  -- An empty fourth segment is no data source, and leaves itself unread with all behind it.
  match rest with
  | [] => exact .inl ⟨by simp, rfl⟩
  | [] :: later => exact .inr ⟨⟨[], later, rfl, .inl rfl⟩, [], later, rfl⟩
  | [c :: r] => exact .inl ⟨by simp, rfl⟩
  | (c :: r) :: fifth :: later =>
    exact .inr ⟨⟨c :: r, fifth :: later, rfl, .inr (List.cons_ne_nil _ _)⟩, fifth, later, rfl⟩

/-- The segments of a metric are the first ones of a name that denotes it, and so segments. -/
theorem pieces_segments (hpieces : Text.Pieces delimiter (m.database :: m.table :: m.name :: rest))
    (hsource : m.dataSource = rest.headD []) : Text.Pieces delimiter m.segments := by
  rw [segments, hsource]
  match rest with
  | [] => exact hpieces
  | [] :: _ => exact hpieces.take 2
  | (_ :: _) :: _ => exact hpieces.take 3

/-- A metric whose table is an identifier is spelled with its segments. -/
theorem Admitted.spelling_eq (hm : m.Admitted databases) :
    m.spelling = Text.join delimiter m.segments := by
  have htable : ¬ m.table.isEmpty = true := by
    rw [List.isEmpty_iff]
    exact Identifier.ne_nil_of_accepts hm.table
  rw [spelling, if_neg htable]

/-- A name without the delimiter leaves nothing unread. -/
theorem not_leavesUnread_of_undelimited (h : ¬ delimiter <:+: name) : ¬ LeavesUnread name := by
  rintro ⟨fourth, later, hdrop, -⟩
  rw [Text.splitOn_eq delimiter_ne_nil, Text.cut?_eq_none_iff.mpr h] at hdrop
  cases hdrop

/-- A name is the spelling of its metric, and then a delimiter and what is left unread. -/
theorem eq_spelling_or (h : ofName databases name = .ok m) :
    (¬ LeavesUnread name ∧ name = m.spelling) ∨
    (LeavesUnread name ∧ ∃ unread, name = m.spelling ++ (delimiter ++ unread)) := by
  rcases ofName_eq_ok_iff.mp h with ⟨hplain, -, rfl⟩ | ⟨-, hm, rest, hsplit, hsource⟩
  · exact .inl ⟨not_leavesUnread_of_undelimited hplain, rfl⟩
  · rw [hm.spelling_eq]
    rcases splitOn_eq_segments hsplit hsource with ⟨hread, heq⟩ | ⟨hunread, next, later, heq⟩
    · obtain ⟨-, hname⟩ := (Text.splitOn_eq_iff delimiter_ne_nil).mp heq
      exact .inl ⟨hread, hname⟩
    · obtain ⟨-, hname⟩ := (Text.splitOn_eq_iff delimiter_ne_nil).mp heq
      have hne : m.segments ≠ [] := List.cons_ne_nil _ _
      refine .inr ⟨hunread, Text.join delimiter (next :: later), ?_⟩
      calc name = Text.join delimiter (m.segments ++ next :: later) := hname
        _ = Text.join delimiter m.segments ++
            (delimiter ++ Text.join delimiter (next :: later)) := Text.join_append hne next later

/-- The spelling of a metric denotes it, if any name does. -/
theorem ofName_spelling (h : ofName databases name = .ok m) :
    ofName databases m.spelling = .ok m := by
  rcases ofName_eq_ok_iff.mp h with ⟨-, -, rfl⟩ | ⟨-, hm, rest, hsplit, hsource⟩
  · exact h
  · obtain ⟨hpieces, -⟩ := (Text.splitOn_eq_iff delimiter_ne_nil).mp hsplit
    have hhead : m.dataSource = (if m.dataSource.isEmpty then [] else [m.dataSource]).headD [] := by
      cases m.dataSource <;> rfl
    rw [hm.spelling_eq]
    exact ofName_join hm hhead (pieces_segments hpieces hsource)

/-- Names of which nothing is left unread are the spelling of their metric, so that different ones
denote different metrics. A name of which something is left unread denotes the metric of a shorter
name, which it starts with. -/
theorem names_differ_unless_unread (databases : Registry) :
    (∀ name m, ofName databases name = .ok m → ¬ LeavesUnread name → name = m.spelling) ∧
    (∀ name name' m m', ofName databases name = .ok m → ofName databases name' = .ok m' →
      ¬ LeavesUnread name → ¬ LeavesUnread name' → name ≠ name' → m ≠ m') ∧
    (∀ name m, ofName databases name = .ok m → LeavesUnread name →
      ofName databases m.spelling = .ok m ∧ ¬ LeavesUnread m.spelling ∧
        ∃ unread, name = m.spelling ++ (delimiter ++ unread)) := by
  -- Without unread segments a name is spelled from its metric, which makes it the only one.
  have hspelling {name m} (h : ofName databases name = .ok m) (hread : ¬ LeavesUnread name) :
      name = m.spelling := by
    rcases eq_spelling_or h with ⟨-, heq⟩ | ⟨hunread, -⟩
    · exact heq
    · exact absurd hunread hread
  refine ⟨fun name m => hspelling, ?_, ?_⟩
  · rintro name name' m m' h h' hread hread' hne rfl
    exact hne ((hspelling h hread).trans (hspelling h' hread').symm)
  · intro name m h hunread
    have hshort := ofName_spelling h
    refine ⟨hshort, ?_, ?_⟩
    · rcases eq_spelling_or hshort with ⟨hread, -⟩ | ⟨-, unread, heq⟩
      · exact hread
      · -- No text is itself with something behind it.
        have hlength := congrArg List.length heq
        rw [List.length_append, List.length_append, delimiter_eq, List.length_cons] at hlength
        omega
    · rcases eq_spelling_or h with ⟨hread, -⟩ | ⟨-, hlonger⟩
      · exact absurd hunread hread
      · exact hlonger

/-- A column of a table in the interval `1m`. -/
def countMetric : Metric where
  name := "count"
  database := "event"
  table := "event"
  dataSource := "1m"

/-- Its name. -/
def countName : Text := "event__event__count__1m"

/-- Its name with a fifth segment behind it, which is no identifier. -/
def longerName : Text := "event__event__count__1m__x-y"

/-- The name denotes the metric. -/
theorem ofName_countName : ofName defaultDatabases countName = .ok countMetric :=
  ofName_eq_ok_iff_ofName?.mpr (by decide)

/-- The longer name denotes the same metric. -/
theorem ofName_longerName : ofName defaultDatabases longerName = .ok countMetric :=
  ofName_eq_ok_iff_ofName?.mpr (by decide)

/-- All segments of the name are read. -/
theorem not_leavesUnread_countName : ¬ LeavesUnread countName := by
  have hsplit : Text.splitOn delimiter countName =
      countMetric.database :: countMetric.table :: countMetric.name :: ["1m"] := by decide
  rw [leavesUnread_iff hsplit]
  rintro ⟨fourth, later, hrest, hunread⟩
  obtain ⟨rfl, rfl⟩ := List.cons.inj hrest
  exact hunread.elim (by decide) fun hlater => hlater rfl

/-- The longer name has a segment that is not read. -/
theorem leavesUnread_longerName : LeavesUnread longerName :=
  ⟨"1m", ["x-y"], by decide, .inr (List.cons_ne_nil _ _)⟩

/-- The shorter name is the spelling of its metric, and the longer one has another name for it. -/
theorem names_differ_countName :
    ofName defaultDatabases countName = .ok countMetric ∧ ¬ LeavesUnread countName ∧
    countName = countMetric.spelling ∧
    ofName defaultDatabases "up" = .ok { name := "up" } ∧ ¬ LeavesUnread "up" ∧
    countName ≠ "up" ∧ countMetric ≠ { name := "up" } ∧
    ofName defaultDatabases longerName = .ok countMetric ∧ LeavesUnread longerName ∧
    ∃ unread, longerName = countMetric.spelling ++ (delimiter ++ unread) := by
  obtain ⟨hspelling, hdiffer, hlonger⟩ := names_differ_unless_unread defaultDatabases
  have hview : ofName defaultDatabases "up" = .ok { name := "up" } :=
    ofName_eq_ok_iff_ofName?.mpr (by decide)
  have hup : ¬ LeavesUnread "up" := not_leavesUnread_of_undelimited (by decide)
  have hne : countName ≠ "up" := fun heq => absurd (congrArg List.length heq) (by decide)
  exact ⟨ofName_countName, not_leavesUnread_countName,
    hspelling _ _ ofName_countName not_leavesUnread_countName, hview, hup, hne,
    hdiffer _ _ _ _ ofName_countName hview not_leavesUnread_countName hup hne,
    ofName_longerName, leavesUnread_longerName,
    (hlonger _ _ ofName_longerName leavesUnread_longerName).2.2⟩

/-- In a registry without an empty key, two names denote one metric. -/
theorem two_names_of_one_metric :
    tablesOf? defaultDatabases [] = none ∧ longerName ≠ countName ∧
    ofName defaultDatabases longerName = .ok countMetric ∧
    ofName defaultDatabases countName = .ok countMetric :=
  ⟨rfl, fun heq => absurd (congrArg List.length heq) (by decide), ofName_longerName,
    ofName_countName⟩

end Metric

end RemoteRead
