import Mathlib.Data.List.Basic
import Mathlib.Tactic.SplitIfs
import RemoteRead.Series.Layout

/-!
# What a located layout says about the columns

`locate` succeeds only on columns whose names are texts (`locate_text`). The places of the bare tags
are then distinct places of columns (`lt_of_mem_bareIndexes`, `nodup_bareIndexes`), so are those of
the metric and the time (`locate_metric`, `locate_time`), and a table without the column of all tags
has none in its layout (`locate_tagIndex`). What can go wrong besides is a missing column
(`error_of_locate`), and nothing else where the names are texts (`locate_of_text`).
-/

namespace RemoteRead.Layout

/-- A column gets the role of all tags by its name only. -/
theorem ofName_eq_tags_iff {name : Text} : ColumnRole.ofName name = .tags ↔ name = tagColumn := by
  unfold ColumnRole.ofName
  grind

/-- The names of scanned columns are texts. -/
theorem scan_text {columns : List Value} :
    ∀ {f f' : Found} {i : Nat}, scan f i columns = .ok f' →
      ∀ v ∈ columns, ∃ name, v = .text name := by
  induction columns with
  | nil => simp
  | cons v r ih =>
    intro f f' i h
    cases v <;> simp only [scan, reduceCtorEq] at h
    rename_i name
    intro v hv
    rcases List.mem_cons.mp hv with rfl | hv
    · exact ⟨name, rfl⟩
    · exact ih h v hv

/-- Scanning goes wrong only on a name that is no text. -/
theorem error_of_scan {columns : List Value} :
    ∀ {f : Found} {i : Nat} {e : Fault}, scan f i columns = .error e →
      ∃ message, e = .missingOperation message := by
  induction columns with
  | nil => simp [scan]
  | cons v r ih =>
    intro f i e h
    cases v with
    | text name => exact ih h
    | _ => exact ⟨_, (Except.error.inj h).symm⟩

/-- Without the column of all tags, scanning finds none. -/
theorem scan_tags {columns : List Value} :
    ∀ {f f' : Found} {i : Nat}, Value.text tagColumn ∉ columns → scan f i columns = .ok f' →
      f'.tags = f.tags := by
  induction columns with
  | nil =>
    intro f f' i _ h
    obtain rfl := Except.ok.inj h
    rfl
  | cons v r ih =>
    intro f f' i htag h
    obtain ⟨name, rfl⟩ := scan_text h v (by simp)
    have hrole : ColumnRole.ofName name ≠ .tags := fun hr =>
      htag (by rw [ofName_eq_tags_iff.mp hr]; simp)
    rw [scan] at h
    rw [ih (fun hr => htag (List.mem_cons_of_mem _ hr)) h]
    cases hr : ColumnRole.ofName name <;> first | exact absurd hr hrole | rfl

/-- With a column of all tags, scanning finds one. -/
theorem exists_scan_tags {columns : List Value} :
    ∀ {f f' : Found} {i : Nat}, Value.text tagColumn ∈ columns → scan f i columns = .ok f' →
      ∃ k, f'.tags = some k ∧ i ≤ k ∧ columns[k - i]? = some (.text tagColumn) := by
  induction columns with
  | nil => simp
  | cons v r ih =>
    intro f f' i htag h
    obtain ⟨name, rfl⟩ := scan_text h v (by simp)
    rw [scan] at h
    by_cases hrest : Value.text tagColumn ∈ r
    · -- A later column counts.
      obtain ⟨k, hk, hle, hcolumn⟩ := ih hrest h
      refine ⟨k, hk, by omega, ?_⟩
      rw [show k - i = k - (i + 1) + 1 by omega, List.getElem?_cons_succ]
      exact hcolumn
    · obtain rfl : tagColumn = name :=
        Value.text.inj ((List.mem_cons.mp htag).resolve_right hrest)
      refine ⟨i, ?_, Nat.le_refl i, by simp⟩
      rw [scan_tags hrest h, ofName_eq_tags_iff.mpr rfl]
      rfl

/-- The metric column that scanning finds is one of the scanned columns, and the name of the metric
is what stands behind the prefix. -/
theorem scan_metric {columns : List Value} :
    ∀ {f f' : Found} {i k : Nat} {name : Text}, scan f i columns = .ok f' →
      f'.metric = some (k, name) → f.metric = some (k, name) ∨
        (i ≤ k ∧ ∃ column, columns[k - i]? = some (.text column) ∧
          name = column.drop metricPrefix.length) := by
  induction columns with
  | nil =>
    intro f f' i k name h hfound
    obtain rfl := Except.ok.inj h
    exact .inl hfound
  | cons v r ih =>
    intro f f' i k name h hfound
    obtain ⟨column, rfl⟩ := scan_text h v (by simp)
    rw [scan] at h
    rcases ih h hfound with hnoted | ⟨hle, column', hcolumn, hname⟩
    · -- It is this column, or was found before.
      unfold ColumnRole.ofName at hnoted
      split_ifs at hnoted with htag hmetric htime
      · exact .inl hnoted
      · obtain ⟨rfl, rfl⟩ := Prod.mk.inj (Option.some.inj hnoted)
        exact .inr ⟨Nat.le_refl i, column, by simp, rfl⟩
      · exact .inl hnoted
      · exact .inl hnoted
    · refine .inr ⟨by omega, column', ?_, hname⟩
      rw [show k - i = k - (i + 1) + 1 by omega, List.getElem?_cons_succ]
      exact hcolumn

/-- The time column that scanning finds is one of the scanned columns. -/
theorem scan_time {columns : List Value} :
    ∀ {f f' : Found} {i k : Nat}, scan f i columns = .ok f' →
      f'.time = some k → f.time = some k ∨ (i ≤ k ∧ k < i + columns.length) := by
  induction columns with
  | nil =>
    intro f f' i k h hfound
    obtain rfl := Except.ok.inj h
    exact .inl hfound
  | cons v r ih =>
    intro f f' i k h hfound
    obtain ⟨column, rfl⟩ := scan_text h v (by simp)
    rw [scan] at h
    rw [List.length_cons]
    -- Of the four roles only one notes a time.
    rcases ih h hfound with hnoted | ⟨hle, hlt⟩
    · unfold ColumnRole.ofName at hnoted
      split_ifs at hnoted with htag hmetric htime
      · exact .inl hnoted
      · exact .inl hnoted
      · obtain rfl := Option.some.inj hnoted
        exact .inr ⟨Nat.le_refl i, by omega⟩
      · exact .inl hnoted
    · exact .inr ⟨by omega, by omega⟩

variable {columns : List Value} {layout : Layout}

/-- What locating finds: the last columns of the special roles, and all others as bare tags. -/
theorem exists_found (h : locate columns = .ok layout) :
    ∃ f, scan {} 0 columns = .ok f ∧
      f.metric = some (layout.metricIndex, layout.metricName) ∧ f.time = some layout.timeIndex ∧
      layout.tagIndex = f.tags ∧
      layout.bareIndexes = (List.range columns.length).filter fun i =>
        i ≠ layout.metricIndex ∧ i ≠ layout.timeIndex ∧ some i ≠ f.tags := by
  unfold locate at h
  split at h
  · simp at h
  · rename_i f hscan
    split at h
    · rename_i hmetric htime
      obtain rfl := Except.ok.inj h
      exact ⟨f, hscan, hmetric, htime, rfl, rfl⟩
    · simp at h

/-- The names of located columns are texts. -/
theorem locate_text (h : locate columns = .ok layout) {i : Nat} (hi : i < columns.length) :
    ∃ name, columns[i]? = some (.text name) := by
  obtain ⟨f, hscan, -⟩ := exists_found h
  obtain ⟨name, hname⟩ := scan_text hscan _ (List.getElem_mem hi)
  exact ⟨name, by rw [List.getElem?_eq_getElem hi, hname]⟩

/-- Without the column of all tags, every tag is bare. -/
theorem locate_tagIndex (h : locate columns = .ok layout) (htag : Value.text tagColumn ∉ columns) :
    layout.tagIndex = none := by
  obtain ⟨f, hscan, -, -, htags, -⟩ := exists_found h
  rw [htags, scan_tags htag hscan]

/-- With the column of all tags, the tags of a row are in one. -/
theorem exists_locate_tagIndex (h : locate columns = .ok layout)
    (htag : Value.text tagColumn ∈ columns) :
    ∃ i, layout.tagIndex = some i ∧ columns[i]? = some (.text tagColumn) := by
  obtain ⟨f, hscan, -, -, htags, -⟩ := exists_found h
  obtain ⟨k, hk, -, hcolumn⟩ := exists_scan_tags htag hscan
  exact ⟨k, htags.trans hk, by simpa using hcolumn⟩

/-- The place of the column of all tags is a place of a column. -/
theorem lt_of_tagIndex (h : locate columns = .ok layout) {i : Nat}
    (hi : layout.tagIndex = some i) : i < columns.length := by
  by_cases htag : Value.text tagColumn ∈ columns
  · obtain ⟨k, hk, hcolumn⟩ := exists_locate_tagIndex h htag
    obtain rfl := Option.some.inj (hi.symm.trans hk)
    exact (List.getElem?_eq_some_iff.mp hcolumn).1
  · rw [locate_tagIndex h htag] at hi
    cases hi

/-- What locating reports is that the metric or the time column is missing; it goes wrong otherwise
only on a name that is no text. -/
theorem error_of_locate {e : Error} (h : locate columns = .error e) :
    (∃ metric time names, e = .failure (.missingColumn metric time names)) ∨
      ∃ message, e = .fault (.missingOperation message) := by
  unfold locate at h
  split at h
  · rename_i f hscan
    obtain ⟨message, rfl⟩ := error_of_scan hscan
    exact .inr ⟨message, (Except.error.inj h).symm⟩
  · split at h
    · cases h
    · exact .inl ⟨_, _, _, (Except.error.inj h).symm⟩

/-- The places of bare tags are places of columns. -/
theorem lt_of_mem_bareIndexes (h : locate columns = .ok layout) {i : Nat}
    (hi : i ∈ layout.bareIndexes) : i < columns.length := by
  obtain ⟨f, -, -, -, -, hbare⟩ := exists_found h
  rw [hbare] at hi
  exact List.mem_range.mp (List.mem_of_mem_filter hi)

/-- No place of a bare tag occurs twice. -/
theorem nodup_bareIndexes (h : locate columns = .ok layout) : layout.bareIndexes.Nodup := by
  obtain ⟨f, -, -, -, -, hbare⟩ := exists_found h
  rw [hbare]
  exact List.nodup_range.filter _

/-- The metric column is a column, and the name of the metric is what stands behind the prefix of
its name. -/
theorem locate_metric (h : locate columns = .ok layout) :
    ∃ column, columns[layout.metricIndex]? = some (.text column) ∧
      layout.metricName = column.drop metricPrefix.length := by
  obtain ⟨f, hscan, hmetric, -⟩ := exists_found h
  rcases scan_metric hscan hmetric with hnone | ⟨-, hfound⟩
  · simp at hnone
  · simpa using hfound

/-- The time column is a column. -/
theorem locate_time (h : locate columns = .ok layout) : layout.timeIndex < columns.length := by
  obtain ⟨f, hscan, -, htime, -⟩ := exists_found h
  rcases scan_time hscan htime with hnone | ⟨-, hlt⟩
  · simp at hnone
  · omega

/-- Columns named by texts can be scanned. -/
theorem exists_scan {columns : List Value} (h : ∀ v ∈ columns, ∃ name, v = .text name) :
    ∀ (f : Found) (i : Nat), ∃ f', scan f i columns = .ok f' := by
  induction columns with
  | nil => exact fun f i => ⟨f, rfl⟩
  | cons v r ih =>
    intro f i
    obtain ⟨name, rfl⟩ := h v (by simp)
    exact ih (fun v hv => h v (List.mem_cons_of_mem _ hv)) _ _

/-- Columns named by texts are located, or the metric or the time column is missing. -/
theorem locate_of_text (h : ∀ v ∈ columns, ∃ name, v = .text name) :
    (∃ layout, locate columns = .ok layout) ∨
      ∃ metric time names, locate columns = .error (Failure.missingColumn metric time names) := by
  obtain ⟨f, hscan⟩ := exists_scan h {} 0
  unfold locate
  rw [hscan]
  dsimp only
  split
  · exact .inl ⟨_, rfl⟩
  · exact .inr ⟨_, _, _, rfl⟩

end RemoteRead.Layout
