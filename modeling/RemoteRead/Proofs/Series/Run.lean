import RemoteRead.Proofs.Series.Grouping

/-!
# Runs of an accumulator

A run starts with an empty accumulator and makes one call after the other: a key asks to be
admitted, is answered, and the caller goes on with the series that it is given. `summary` says what
is left of the calls, without an accumulator that is changed from call to call: the first distinct
keys within the limit, for each of them what the calls with this key made of an empty series
(`ownSeries`), and the number of the other calls. One call keeps up with the summary
(`call_summary`, by the cases of `call_eq`), and so every run ends in it (`run_eq_summary`).

The answers follow from what is held (`answer_run`). The held keys only grow, and no longer once the
limit is reached (`admissible_of_full`), so a key that was admitted stays so and one that was
rejected is never admitted: `first_keys_held`. Decoding makes such a run, with one call for each row
of the table (`exists_run_of_rows`), so the calls that it counts as rejected are the rows that are
in no series (`rejected_of_rows`).
-/

namespace RemoteRead.Accumulator

open Outcome

/-! ## Calls and their answers -/

/-- A key that asks to be admitted, and what the caller then does to the series that it is given. -/
structure Call where
  /-- The key. -/
  key : Text
  /-- What the caller does to the series. -/
  change : TimeSeries → TimeSeries

/-- The series that is held under a key. -/
def series? (a : Accumulator) (key : Text) : Option TimeSeries := a.admitted.lookup key

/-- What a key that asks is answered: the series to go on with, unless the key is rejected, and
whether this call admits it. -/
def answer (a : Accumulator) (key : Text) : Option TimeSeries × Bool :=
  match a.offer key with
  | (_, .rejected) => (none, false)
  | (b, .known) => (b.series? key, false)
  | (b, .created) => (b.series? key, true)

/-- The accumulator after a call. A caller that is given no series changes none. -/
def call (a : Accumulator) (c : Call) : Accumulator :=
  match a.offer c.key with
  | (b, .rejected) => b
  | (b, _) => b.update c.key c.change

/-- The accumulator after a run of calls. -/
def run (limit : Int) (calls : List Call) : Accumulator := calls.foldl call (empty limit)

variable {limit : Int} {a : Accumulator} {calls : List Call} {key : Text}

/-- What a call can do: the series of a known key is changed, a key beyond the limit is counted, and
any other is admitted with what the caller makes of an empty series. -/
theorem call_eq (a : Accumulator) (c : Call) :
    a.call c =
      if c.key ∈ a.keys then a.update c.key c.change
      else if a.limit ≤ a.admitted.length then { a with rejected := a.rejected + 1 }
      else { a with admitted := a.admitted ++ [(c.key, c.change {})] } := by
  unfold call
  obtain ⟨hmem, hoffer⟩ | ⟨hmem, hfull, hoffer⟩ | ⟨hmem, hroom, hoffer⟩ := a.offer_cases c.key
  · rw [hoffer, if_pos hmem]
  · rw [hoffer, if_neg hmem, if_pos hfull]
  · rw [hoffer, if_neg hmem, if_neg (by omega)]
    exact update_concat hmem {} c.change

/-- No series is held under a key that is not admitted. -/
theorem series?_eq_none (h : key ∉ a.keys) : a.series? key = none := by
  refine List.lookup_eq_none_iff.mpr fun p hp => ?_
  have hne : key ≠ p.1 := fun heq => h (heq ▸ List.mem_map_of_mem hp)
  simpa using hne

/-- A known key is answered with its series, a key beyond the limit with none, and any other is
admitted and answered with an empty one. -/
theorem answer_eq (a : Accumulator) (key : Text) :
    a.answer key =
      if key ∈ a.keys then (a.series? key, false)
      else if a.limit ≤ a.admitted.length then (none, false)
      else (some {}, true) := by
  unfold answer
  obtain ⟨hmem, hoffer⟩ | ⟨hmem, hfull, hoffer⟩ | ⟨hmem, hroom, hoffer⟩ := a.offer_cases key
  · rw [hoffer, if_pos hmem]
  · rw [hoffer, if_neg hmem, if_pos hfull]
  · -- The key is admitted behind the others, with an empty series.
    have hnew : series? { a with admitted := a.admitted ++ [(key, {})] } key = some {} := by
      have hnone : a.admitted.lookup key = none := series?_eq_none hmem
      simp [series?, List.lookup_append, hnone]
    rw [hoffer, if_neg hmem, if_neg (by omega)]
    simp only [hnew]

/-! ## What is left of a run -/

/-- What the calls with a key make of an empty series. -/
def ownSeries (key : Text) (calls : List Call) : TimeSeries :=
  (calls.filter (·.key = key)).foldl (fun s c => c.change s) {}

/-- What is left of the calls: each admissible key with its own series, and how many calls had
another key. -/
def summary (limit : Int) (calls : List Call) : Accumulator where
  limit := limit
  admitted := (admissible limit (calls.map (·.key))).map fun key => (key, ownSeries key calls)
  rejected := calls.countP fun c => !(admissible limit (calls.map (·.key))).contains c.key

/-- A call changes the series of its key only. -/
theorem ownSeries_concat (key : Text) (calls : List Call) (c : Call) :
    ownSeries key (calls ++ [c]) =
      if key = c.key then c.change (ownSeries key calls) else ownSeries key calls := by
  unfold ownSeries
  rw [List.filter_append, List.foldl_append]
  split_ifs with h
  · simp [h]
  · simp [Ne.symm h]

/-- A key that never asked has an empty series. -/
theorem ownSeries_of_notMem (h : key ∉ calls.map (·.key)) : ownSeries key calls = {} := by
  have hnone : calls.filter (·.key = key) = [] := by
    refine List.filter_eq_nil_iff.mpr fun c hc => ?_
    have hne : c.key ≠ key := fun heq => h (heq ▸ List.mem_map_of_mem hc)
    simpa using hne
  rw [ownSeries, hnone, List.foldl_nil]

/-- A call leaves the series of other keys as they are. -/
theorem map_ownSeries_concat {keys : List Text} {c : Call} (h : c.key ∉ keys)
    (calls : List Call) :
    (keys.map fun key => (key, ownSeries key (calls ++ [c]))) =
      keys.map fun key => (key, ownSeries key calls) := by
  refine List.map_congr_left fun key hkey => ?_
  rw [ownSeries_concat, if_neg (ne_of_mem_of_not_mem hkey h)]

/-- A summary holds the admissible keys. -/
@[simp]
theorem keys_summary (limit : Int) (calls : List Call) :
    (summary limit calls).keys = admissible limit (calls.map (·.key)) := by
  unfold keys summary
  rw [List.map_map]
  exact List.map_id _

/-- A summary has the limit of the run. -/
@[simp]
theorem limit_summary (limit : Int) (calls : List Call) : (summary limit calls).limit = limit := rfl

/-- A summary has a series for each admissible key. -/
@[simp]
theorem length_admitted_summary (limit : Int) (calls : List Call) :
    (summary limit calls).admitted.length = (admissible limit (calls.map (·.key))).length :=
  List.length_map ..

/-- The series of an admissible key is its own. -/
theorem series?_summary (h : key ∈ admissible limit (calls.map (·.key))) :
    (summary limit calls).series? key = some (ownSeries key calls) :=
  List.lookup_graph (ownSeries · calls) h

/-- A call leaves of the calls before it what is left of them and it. -/
theorem call_summary (limit : Int) (calls : List Call) (c : Call) :
    (summary limit calls).call c = summary limit (calls ++ [c]) := by
  have hconcat := admissible_concat limit (calls.map (·.key)) c.key
  rw [call_eq, keys_summary, limit_summary, length_admitted_summary]
  -- By the cases of one call and of one more key.
  split_ifs at hconcat ⊢ with hmem hfull
  · -- A known key keeps its place, and its series is changed.
    simp only [summary, update, List.map_append, List.map_singleton, hconcat, List.map_map,
      List.countP_append, ownSeries_concat]
    congr 1
    · refine List.map_congr_left fun key _ => ?_
      simp only [Function.comp_apply]
      split_ifs <;> rfl
    · simp [hmem]
  · -- A rejected key is none of those whose series are held.
    simp only [summary, List.map_append, List.map_singleton, hconcat, List.countP_append,
      map_ownSeries_concat hmem]
    congr 1
    simp [hmem]
  · -- A key that is admitted asks for the first time, so no earlier call had it.
    have hnew : c.key ∉ calls.map (·.key) := fun h => hmem (mem_admissible_of_lt (by omega) h)
    have hown : ownSeries c.key (calls ++ [c]) = c.change {} := by
      rw [ownSeries_concat, if_pos rfl, ownSeries_of_notMem hnew]
    have hcount :
        (calls.countP fun d => !(admissible limit (calls.map (·.key)) ++ [c.key]).contains d.key) =
          calls.countP fun d => !(admissible limit (calls.map (·.key))).contains d.key := by
      refine List.countP_congr fun d hd => ?_
      have hne : d.key ≠ c.key := fun heq => hnew (heq ▸ List.mem_map_of_mem hd)
      simp [hne]
    simp only [summary, List.map_append, List.map_singleton, hconcat, List.countP_append,
      map_ownSeries_concat hmem, hown, hcount]
    congr 1
    simp

/-- A run ends in the summary of its calls. -/
theorem run_eq_summary (limit : Int) (calls : List Call) :
    run limit calls = summary limit calls := by
  induction calls using List.reverseRecOn with
  | nil => simp [run, summary, empty, admissible]
  | append_singleton calls c ih =>
    have hrun : run limit (calls ++ [c]) = (run limit calls).call c := by
      simp [run, List.foldl_append]
    rw [hrun, ih, call_summary]

/-- After a run the admissible keys are held. -/
theorem keys_run (limit : Int) (calls : List Call) :
    (run limit calls).keys = admissible limit (calls.map (·.key)) := by
  rw [run_eq_summary, keys_summary]

/-- A run counts as rejected the calls whose keys are not held in the end. -/
theorem rejected_run (limit : Int) (calls : List Call) :
    (run limit calls).rejected = calls.countP (·.key ∉ (run limit calls).keys) := by
  rw [keys_run, run_eq_summary]
  simp [summary]

/-! ## Answers over a run -/

/-- What a key is answered after a run: a held key its own series, one that comes too late none, and
any other an empty series. -/
theorem answer_run (limit : Int) (calls : List Call) (key : Text) :
    (run limit calls).answer key =
      if key ∈ admissible limit (calls.map (·.key)) then (some (ownSeries key calls), false)
      else if limit ≤ (admissible limit (calls.map (·.key))).length then (none, false)
      else (some {}, true) := by
  rw [run_eq_summary, answer_eq, keys_summary, limit_summary, length_admitted_summary]
  split_ifs with hmem
  · rw [series?_summary hmem]
  · rfl
  · rfl

/-- After a run a key is admitted if it never asked before, and if fewer distinct keys than the
limit did. -/
theorem answer_run_created_iff :
    ((run limit calls).answer key).2 = true ↔
      key ∉ calls.map (·.key) ∧ ((calls.map (·.key)).eraseDups.length : Int) < limit := by
  rw [answer_run, ← length_admissible_lt_iff]
  -- A held key asked before, and a full accumulator has no room.
  split_ifs with hmem hfull
  · have hasked := mem_of_mem_admissible hmem
    simp [hasked]
  · simp [hfull]
  · have hnew : key ∉ calls.map (·.key) := fun h => hmem (mem_admissible_of_lt (by omega) h)
    have hroom : ((admissible limit (calls.map (·.key))).length : Int) < limit := by omega
    exact iff_of_true rfl ⟨hnew, hroom⟩

/-- After a run a key is rejected if it is not held and the limit is reached. -/
theorem answer_run_rejected_iff :
    ((run limit calls).answer key).1 = none ↔
      key ∉ admissible limit (calls.map (·.key)) ∧
        limit ≤ (admissible limit (calls.map (·.key))).length := by
  rw [answer_run]
  split_ifs with hmem hfull
  · simp [hmem]
  · simp [hmem, hfull]
  · simp [hfull]

/-- A key that was answered with a series is held from then on. -/
theorem mem_admissible_of_answered {c : Call} (h : ((run limit calls).answer c.key).1 ≠ none)
    (later : List Call) : c.key ∈ admissible limit ((calls ++ c :: later).map (·.key)) := by
  have hheld : c.key ∈ admissible limit (calls.map (·.key) ++ [c.key]) := by
    rw [admissible_concat]
    rw [Ne, answer_run_rejected_iff] at h
    split_ifs with hmem hfull
    · exact hmem
    · exact absurd ⟨hmem, hfull⟩ h
    · simp
  have hgrows := admissible_prefix limit (calls.map (·.key) ++ [c.key]) (later.map (·.key))
  rw [List.map_append, List.map_cons, List.append_cons]
  exact hgrows.subset hheld

/-- After any calls under any limit, the keys that are held are the first distinct ones of the
calls, as many as the limit allows and none if it is negative, in the order in which they first
came. A key that asks next is admitted exactly if it is new and fewer distinct keys than the limit
asked before. A key that is answered with a series is a known key in every later call and is
answered with what the calls with this key made of its series; a key that is rejected is rejected in
every later call; and the calls counted as rejected are those whose keys are not held. -/
theorem first_keys_held (limit : Int) (calls : List Call) :
    (run limit calls).keys = (calls.map (·.key)).eraseDups.take limit.toNat ∧
    (∀ key, ((run limit calls).answer key).2 = true ↔
      key ∉ calls.map (·.key) ∧ ((calls.map (·.key)).eraseDups.length : Int) < limit) ∧
    (∀ (c : Call) (later : List Call), ((run limit calls).answer c.key).1 ≠ none →
      (run limit (calls ++ c :: later)).answer c.key =
        (some (ownSeries c.key (calls ++ c :: later)), false)) ∧
    (∀ (c : Call) (later : List Call), ((run limit calls).answer c.key).1 = none →
      (run limit (calls ++ c :: later)).answer c.key = (none, false)) ∧
    (run limit calls).rejected = calls.countP (·.key ∉ (run limit calls).keys) := by
  refine ⟨keys_run limit calls, fun key => answer_run_created_iff, fun c later h => ?_,
    fun c later h => ?_, rejected_run limit calls⟩
  · -- The key is held from then on.
    rw [answer_run, if_pos (mem_admissible_of_answered h later)]
  · -- The limit is reached, so that the held keys stay as they are.
    obtain ⟨hmem, hfull⟩ := answer_run_rejected_iff.mp h
    have hstays := admissible_of_full hfull ((c :: later).map (·.key))
    rw [answer_run, List.map_append, hstays, if_neg hmem, if_pos hfull]

/-- A call that appends a sample at the given time. -/
def sampleCall (key : Text) (ms : Int) : Call where
  key := key
  change := fun s => { s with samples := s.samples ++ [⟨Binary64.ofInt 1, ms⟩] }

/-- Under a limit of one series, the first key keeps its series and the second never has one. -/
theorem first_keys_held_oneSeries :
    ((run 1 [sampleCall "a" 1]).answer "a").1 ≠ none ∧
    (run 1 [sampleCall "a" 1, sampleCall "a" 2, sampleCall "b" 3]).answer "a" =
      (some ⟨[], [⟨Binary64.ofInt 1, 1⟩, ⟨Binary64.ofInt 1, 2⟩], []⟩, false) ∧
    ((run 1 [sampleCall "a" 1]).answer "b").1 = none ∧
    (run 1 [sampleCall "a" 1, sampleCall "b" 2, sampleCall "a" 3]).answer "b" = (none, false) := by
  obtain ⟨-, -, hknown, hrejected, -⟩ := first_keys_held 1 [sampleCall "a" 1]
  have hfirst : ((run 1 [sampleCall "a" 1]).answer "a").1 ≠ none := by decide
  have hsecond : ((run 1 [sampleCall "a" 1]).answer "b").1 = none := by decide
  exact ⟨hfirst, hknown (sampleCall "a" 2) [sampleCall "b" 3] hfirst, hsecond,
    hrejected (sampleCall "b" 2) [sampleCall "a" 3] hsecond⟩

/-! ## The rows of a table -/

variable {layout : Layout} {kind : ColumnKind} {columns : List Value} {row : List Cell}
  {rows : List (List Cell)} {b : Accumulator}

/-- Adding a row is a call with its key. -/
theorem exists_call_of_addRow [Host] (h : addRow layout kind columns a row = .ok b) :
    ∃ c : Call, seriesKey row layout = .ok c.key ∧ a.call c = b := by
  obtain ⟨key, hkey, hadd⟩ := addRow_eq_ok_iff.mp h
  obtain ⟨hmem, sample, -, rfl⟩ | ⟨hmem, hfull, rfl⟩ | ⟨hmem, hroom, labels, sample, -, -, rfl⟩ :=
    hadd
  · refine ⟨⟨key, fun s => { s with samples := s.samples ++ [sample] }⟩, hkey, ?_⟩
    rw [call_eq, if_pos hmem]
  · refine ⟨⟨key, id⟩, hkey, ?_⟩
    rw [call_eq, if_neg hmem, if_pos hfull]
  · refine ⟨⟨key, fun s => { s with labels, samples := s.samples ++ [sample] }⟩, hkey, ?_⟩
    rw [call_eq, if_neg hmem, if_neg (by omega)]
    rfl

/-- Adding rows is making calls, one for each row. -/
theorem exists_calls_of_rows [Host] (h : rows.foldlM (addRow layout kind columns) a = .ok b) :
    ∃ calls : List Call, calls.foldl call a = b ∧
      List.Forall₂ (fun row c => seriesKey row layout = .ok c.key) rows calls := by
  induction rows generalizing a with
  | nil => exact ⟨[], Except.ok.inj h, .nil⟩
  | cons row rows ih =>
    rw [List.foldlM_cons, bind_eq_ok_iff] at h
    obtain ⟨a', hadd, hrest⟩ := h
    obtain ⟨c, hkey, rfl⟩ := exists_call_of_addRow hadd
    obtain ⟨calls, hcalls, hkeys⟩ := ih hrest
    exact ⟨c :: calls, hcalls, .cons hkey hkeys⟩

/-- The rows of a table are added in a run, with one call for each row. -/
theorem exists_run_of_rows [Host]
    (h : rows.foldlM (addRow layout kind columns) (empty limit) = .ok a) :
    ∃ calls : List Call, run limit calls = a ∧
      List.Forall₂ (fun row c => seriesKey row layout = .ok c.key) rows calls :=
  exists_calls_of_rows h

/-- The calls with other keys than the given ones are those of the rows in none of their series. -/
theorem countP_rows {keys : List Text}
    (h : List.Forall₂ (fun row c => seriesKey row layout = .ok c.key) rows calls) :
    calls.countP (·.key ∉ keys) = rows.countP fun row => !keys.any (inSeries layout · row) := by
  induction h with
  | nil => rfl
  | @cons row c rows calls hkey _ ih =>
    have hin : keys.any (inSeries layout · row) = decide (c.key ∈ keys) := by
      simp [inSeries, hkey, List.any_beq]
    rw [List.countP_cons, List.countP_cons, ih, hin, decide_not]

/-- What decoding counts as rejected are the rows in no series that it made. -/
theorem rejected_of_rows [Host]
    (h : rows.foldlM (addRow layout kind columns) (empty limit) = .ok a) :
    a.rejected = rows.countP fun row => !a.keys.any (inSeries layout · row) := by
  obtain ⟨calls, rfl, hkeys⟩ := exists_run_of_rows h
  rw [← countP_rows hkeys, rejected_run]

end RemoteRead.Accumulator
