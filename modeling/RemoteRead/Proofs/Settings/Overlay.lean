import Mathlib.Data.List.Induction
import RemoteRead.Proofs.Value.Mapping
import RemoteRead.Settings.Basic

/-!
# Sources laid over each other

Sources are merged from the strongest on. The strongest source that gives a setting decides: its
value is that of the setting unless it is a mapping (`merged_eq_strongest`). If it is one, the
mappings of all sources are merged key by key, and each key has the value of the strongest source
whose mapping has it, unless this is a mapping again (`exists_merged_mapping`).
-/

namespace RemoteRead

/-- The value under a key, if the value is a mapping that has it. -/
def Value.under? (key : Value) : Value → Option Value
  | mapping es => lookup key es
  | _ => none

namespace Settings.Source

variable {weak strong es : List (Value × Value)} {key v : Value} {sources : List Source}
  {name : Text}

/-! ## Two values -/

/-- A value other than a mapping replaces what it is laid over. -/
theorem overValue_of_not_mapping (hv : ∀ es, v ≠ .mapping es) (under : Value) :
    overValue under v = v := by
  cases v with
  | mapping es => exact absurd rfl (hv es)
  | _ => cases under <;> rfl

/-- A mapping replaces a value other than a mapping. -/
theorem overValue_mapping_of_not_mapping (hv : ∀ es, v ≠ .mapping es)
    (strong : List (Value × Value)) : overValue v (.mapping strong) = .mapping strong := by
  cases v with
  | mapping es => exact absurd rfl (hv es)
  | _ => rfl

/-- A mapping laid over a value makes a mapping. -/
theorem exists_overValue_mapping (under : Value) (strong : List (Value × Value)) :
    ∃ es, overValue under (.mapping strong) = .mapping es := by
  cases under with
  | mapping weak => exact ⟨overEntries weak strong, by rw [overValue]⟩
  | _ => exact ⟨strong, rfl⟩

/-- Under a name there is the stronger value laid over the weaker one, or the only one. -/
theorem lookup_overEntries (hkey : key.IsName) (hstrong : Value.KeysDistinct strong)
    (weak : List (Value × Value)) : Value.lookup key (overEntries weak strong) =
      match Value.lookup key strong with
      | none => Value.lookup key weak
      | some v => some (overValue ((Value.lookup key weak).getD .null) v) := by
  induction strong generalizing weak with
  | nil => rw [overEntries, Value.lookup]
  | cons e strong ih =>
    obtain ⟨hfirst, hrest⟩ := List.pairwise_cons.mp hstrong
    rw [overEntries, ih hrest, Value.lookup_put hkey, Value.lookup]
    by_cases hsame : e.1.same key = true
    · obtain rfl := (Value.same_name_iff hkey).mp hsame
      -- No other entry has this key.
      have hnone : Value.lookup e.1 strong = none := by
        refine Option.eq_none_iff_forall_ne_some.mpr fun v hv => ?_
        obtain ⟨k, hk, hk'⟩ := Value.exists_mem_of_lookup hv
        obtain rfl := (Value.same_name_iff hkey).mp hk'
        rw [hfirst _ hk] at hsame
        cases hsame
      rw [hnone, if_pos hsame, if_pos hsame]
    · rw [if_neg hsame, if_neg hsame]

/-- Entries laid over others leave their keys distinct. -/
theorem keysDistinct_overEntries (hweak : Value.KeysDistinct weak)
    (strong : List (Value × Value)) : Value.KeysDistinct (overEntries weak strong) := by
  induction strong generalizing weak with
  | nil => rwa [overEntries]
  | cons e strong ih =>
    rw [overEntries]
    exact ih (hweak.put _ _)

/-! ## All sources -/

/-- Each setting has the value that the strongest source to give it gives. -/
def strongest (sources : List Source) : Source := fun name => sources.findSome? (· name)

/-- The value under a key in the strongest source that gives the setting a mapping with it. -/
def strongestUnder (sources : List Source) (name : Text) (key : Value) : Option Value :=
  sources.findSome? fun source => (source name).bind (Value.under? key)

/-- One more source at the weak end lies under the merged ones. -/
theorem merged_concat (sources : List Source) (weak : Source) :
    merged (sources ++ [weak]) = weak.overlaid (merged sources) := by
  simp [merged]

/-- A source at the weak end gives a setting where no stronger one does. -/
theorem strongest_concat (sources : List Source) (weak : Source) (name : Text) :
    strongest (sources ++ [weak]) name = (strongest sources name).or (weak name) := by
  simp [strongest]

/-- A source at the weak end gives an entry of a mapping where no stronger one has it. -/
theorem strongestUnder_concat (sources : List Source) (weak : Source) (name : Text) (key : Value) :
    strongestUnder (sources ++ [weak]) name key =
      (strongestUnder sources name key).or ((weak name).bind (Value.under? key)) := by
  simp [strongestUnder]

/-- A setting that no source gives has no value under any key. -/
theorem strongestUnder_eq_none (h : strongest sources name = none) (key : Value) :
    strongestUnder sources name key = none := by
  rw [strongest, List.findSome?_eq_none_iff] at h
  exact List.findSome?_eq_none_iff.mpr fun source hsource => by rw [h source hsource]; rfl

/-- A setting has the value of the strongest source that gives it, unless this is a mapping. -/
theorem merged_eq_strongest (h : ∀ es, strongest sources name ≠ some (.mapping es)) :
    merged sources name = strongest sources name := by
  -- The weakest source is merged last, so that the induction takes it off first.
  induction sources using List.reverseRecOn with
  | nil => rfl
  | append_singleton sources weak ih =>
    rw [strongest_concat] at h
    rw [merged_concat, strongest_concat, overlaid]
    cases hstrong : strongest sources name with
    | none =>
      rw [ih (by simp [hstrong]), hstrong]
      cases weak name <;> rfl
    | some v =>
      -- The value of a stronger source is no mapping either, and replaces that of the weakest.
      have hv (es : List (Value × Value)) : v ≠ .mapping es := fun heq =>
        h es (by rw [hstrong, heq]; rfl)
      rw [ih (by simpa [hstrong] using hv), hstrong]
      cases weak name with
      | none => rfl
      | some under => exact congrArg some (overValue_of_not_mapping hv under)

/-- A mapping with distinct keys in which the value under each name is that of the strongest source
with a mapping that has it, or a mapping again. -/
structure IsMerged (sources : List Source) (name : Text) (es : List (Value × Value)) : Prop where
  /-- No two keys are the same. -/
  distinct : Value.KeysDistinct es
  /-- Each name has the value of the strongest source, unless this is a mapping. -/
  lookup : ∀ key : Value, key.IsName → Value.lookup key es = strongestUnder sources name key ∨
    ∃ inner, Value.lookup key es = some (.mapping inner)

/-- Laying a merged mapping over that of a weaker source makes a merged mapping. -/
theorem IsMerged.over (h : IsMerged sources name strong) {source : Source}
    (hsource : source name = some (.mapping weak)) (hweak : Value.KeysDistinct weak) :
    IsMerged (sources ++ [source]) name (overEntries weak strong) := by
  refine ⟨keysDistinct_overEntries hweak strong, fun key hkey => ?_⟩
  rw [lookup_overEntries hkey h.distinct, strongestUnder_concat, hsource]
  rcases h.lookup key hkey with heq | ⟨inner, hinner⟩
  · rw [← heq]
    -- A stronger value that is no mapping stays; one that is a mapping stays a mapping.
    cases Value.lookup key strong with
    | none => exact .inl rfl
    | some v =>
      by_cases hv : ∃ inner, v = .mapping inner
      · obtain ⟨inner, rfl⟩ := hv
        exact .inr ((exists_overValue_mapping _ inner).imp fun es h => congrArg some h)
      · exact .inl (congrArg some (overValue_of_not_mapping (not_exists.mp hv) _))
  · rw [hinner]
    exact .inr ((exists_overValue_mapping _ inner).imp fun es h => congrArg some h)

/-- The mappings that sources give a setting have distinct keys. -/
def Distinct (sources : List Source) (name : Text) : Prop :=
  ∀ source ∈ sources, ∀ es, source name = some (.mapping es) → Value.KeysDistinct es

/-- Where the strongest source gives a mapping, the mappings of all sources are merged. -/
theorem exists_merged_mapping (h : strongest sources name = some (.mapping es)) :
    ∃ es', merged sources name = some (.mapping es') ∧
      (Distinct sources name → IsMerged sources name es') := by
  induction sources using List.reverseRecOn with
  | nil => cases h
  | append_singleton sources weak ih =>
    have hweak (hdistinct : Distinct (sources ++ [weak]) name) :=
      hdistinct weak (List.mem_append_right _ List.mem_cons_self)
    have hothers (hdistinct : Distinct (sources ++ [weak]) name) : Distinct sources name :=
      fun source hsource => hdistinct source (List.mem_append_left _ hsource)
    rw [merged_concat, overlaid]
    rw [strongest_concat] at h
    cases hstrong : strongest sources name with
    | none =>
      -- Only the weakest source gives the setting.
      rw [hstrong, Option.none_or] at h
      rw [merged_eq_strongest (by simp [hstrong]), hstrong, h]
      refine ⟨es, rfl, fun hdistinct => ⟨hweak hdistinct es h, fun key _ => .inl ?_⟩⟩
      rw [strongestUnder_concat, strongestUnder_eq_none hstrong, h]
      rfl
    | some v =>
      obtain rfl : v = .mapping es := by simpa [hstrong] using h
      obtain ⟨es', hes', hmerged⟩ := ih hstrong
      rw [hes']
      by_cases hmapping : ∃ under, weak name = some (.mapping under)
      · obtain ⟨under, hunder⟩ := hmapping
        rw [hunder]
        exact ⟨overEntries under es', congrArg some (by rw [overValue]), fun hdistinct =>
          (hmerged (hothers hdistinct)).over hunder (hweak hdistinct under hunder)⟩
      · -- The weakest source contributes nothing.
        have hnothing (key : Value) : (weak name).bind (Value.under? key) = none := by
          cases hunder : weak name with
          | none => rfl
          | some under =>
            cases under with
            | mapping entries => exact absurd ⟨entries, hunder⟩ hmapping
            | _ => rfl
        refine ⟨es', ?_, fun hdistinct =>
          ⟨(hmerged (hothers hdistinct)).distinct, fun key hkey => ?_⟩⟩
        · cases hunder : weak name with
          | none => rfl
          | some under =>
            refine congrArg some (overValue_mapping_of_not_mapping (fun entries heq => ?_) es')
            exact hmapping ⟨entries, heq ▸ hunder⟩
        · rw [strongestUnder_concat, hnothing, Option.or_none]
          exact (hmerged (hothers hdistinct)).lookup key hkey

end Settings.Source

end RemoteRead
