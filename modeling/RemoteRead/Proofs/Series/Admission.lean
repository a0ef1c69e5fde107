import RemoteRead.Proofs.Text.Distinct
import RemoteRead.Series.Accumulator

/-!
# Which keys are admitted

`admissible limit offered` is the list that a cap leaves of the keys offered so far: the first
`limit` distinct ones, in the order in which they first came. `admissible_concat` says what one more
key does to it, which is what `Accumulator.offer` does to the keys of an accumulator
(`keys_offer`).
-/

namespace RemoteRead.Accumulator

/-- The first `limit` distinct keys of those offered, in the order in which they first came. -/
def admissible (limit : Int) (offered : List Text) : List Text :=
  offered.eraseDups.take limit.toNat

/-- An admissible key was offered. -/
theorem mem_of_mem_admissible {limit : Int} {offered : List Text} {key : Text}
    (h : key ∈ admissible limit offered) : key ∈ offered :=
  List.mem_eraseDups.mp (List.mem_of_mem_take h)

/-- While fewer keys than the limit are admissible, every offered key is. -/
theorem mem_admissible_of_lt {limit : Int} {offered : List Text}
    (hlt : (admissible limit offered).length < limit) {key : Text} (h : key ∈ offered) :
    key ∈ admissible limit offered := by
  unfold admissible at hlt ⊢
  rw [List.length_take] at hlt
  rw [List.take_of_length_le (by omega)]
  exact List.mem_eraseDups.mpr h

/-- There is room for further keys while fewer distinct keys than the limit were offered. -/
theorem length_admissible_lt_iff {limit : Int} {offered : List Text} :
    ((admissible limit offered).length : Int) < limit ↔
      (offered.eraseDups.length : Int) < limit := by
  unfold admissible
  rw [List.length_take]
  omega

/-- Once the limit is reached, no further key is admissible. -/
theorem admissible_of_full {limit : Int} {offered : List Text}
    (hfull : limit ≤ (admissible limit offered).length) (more : List Text) :
    admissible limit (offered ++ more) = admissible limit offered := by
  unfold admissible at hfull ⊢
  rw [List.length_take] at hfull
  rw [List.eraseDups_append, List.take_append_of_le_length (by omega)]

/-- One more key is admissible if it is new and the limit is not reached. -/
theorem admissible_concat (limit : Int) (offered : List Text) (key : Text) :
    admissible limit (offered ++ [key]) =
      if key ∈ admissible limit offered then admissible limit offered
      else if limit ≤ (admissible limit offered).length then admissible limit offered
      else admissible limit offered ++ [key] := by
  split_ifs with hmem hfull
  · have hkey : key ∈ offered := mem_of_mem_admissible hmem
    rw [admissible, Text.eraseDups_concat, if_pos hkey]
    rfl
  · exact admissible_of_full hfull [key]
  · have hkey : key ∉ offered := fun h => hmem (mem_admissible_of_lt (by omega) h)
    unfold admissible at hfull ⊢
    rw [List.length_take] at hfull
    rw [Text.eraseDups_concat, if_neg hkey, List.take_of_length_le (by simp; omega),
      List.take_of_length_le (by omega)]

/-- No key is admissible twice. -/
theorem admissible_nodup (limit : Int) (offered : List Text) :
    (admissible limit offered).Nodup :=
  (Text.nodup_eraseDups offered).sublist (List.take_sublist ..)

/-- What is admissible stays so when more keys are offered. -/
theorem admissible_prefix (limit : Int) (offered more : List Text) :
    admissible limit offered <+: admissible limit (offered ++ more) := by
  unfold admissible
  rw [List.eraseDups_append, List.take_append]
  exact List.prefix_append _ _

/-! ## One offer -/

/-- What an offer can do: a known key is recognised, a key beyond the limit rejected and counted,
and any other admitted with an empty series. -/
theorem offer_cases (a : Accumulator) (key : Text) :
    (key ∈ a.keys ∧ a.offer key = (a, .known)) ∨
      (key ∉ a.keys ∧ a.limit ≤ a.admitted.length ∧
        a.offer key = ({ a with rejected := a.rejected + 1 }, .rejected)) ∨
      (key ∉ a.keys ∧ a.admitted.length < a.limit ∧
        a.offer key = ({ a with admitted := a.admitted ++ [(key, {})] }, .created)) := by
  unfold offer
  split_ifs with hmem hfull
  · exact .inl ⟨hmem, rfl⟩
  · exact .inr (.inl ⟨hmem, hfull, rfl⟩)
  · exact .inr (.inr ⟨hmem, by omega, rfl⟩)

/-- There are as many keys as admitted series. -/
@[simp]
theorem length_keys (a : Accumulator) : a.keys.length = a.admitted.length := List.length_map ..

/-- Changing a series keeps the keys. -/
@[simp]
theorem keys_update (a : Accumulator) (key : Text) (f : TimeSeries → TimeSeries) :
    (a.update key f).keys = a.keys := by
  simp only [keys, update, List.map_map]
  apply List.map_congr_left
  intro p _
  simp only [Function.comp_apply]
  split_ifs <;> rfl

/-- After a change each series is as it was, but for that of the key. -/
theorem mem_admitted_update {a : Accumulator} {key : Text} {f : TimeSeries → TimeSeries}
    {p : Text × TimeSeries} (h : p ∈ (a.update key f).admitted) :
    ∃ s, (p.1, s) ∈ a.admitted ∧ p.2 = if p.1 = key then f s else s := by
  obtain ⟨⟨k, s⟩, hq, rfl⟩ := List.mem_map.mp h
  refine ⟨s, ?_, ?_⟩ <;> grind

/-- Changing the series that was admitted last leaves the others as they are. -/
theorem update_concat {a : Accumulator} {key : Text} (h : key ∉ a.keys) (series : TimeSeries)
    (f : TimeSeries → TimeSeries) :
    update { a with admitted := a.admitted ++ [(key, series)] } key f =
      { a with admitted := a.admitted ++ [(key, f series)] } := by
  have hsame : (a.update key f).admitted = a.admitted := by
    conv_rhs => rw [← List.map_id a.admitted]
    refine List.map_congr_left fun p hp => ?_
    have hne : p.1 ≠ key := fun hk => h (hk ▸ List.mem_map_of_mem hp)
    simp only [if_neg hne, id]
  have hconcat : (update { a with admitted := a.admitted ++ [(key, series)] } key f).admitted =
      (a.update key f).admitted ++ [(key, f series)] := by
    simp [update]
  rw [hsame] at hconcat
  exact congrArg (fun admitted => { a with admitted }) hconcat

/-- An offer keeps the keys those that are admissible among all offered. -/
theorem keys_offer (a : Accumulator) (offered : List Text) (key : Text)
    (h : a.keys = admissible a.limit offered) :
    (a.offer key).1.keys = admissible a.limit (offered ++ [key]) := by
  rw [admissible_concat, ← h, length_keys]
  obtain ⟨hmem, hoffer⟩ | ⟨hmem, hfull, hoffer⟩ | ⟨hmem, hroom, hoffer⟩ := a.offer_cases key
  · rw [hoffer, if_pos hmem]
  · rw [hoffer, if_neg hmem, if_pos hfull]
    rfl
  · rw [hoffer, if_neg hmem, if_neg (by omega)]
    simp [keys]

end RemoteRead.Accumulator
