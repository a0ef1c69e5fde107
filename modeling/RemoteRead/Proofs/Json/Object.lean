import Mathlib.Data.List.Induction
import RemoteRead.Proofs.Json.Complete
import RemoteRead.Proofs.Text.Distinct
import RemoteRead.Proofs.Value.Mapping

/-!
# Objects

A text is the document of a mapping exactly if it is an object of members that make this mapping
(`isDocument_mapping_iff`). Of the members with one key an object keeps the place of the first and
the value of the last (`objectOf_eq_keptMembers`), so members with distinct keys are all kept
(`keptMembers_of_nodup`).
-/

namespace RemoteRead.Json

variable {depth : Nat} {t rest : Text} {ms : List (Text × Value)} {entries : List (Value × Value)}

/-- An object with the given members stands at the front, and takes one of `depth` levels. -/
inductive ObjectAt : Nat → Text → List (Text × Value) → Text → Prop where
  /-- An object without members. -/
  | empty {depth : Nat} {w rest : Text} (hw : IsBlank w) :
    ObjectAt (depth + 1) (openBrace :: (w ++ closeBrace :: rest)) [] rest
  /-- An object of members. -/
  | members {depth : Nat} {w t rest : Text} {ms : List (Text × Value)} (hw : IsBlank w)
    (h : MembersAt depth t ms rest) : ObjectAt (depth + 1) (openBrace :: (w ++ t)) ms rest

/-- An object is a value, the mapping that its members make. -/
theorem ObjectAt.valueAt (h : ObjectAt depth t ms rest) : ValueAt depth t (objectOf ms) rest := by
  cases h with
  | empty hw => exact .emptyObject hw
  | members hw h => exact .object hw h

/-- A mapping is spelled as an object. -/
theorem ValueAt.exists_objectAt (h : ValueAt depth t (.mapping entries) rest) :
    ∃ ms, ObjectAt depth t ms rest ∧ objectOf ms = .mapping entries := by
  generalize hv : Value.mapping entries = v at h
  cases h with
  | word h =>
    rw [← hv] at h
    simp [words] at h
  | emptyObject hw => exact ⟨[], .empty hw, rfl⟩
  | object hw h => exact ⟨_, .members hw h, rfl⟩
  | string | whole | decimal | emptyList | list => cases hv

/-- A text is the document of an object with the given members, which opens at most `depth` levels.
-/
def IsObject (depth : Nat) (t : Text) (ms : List (Text × Value)) : Prop :=
  ∃ w u w', t = w ++ u ∧ IsBlank w ∧ ObjectAt depth u ms w' ∧ IsBlank w'

/-- The documents of mappings are those of objects. -/
theorem isDocument_mapping_iff : IsDocument depth t (.mapping entries) ↔
    ∃ ms, IsObject depth t ms ∧ objectOf ms = .mapping entries := by
  constructor
  · rintro ⟨w, u, w', ht, hw, hu, hw'⟩
    obtain ⟨ms, hobject, hms⟩ := hu.exists_objectAt
    exact ⟨ms, ⟨w, u, w', ht, hw, hobject, hw'⟩, hms⟩
  · rintro ⟨ms, ⟨w, u, w', ht, hw, hobject, hw'⟩, hms⟩
    exact ⟨w, u, w', ht, hw, hms ▸ hobject.valueAt, hw'⟩

/-- The entries that members make, if all of them are kept. -/
def memberEntries (ms : List (Text × Value)) : List (Value × Value) :=
  ms.map fun (key, v) => (.text key, v)

/-- The last member makes the last entry. -/
theorem memberEntries_concat (ms : List (Text × Value)) (key : Text) (v : Value) :
    memberEntries (ms ++ [(key, v)]) = memberEntries ms ++ [(.text key, v)] := List.map_append

/-- Entries tell which members made them. -/
theorem memberEntries_injective : Function.Injective memberEntries := by
  refine List.map_injective_iff.mpr ?_
  rintro ⟨key, v⟩ ⟨key', v'⟩ heq
  simpa using heq

/-! ## Repeated keys -/

/-- An object that was read has distinct keys. -/
theorem keysDistinct_of_read [Host] {use : DocumentUse} (h : read t use = .ok (.mapping entries)) :
    Value.KeysDistinct entries := by
  have hput (done : List (Value × Value)) (ms : List (Text × Value))
      (hdone : Value.KeysDistinct done) : Value.KeysDistinct (putAll done ms) := by
    induction ms generalizing done with
    | nil => exact hdone
    | cons m ms ih => exact ih _ (hdone.put _ _)
  obtain ⟨ms, -, hms⟩ := isDocument_mapping_iff.mp (read_eq_ok_iff.mp h)
  rw [objectOf_eq] at hms
  exact Value.mapping.inj hms ▸ hput [] ms .nil

/-- The last value under a key among members that have it. -/
def lastValue (ms : List (Text × Value)) (key : Text) : Value :=
  (ms.reverse.lookup key).getD .null

/-- The members that an object keeps: of those with the same key the place of the first and the
value of the last. -/
def keptMembers (ms : List (Text × Value)) : List (Text × Value) :=
  (ms.map Prod.fst).eraseDups.map fun key => (key, lastValue ms key)

/-- A member that comes last gives its key its value. -/
theorem lastValue_concat (ms : List (Text × Value)) (key : Text) (v : Value) (k : Text) :
    lastValue (ms ++ [(key, v)]) k = if k = key then v else lastValue ms k := by
  rw [lastValue, List.reverse_append, List.reverse_singleton, List.singleton_append]
  split_ifs with hk
  · rw [hk, List.lookup_cons_self, Option.getD_some]
  · have hne : (k == key) = false := by simpa using hk
    rw [List.lookup_cons, hne, lastValue]

/-- A key that is not there yet is put at the end. -/
theorem put_of_notMem {keys : List Text} {key : Text} (h : key ∉ keys) (f : Text → Value)
    (v : Value) :
    Value.put (keys.map fun k => (.text k, f k)) (.text key) v =
      (keys.map fun k => (.text k, f k)) ++ [(.text key, v)] := by
  induction keys with
  | nil => rfl
  | cons k keys ih =>
    obtain ⟨hne, hrest⟩ := not_or.mp (mt List.mem_cons.mpr h)
    have hsame : (Value.text k).same (.text key) = false := by simp [Value.same, Ne.symm hne]
    rw [List.map_cons, Value.put, hsame, if_neg Bool.false_ne_true, ih hrest, List.cons_append]

/-- The value of a key that is there is replaced. -/
theorem put_of_mem {keys : List Text} {key : Text} (h : key ∈ keys) (hkeys : keys.Nodup)
    (f : Text → Value) (v : Value) :
    Value.put (keys.map fun k => (.text k, f k)) (.text key) v =
      keys.map fun k => (.text k, if k = key then v else f k) := by
  induction keys with
  | nil => simp at h
  | cons k keys ih =>
    obtain ⟨hk, hkeys⟩ := List.nodup_cons.mp hkeys
    rw [List.map_cons, List.map_cons, Value.put]
    by_cases heq : k = key
    · subst heq
      have hsame : (Value.text k).same (.text k) = true := by simp [Value.same]
      -- No other key is this one.
      have hother : keys.map (fun k' => (Value.text k', if k' = k then v else f k')) =
          keys.map fun k' => (Value.text k', f k') :=
        List.map_congr_left fun k' hk' => by rw [if_neg (by rintro rfl; exact hk hk')]
      rw [hsame, if_pos rfl, if_pos rfl, hother]
    · have hsame : (Value.text k).same (.text key) = false := by simp [Value.same, heq]
      have hmem : key ∈ keys := (List.mem_cons.mp h).resolve_left (Ne.symm heq)
      rw [hsame, if_neg Bool.false_ne_true, ih hmem hkeys, if_neg heq]

/-- A member with a new key is kept behind the others. -/
theorem keptMembers_concat {key : Text} (h : key ∉ ms.map Prod.fst) (v : Value) :
    keptMembers (ms ++ [(key, v)]) = keptMembers ms ++ [(key, v)] := by
  rw [keptMembers, List.map_append, List.map_singleton, Text.eraseDups_concat, if_neg h,
    List.map_append,
    List.map_singleton, lastValue_concat, if_pos rfl, keptMembers]
  congr 1
  refine List.map_congr_left fun k hk => ?_
  rw [lastValue_concat, if_neg (by rintro rfl; exact h (List.mem_eraseDups.mp hk))]

/-- Members with distinct keys are all kept. -/
theorem keptMembers_of_nodup (h : (ms.map Prod.fst).Nodup) : keptMembers ms = ms := by
  induction ms using List.reverseRecOn with
  | nil => rfl
  | append_singleton ms m ih =>
    rw [List.map_append, List.map_singleton, List.nodup_append] at h
    obtain ⟨hkeys, -, hnew⟩ := h
    have hfresh : m.1 ∉ ms.map Prod.fst := fun hmem => hnew _ hmem _ (List.mem_singleton_self _) rfl
    rw [keptMembers_concat hfresh, ih hkeys]

/-- An object is made of the members that it keeps. -/
theorem objectOf_eq_keptMembers (ms : List (Text × Value)) :
    objectOf ms = .mapping (memberEntries (keptMembers ms)) := by
  rw [objectOf_eq]
  congr 1
  -- The last member is put last: it takes the place of its name, or a new one at the end.
  induction ms using List.reverseRecOn with
  | nil => rfl
  | append_singleton ms m ih =>
    obtain ⟨key, v⟩ := m
    have hput : putAll [] (ms ++ [(key, v)]) = Value.put (putAll [] ms) (.text key) v := by
      rw [putAll, List.foldl_append]
      rfl
    have hkept : memberEntries (keptMembers ms) =
        (ms.map Prod.fst).eraseDups.map fun key => (.text key, lastValue ms key) := by
      rw [memberEntries, keptMembers, List.map_map]
      rfl
    rw [hput, ih]
    by_cases hmem : key ∈ ms.map Prod.fst
    · rw [hkept, put_of_mem (List.mem_eraseDups.mpr hmem) (Text.nodup_eraseDups _), memberEntries,
        keptMembers, List.map_append, List.map_singleton, Text.eraseDups_concat, if_pos hmem,
        List.map_map]
      simp only [Function.comp_def, lastValue_concat]
    · rw [keptMembers_concat hmem, memberEntries_concat, hkept,
        put_of_notMem (mt List.mem_eraseDups.mp hmem)]

end RemoteRead.Json
