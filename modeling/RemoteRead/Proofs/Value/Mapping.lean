import Mathlib.Data.List.Basic
import RemoteRead.Value.Basic

/-!
# Keys of mappings

A text or a sequence of octets is the same key only as itself (`Value.IsName`). Other keys may be
the same although they differ, such as the whole number one and the double. In a mapping that was
built key by key no two entries have the same key (`Value.KeysDistinct`), so that an entry with such
a name is the one that is found under it.
-/

namespace RemoteRead.Value

variable {key k v w : Value} {es : List (Value × Value)}

/-- A key that is the same only as itself: a text or octets. -/
inductive IsName : Value → Prop
  /-- A text is a name. -/
  | text (t : Text) : IsName (.text t)
  /-- Octets are a name. -/
  | octets (bs : List UInt8) : IsName (.octets bs)

/-- Only a name itself is the same key. -/
theorem same_name_iff (h : key.IsName) : k.same key = true ↔ k = key := by
  cases h <;> cases k <;> simp [same, number?]

/-- A name is the same key only as itself. -/
theorem name_same_iff (h : k.IsName) : k.same key = true ↔ k = key := by
  cases h <;> cases key <;> simp [same, number?]

/-- A value is found under a key that is there. -/
theorem exists_mem_of_lookup (h : lookup key es = some v) :
    ∃ k, (k, v) ∈ es ∧ k.same key = true := by
  induction es with
  | nil => cases h
  | cons e es ih =>
    rw [lookup] at h
    split_ifs at h with hsame
    · obtain rfl := Option.some.inj h
      exact ⟨e.1, List.mem_cons_self, hsame⟩
    · obtain ⟨k, hk, hkey⟩ := ih h
      exact ⟨k, List.mem_cons_of_mem _ hk, hkey⟩

/-- Under a name the value that was put last is found. -/
theorem lookup_put (h : key.IsName) (es : List (Value × Value)) (k v : Value) :
    lookup key (put es k v) = if k.same key then some v else lookup key es := by
  induction es with
  | nil => rfl
  | cons e es ih =>
    rw [put]
    by_cases hkey : k.same key = true
    · obtain rfl := (same_name_iff h).mp hkey
      rw [if_pos hkey] at ih ⊢
      split_ifs with hsame
      · rw [lookup, if_pos hsame]
      · rw [lookup, if_neg hsame, ih]
    · rw [if_neg hkey] at ih ⊢
      split_ifs with hsame
      · -- The entry has the same key as another one, so that its key is not the name.
        have hother : ¬ e.1.same key = true := fun he => by
          obtain heq : e.1 = key := (same_name_iff h).mp he
          rw [heq, name_same_iff h] at hsame
          exact hkey ((same_name_iff h).mpr hsame.symm)
        rw [lookup, lookup, if_neg hother, if_neg hother]
      · rw [lookup, lookup, ih]

/-! ## Distinct keys -/

/-- No two entries have the same key. -/
def KeysDistinct (es : List (Value × Value)) : Prop :=
  es.Pairwise fun e e' => e.1.same e'.1 = false

/-- After a put there are the entries from before, and the value under the key or one the same. -/
theorem mem_put_cases {e : Value × Value} (h : e ∈ put es k v) :
    e ∈ es ∨ (e.2 = v ∧ (e.1 = k ∨ ∃ e' ∈ es, e'.1 = e.1)) := by
  induction es with
  | nil =>
    obtain rfl := List.mem_singleton.mp h
    exact .inr ⟨rfl, .inl rfl⟩
  | cons e₀ es ih =>
    rw [put] at h
    split_ifs at h with hsame
    · rcases List.mem_cons.mp h with rfl | h
      · exact .inr ⟨rfl, .inr ⟨e₀, List.mem_cons_self, rfl⟩⟩
      · exact .inl (List.mem_cons_of_mem _ h)
    · rcases List.mem_cons.mp h with rfl | h
      · exact .inl List.mem_cons_self
      · rcases ih h with he | ⟨hvalue, hkey | ⟨e', he', hkey⟩⟩
        · exact .inl (List.mem_cons_of_mem _ he)
        · exact .inr ⟨hvalue, .inl hkey⟩
        · exact .inr ⟨hvalue, .inr ⟨e', List.mem_cons_of_mem _ he', hkey⟩⟩

/-- Keys stay distinct when a value is put. -/
theorem KeysDistinct.put (h : KeysDistinct es) (k v : Value) : KeysDistinct (put es k v) := by
  induction es with
  | nil => exact List.pairwise_singleton _ _
  | cons e es ih =>
    obtain ⟨hfirst, hrest⟩ := List.pairwise_cons.mp h
    rw [Value.put]
    split_ifs with hsame
    · exact List.pairwise_cons.mpr ⟨hfirst, hrest⟩
    · refine List.pairwise_cons.mpr ⟨fun e' he' => ?_, ih hrest⟩
      rcases mem_put_cases he' with he' | ⟨-, hkey | ⟨e'', he'', hkey⟩⟩
      · exact hfirst e' he'
      · rw [hkey]
        exact Bool.eq_false_iff.mpr hsame
      · rw [← hkey]
        exact hfirst e'' he''

/-- Where keys are distinct, the entry of a name is the one that is found under it. -/
theorem KeysDistinct.mem_iff_lookup (h : KeysDistinct es) (hkey : key.IsName) :
    (key, v) ∈ es ↔ lookup key es = some v := by
  induction es with
  | nil => simp [lookup]
  | cons e es ih =>
    obtain ⟨hfirst, hrest⟩ := List.pairwise_cons.mp h
    rw [List.mem_cons, ih hrest, lookup]
    split_ifs with hsame
    · obtain rfl : e.1 = key := (same_name_iff hkey).mp hsame
      constructor
      · rintro (heq | hfound)
        · rw [← heq]
        · obtain ⟨k, hk, hk'⟩ := exists_mem_of_lookup hfound
          obtain rfl : k = e.1 := (same_name_iff hkey).mp hk'
          rw [hfirst _ hk] at hsame
          cases hsame
      · intro heq
        rw [← Option.some.inj heq]
        exact .inl rfl
    · refine ⟨fun h => h.resolve_left ?_, .inr⟩
      rintro rfl
      exact hsame ((same_name_iff hkey).mpr rfl)

end RemoteRead.Value
