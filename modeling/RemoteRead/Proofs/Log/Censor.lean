import RemoteRead.Proofs.Log.Address
import RemoteRead.Proofs.Outcome

/-!
# Censored events

`Redacts` says what censoring makes of a text without saying how it is found: from the left on, the
credentials of each address are replaced, and all that stands between addresses is kept.
Censoring an event twice is censoring it once, and what it does to one field depends on that field
alone (`censor_once_and_in_place`).

A censored text is censored again to itself because what stands for credentials is credentials, and
because no address starts in a censored text where none did before
(`startsAddress_of_censorText`).
-/

namespace RemoteRead.Log

/-- The second text is the first one with the credentials of its addresses replaced. The addresses
are those that start leftmost: none starts in the gap in front of the next one. -/
inductive Redacts : Text → Text → Prop
  | kept {t : Text} (h : ¬ HasAddress t) : Redacts t t
  | replaced {gap s u rest rest' : Text} (hs : IsScheme s) (hu : IsCredentials u)
      (hgap : ∀ g, g <:+ gap → g ≠ [] → ¬ StartsAddress (g ++ address s u rest))
      (hrest : Redacts rest rest') :
      Redacts (gap ++ address s u rest) (gap ++ address s redacted rest')

variable {c : CodePoint} {g r s t u : Text}

/-! ## Texts -/

/-- No address is in an empty text. -/
theorem not_hasAddress_nil : ¬ HasAddress [] := by
  rintro ⟨t, ht, s, u, rest, -, -, htext⟩
  rw [List.suffix_nil.mp ht] at htext
  simp [address] at htext

/-- An address of a text starts at its front or is one of the rest. -/
theorem hasAddress_cons_iff : HasAddress (c :: r) ↔ StartsAddress (c :: r) ∨ HasAddress r := by
  unfold HasAddress
  simp only [List.suffix_cons_iff, or_and_right, exists_or, exists_eq_left]

/-- A kept code point in front joins the gap. -/
theorem Redacts.cons (hc : ¬ StartsAddress (c :: r)) (h : Redacts r t) :
    Redacts (c :: r) (c :: t) := by
  cases h with
  | kept h => exact .kept fun hhas => (hasAddress_cons_iff.mp hhas).elim hc h
  | @replaced gap s u rest rest' hs hu hgap hrest =>
    refine @Redacts.replaced (c :: gap) s u rest rest' hs hu (fun g hg hne => ?_) hrest
    rcases List.suffix_cons_iff.mp hg with rfl | hg
    · exact hc
    · exact hgap g hg hne

/-- Censoring replaces the credentials of the addresses. -/
theorem redacts_censorText (t : Text) : Redacts t (censorText t) := by
  induction t using address_induction with
  | nil => exact .kept not_hasAddress_nil
  | cons c r hc ih =>
    rw [censorText_cons hc]
    exact ih.cons hc
  | address s u rest hs hu ih =>
    rw [censorText_address hs hu]
    refine @Redacts.replaced [] s u rest _ hs hu (fun g hg hne => ?_) ih
    exact absurd (List.suffix_nil.mp hg) hne

/-- A text without addresses is kept. -/
theorem Redacts.eq_of_not_hasAddress (h : Redacts t s) (ht : ¬ HasAddress t) : s = t := by
  cases h with
  | kept => rfl
  | @replaced gap s u rest rest' hs hu =>
    exact absurd ⟨_, List.suffix_append gap _, s, u, rest, hs, hu, rfl⟩ ht

/-- No address starts in front of a censored text that did not start there before. -/
theorem startsAddress_of_censorText (h : StartsAddress (g ++ censorText r)) :
    StartsAddress (g ++ r) := by
  induction r using address_induction generalizing g with
  | nil => exact h
  | cons c r hc ih =>
    rw [censorText_cons hc, List.append_cons] at h
    rw [List.append_cons]
    exact ih h
  | address s u rest hs hu ih =>
    rw [censorText_address hs hu, address, ← List.append_assoc, startsAddress_append_iff] at h
    rw [address, ← List.append_assoc, startsAddress_append_iff]
    exact h.imp_left fun hown => ⟨hown.1, u, rest, hu, rfl⟩

/-- A censored text is left as it is. -/
theorem censorText_censorText (t : Text) : censorText (censorText t) = censorText t := by
  induction t using address_induction with
  | nil => rfl
  | cons c r hc ih =>
    have hstill : ¬ StartsAddress (c :: censorText r) := fun h =>
      hc (startsAddress_of_censorText (g := [c]) h)
    rw [censorText_cons hc, censorText_cons hstill, ih]
  | address s u rest hs hu ih =>
    rw [censorText_address hs hu, censorText_address hs isCredentials_redacted, ih]

/-! ## Events -/

/-- The entries of an event whose fields have the given names. -/
def entries (fields : List (Text × Value)) : List (Value × Value) :=
  fields.map fun (k, v) => (.text k, v)

/-- What is logged for a field: its name is kept, what is secret is replaced, a text has its
credentials replaced, and anything else is kept. -/
structure Logged (field : Text × Value) (entry : Value × Value) : Prop where
  key : entry.1 = .text field.1
  secret : isSecretKey field.1 = true → entry.2 = .text redacted
  text : isSecretKey field.1 = false → ∀ t, field.2 = .text t →
    ∃ s, entry.2 = .text s ∧ Redacts t s
  kept : isSecretKey field.1 = false → (∀ t, field.2 = .text t → ¬ HasAddress t) →
    entry.2 = field.2

/-- Fields with names are censored one by one. -/
theorem censor_entries (fields : List (Text × Value)) :
    censor (entries fields) = .ok (entries (fields.map fun (k, v) => (k, censorValue k v))) := by
  rw [censor, entries, Outcome.mapM_eq_ok_iff, entries, List.map_map, List.forall₂_map_left_iff,
    List.forall₂_map_right_iff, List.forall₂_same]
  exact fun _ _ => rfl

/-- A value is logged as its field asks. -/
theorem logged_censorValue (k : Text) (v : Value) : Logged (k, v) (.text k, censorValue k v) where
  key := rfl
  secret h := if_pos h
  text h t ht := by
    obtain rfl := ht
    exact ⟨censorText t, if_neg (by simp [h]), redacts_censorText t⟩
  kept h hkept := by
    cases v with
    | text t =>
      have hsame : censorText t = t := (redacts_censorText t).eq_of_not_hasAddress (hkept t rfl)
      have hlogged : censorValue k (.text t) = .text (censorText t) := if_neg (by simp [h])
      rw [hlogged, hsame]
    | _ => exact if_neg (by simp [h])

/-- A censored value is left as it is. -/
theorem censorValue_censorValue (k : Text) (v : Value) :
    censorValue k (censorValue k v) = censorValue k v := by
  unfold censorValue
  split_ifs
  · rfl
  · cases v with
    | text t => exact congrArg Value.text (censorText_censorText t)
    | _ => rfl

/-- Every event is censored, and again to itself. Its fields keep their names and their order; under
a name that holds no secret word, a text has the credentials of its addresses replaced and is kept
around them, and any other value is kept. -/
theorem censor_once_and_in_place (fields : List (Text × Value)) :
    ∃ logged, censor (entries fields) = .ok logged ∧ censor logged = .ok logged ∧
      List.Forall₂ Logged fields logged := by
  refine ⟨_, censor_entries fields, ?_, ?_⟩
  · rw [censor_entries, List.map_map]
    simp only [Function.comp_def, censorValue_censorValue]
  · rw [entries, List.map_map, List.forall₂_map_right_iff, List.forall₂_same]
    exact fun field _ => logged_censorValue field.1 field.2

end RemoteRead.Log
