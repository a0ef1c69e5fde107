import RemoteRead.Proofs.Json.Object
import RemoteRead.Proofs.Series.TagMap

/-!
# The labels of any blob

A tag blob is any text. If it is the document of an object whose values are texts, its labels are
the members of that object, where a repeated key has its first place and its last value
(`Tag.IsFlatObject`); any other text has no labels, be it malformed, an array, or an object with a
number in it. This holds of every blob but those that `Tag.Breaks` tells of: a whole number of more
than 4300 digits and nesting of more levels than the host has left are faults wherever they stand,
and so is a flat object with a text that has no encoded form. Such a blob never has labels, and the
fault says which limit or which text it is (`Tag.labels_of_blob_unless_breaks`).
-/

namespace RemoteRead

open Outcome

/-! ## Flat objects -/

namespace Tag

variable {blob : Text} {tags : List (Text × Text)} {v : Value}

/-- A blob is the document of an object whose values are texts: it keeps the given tags. -/
def IsFlatObject [Host] (blob : Text) (tags : List (Text × Text)) : Prop :=
  ∃ ms, Json.IsObject (Host.depth .tags) blob ms ∧
    Json.keptMembers ms = tags.map fun (key, value) => (key, .text value)

/-- The flat values are the mappings from texts to texts. -/
theorem flatPairs?_eq_some_iff : flatPairs? v = some tags ↔ v = Value.ofPairs tags := by
  refine ⟨fun h => ?_, by rintro rfl; exact flatPairs?_ofPairs tags⟩
  cases v with
  | mapping entries =>
    rw [Value.ofPairs, Value.mapping.injEq]
    rw [flatPairs?] at h
    induction entries generalizing tags with
    | nil =>
      obtain rfl : [] = tags := by simpa using h
      rfl
    | cons entry entries ih =>
      rw [List.mapM_cons, Option.bind_eq_bind, Option.bind_eq_some_iff] at h
      obtain ⟨tag, htag, h⟩ := h
      obtain ⟨tags, htags, h⟩ := Option.bind_eq_some_iff.mp h
      obtain rfl : tag :: tags = _ := Option.some.inj h
      -- Both the key and the value of the entry are texts.
      obtain rfl : entry = (.text tag.1, .text tag.2) := by
        dsimp only at htag
        split at htag
        · rename_i key value hkey hvalue
          obtain rfl := Option.some.inj htag
          exact Prod.ext hkey hvalue
        · cases htag
      rw [ih htags, Value.textEntries, Value.textEntries, List.map_cons]
  | _ => cases h

/-- A flat object is read as the mapping of its tags. -/
theorem isFlatObject_iff [Host] :
    IsFlatObject blob tags ↔ Json.read blob .tags = .ok (Value.ofPairs tags) := by
  rw [Json.read_eq_ok_iff, Value.ofPairs, Json.isDocument_mapping_iff]
  refine exists_congr fun ms => and_congr_right fun _ => ?_
  rw [Json.objectOf_eq_keptMembers, Value.mapping.injEq, ← Json.memberEntries_textMembers,
    Json.memberEntries_injective.eq_iff]
  rfl

/-! ## What breaks -/

/-- The first text of the tags without an encoded form. -/
def unstorable? (tags : List (Text × Text)) : Option Text :=
  (tags.flatMap fun (key, value) => [key, value]).find? fun t => !t.all CodePoint.isScalar

/-- A blob that has no labels but a fault. -/
inductive Breaks [Host] (blob : Text) : Fault → Prop where
  /-- A whole number is too long. -/
  | long {digits : Nat} (h : Json.ExceedsLimit (Host.depth .tags) blob (.tooLong digits)) :
    Breaks blob (.badValue ((Json.ReadError.tooLong digits).message blob))
  /-- Arrays or objects are nested more deeply than the host can read. -/
  | deep {object : Bool} (h : Json.ExceedsLimit (Host.depth .tags) blob (.tooDeep object)) :
    Breaks blob (.tooDeep ((Json.ReadError.tooDeep object).message blob))
  /-- A text of a flat object has no encoded form. -/
  | unstorable {tags : List (Text × Text)} {t : Text} (h : IsFlatObject blob tags)
    (ht : unstorable? tags = some t) : Breaks blob (.unencodable (Text.Utf8.encodeMessage t))

/-- The labels of tags, or the fault of the first text without an encoded form. -/
theorem mapM_checked (tags : List (Text × Text)) :
    tags.mapM (fun (name, value) => Label.checked name value) = match unstorable? tags with
      | none => .ok (tagMapLabels tags)
      | some t => .error (.unencodable (Text.Utf8.encodeMessage t)) := by
  induction tags with
  | nil => rfl
  | cons tag tags ih =>
    obtain ⟨name, value⟩ := tag
    -- The first text without an encoded form is the name, the value, or further on.
    have hfirst : unstorable? ((name, value) :: tags) =
        if name.all CodePoint.isScalar then
          if value.all CodePoint.isScalar then unstorable? tags else some value
        else some name := by
      simp only [unstorable?, List.flatMap_cons, List.cons_append, List.nil_append, List.find?_cons]
      cases name.all CodePoint.isScalar <;> cases value.all CodePoint.isScalar <;> rfl
    rw [List.mapM_cons, ih, hfirst]
    simp only [Label.checked, checkedText]
    split_ifs with hname hvalue
    · cases unstorable? tags <;> rfl
    · rfl
    · rfl
    · rfl

/-- The labels of a blob by what it is read as. -/
theorem blobLabels_of_read_ok [Host] (h : Json.read blob .tags = .ok v) :
    blobLabels blob = match flatPairs? v with
    | none => .ok []
    | some tags => match unstorable? tags with
      | none => .ok (tagMapLabels tags)
      | some t => .error (.unencodable (Text.Utf8.encodeMessage t)) := by
  unfold blobLabels
  rw [h]
  dsimp only
  cases flatPairs? v with
  | none => rfl
  | some tags => exact mapM_checked tags

/-- The labels of a flat object are its tags, if their texts have encoded forms. -/
theorem IsFlatObject.blobLabels_eq [Host] (h : IsFlatObject blob tags) : blobLabels blob =
    match unstorable? tags with
    | none => .ok (tagMapLabels tags)
    | some t => .error (.unencodable (Text.Utf8.encodeMessage t)) := by
  rw [blobLabels_of_read_ok (isFlatObject_iff.mp h), flatPairs?_ofPairs]

/-- A blob that breaks is told as such. -/
theorem Breaks.blobLabels_eq [Host] {fault : Fault} (h : Breaks blob fault) :
    blobLabels blob = .error fault := by
  cases h with
  | long h | deep h => simp only [blobLabels, h.read_eq]
  | unstorable h ht => rw [h.blobLabels_eq, ht]

/-- A blob breaks, is a flat object that has its tags as labels, or has no labels. -/
theorem blobLabels_cases [Host] (blob : Text) :
    (∃ fault, Breaks blob fault) ∨
    (∃ tags, IsFlatObject blob tags ∧ blobLabels blob = .ok (tagMapLabels tags)) ∨
    (∀ tags, ¬ IsFlatObject blob tags) ∧ blobLabels blob = .ok [] := by
  obtain ⟨v, hread, -⟩ | ⟨e, hread, he⟩ := Json.read_cases blob .tags
  · -- The document is flat or not.
    cases hflat : flatPairs? v with
    | none =>
      refine .inr (.inr ⟨fun tags htags => ?_, by rw [blobLabels_of_read_ok hread, hflat]⟩)
      obtain rfl := Except.ok.inj (hread.symm.trans (isFlatObject_iff.mp htags))
      rw [flatPairs?_ofPairs] at hflat
      cases hflat
    | some tags =>
      rw [flatPairs?_eq_some_iff.mp hflat] at hread
      have htags : IsFlatObject blob tags := isFlatObject_iff.mpr hread
      cases hfirst : unstorable? tags with
      | none => exact .inr (.inl ⟨tags, htags, by rw [htags.blobLabels_eq, hfirst]⟩)
      | some t => exact .inl ⟨_, .unstorable htags hfirst⟩
  · -- There is no document, so there is no flat object either.
    have hflat (tags : List (Text × Text)) : ¬ IsFlatObject blob tags := fun htags => by
      cases hread.symm.trans (isFlatObject_iff.mp htags)
    cases e with
    | malformed reason position => exact .inr (.inr ⟨hflat, by simp only [blobLabels, hread]⟩)
    | tooLong digits =>
      have hlimit := he.resolve_left (by simp [Json.ReadError.IsMalformed])
      exact .inl ⟨_, .long hlimit⟩
    | tooDeep object =>
      have hlimit := he.resolve_left (by simp [Json.ReadError.IsMalformed])
      exact .inl ⟨_, .deep hlimit⟩

/-- The tags of a flat object are determined by its text. -/
theorem IsFlatObject.unique [Host] {tags' : List (Text × Text)} (h : IsFlatObject blob tags)
    (h' : IsFlatObject blob tags') : tags = tags' := by
  have hread := (isFlatObject_iff.mp h).symm.trans (isFlatObject_iff.mp h')
  have hsome := flatPairs?_ofPairs tags
  rw [Except.ok.inj hread, flatPairs?_ofPairs] at hsome
  exact (Option.some.inj hsome).symm

/-- A blob that is no flat object and exceeds no limit has no labels; a flat object has its tags as
labels, unless one of their texts cannot be encoded; and every other blob is a fault, which tells of
the limit that is exceeded or of the first such text. -/
theorem labels_of_blob_unless_breaks [Host] (blob : Text) :
    (∀ fault, blobLabels blob = .error fault ↔ Breaks blob fault) ∧
    ((∀ fault, ¬ Breaks blob fault) → ∃ labels, blobLabels blob = .ok labels ∧
      (∀ tags, IsFlatObject blob tags → labels = tagMapLabels tags) ∧
      ((∀ tags, ¬ IsFlatObject blob tags) → labels = [])) := by
  obtain ⟨fault, hbreaks⟩ | ⟨tags, htags, hlabels⟩ | ⟨hnone, hlabels⟩ := blobLabels_cases blob
  · refine ⟨fun fault' => ⟨fun h => ?_, Breaks.blobLabels_eq⟩, fun h => absurd hbreaks (h fault)⟩
    -- The fault of a blob is the one that it breaks with.
    obtain rfl := Except.error.inj (hbreaks.blobLabels_eq.symm.trans h)
    exact hbreaks
  all_goals
    refine ⟨fun fault => ⟨fun h => ?_, Breaks.blobLabels_eq⟩, fun _ => ⟨_, hlabels, ?_, ?_⟩⟩
  · cases hlabels.symm.trans h
  · exact fun tags' htags' => congrArg tagMapLabels (htags.unique htags')
  · exact fun h => absurd htags (h tags)
  · cases hlabels.symm.trans h
  · exact fun tags htags => absurd htags (hnone tags)
  · exact fun _ => rfl

/-- A blob in which a key comes twice. -/
def repeatedBlob : Text := "\x7b\"zone\": \"a\", \"job\": \"api\", \"zone\": \"b\"\x7d"

-- From here on the host is a concrete one.
attribute [local instance] Host.utc

/-- The repeated key has its first place and its last value. -/
theorem labels_of_repeatedBlob :
    IsFlatObject repeatedBlob [("zone", "b"), ("job", "api")] ∧
    (∀ fault, ¬ Breaks repeatedBlob fault) ∧
    blobLabels repeatedBlob = .ok [⟨"zone", "b"⟩, ⟨"job", "api"⟩] := by
  have hread : Json.read repeatedBlob .tags =
      .ok (Value.ofPairs [("zone", "b"), ("job", "api")]) := by
    cbv
  have hflat := isFlatObject_iff.mpr hread
  obtain ⟨hfaults, hlabels⟩ := labels_of_blob_unless_breaks repeatedBlob
  have hnone (fault : Fault) : ¬ Breaks repeatedBlob fault := fun h => by
    have hlabels := hflat.blobLabels_eq.symm.trans ((hfaults fault).mpr h)
    cases hlabels
  obtain ⟨labels, hread, htags, -⟩ := hlabels hnone
  exact ⟨hflat, hnone, hread.trans (congrArg Except.ok (htags _ hflat))⟩

/-- A blob that is a whole number of one digit too many. -/
def longBlob : Text := List.replicate 4301 (CodePoint.ofChar '1')

/-- The number is too long, however many levels may be opened. -/
theorem exceedsLimit_longBlob (depth : Nat) :
    Json.ExceedsLimit depth longBlob (.tooLong 4301) := by
  have hlength : longBlob.length = 4301 := List.length_replicate
  have hhead : longBlob.head? = some (CodePoint.ofChar '1') := rfl
  have hdigits : Json.IsDigits longBlob := by
    refine ⟨List.ne_nil_of_length_pos (by omega), fun c hc => ?_⟩
    rw [List.eq_of_mem_replicate hc]
    decide
  -- Nothing stands behind the digits: no fraction and no exponent.
  have hwhole : Json.WholeAt longBlob longBlob [] := by
    simpa using Json.WholeAt.digits hdigits (by rw [hhead]; decide) (t := [])
      (by simp [Json.NoDigit])
  have hnumeral : Json.NumeralAt longBlob false longBlob [] none [] := by
    refine ⟨longBlob, [], [], .absent (by rw [hhead]; decide), hwhole, .absent ?_, .absent ?_⟩
    · simp [Json.PointAt]
    · simp [Json.PowerAt]
  refine ⟨[], longBlob, rfl, by simp [Json.IsBlank], ?_⟩
  rw [← hlength]
  exact .long hnumeral (by rw [hlength]; decide)

/-- A blob that is no object breaks all the same. -/
theorem longBlob_breaks : (∀ tags, ¬ IsFlatObject longBlob tags) ∧
    ¬ ∃ labels, blobLabels longBlob = .ok labels := by
  refine ⟨fun tags htags => ?_, ?_⟩
  · cases (exceedsLimit_longBlob _).read_eq.symm.trans (isFlatObject_iff.mp htags)
  · rintro ⟨labels, h⟩
    cases (Breaks.long (exceedsLimit_longBlob _)).blobLabels_eq.symm.trans h

end Tag

end RemoteRead
