import RemoteRead.Proofs.Series.BareTag
import RemoteRead.Proofs.Text.Decimal
import RemoteRead.Proofs.Text.Scalar

/-!
# Rows that share a key by accident

Without a blob, the key of a row is the places and values of its bare tags with hyphens in between.
Nothing in a value is escaped, so a value that holds a hyphen, the number of a later column and
another hyphen can be read in two ways, and rows with different labels can have one key
(`merged_rows`). `Ambiguity` is such a value. `keys_separate_unless_ambiguous` shows that it is the
only cause: rows without one that have the same key have the same labels, and each row with one has
a twin with the same key and other labels.

The proof reads two equal keys from the left. As long as the values agree, so do the places that
follow, because a place is a numeral up to the next hyphen. At the first difference one value
continues beyond the other, and what it continues with is the place and value of the other row's
next tag.
-/

namespace RemoteRead

open Outcome Accumulator

/-- The tags of a row as they stand in its key, a hyphen before each place and each value. -/
def keyTail (tags : List (Nat × Text)) : Text :=
  tags.flatMap fun (i, value) =>
    CodePoint.ofChar '-' :: (Text.ofNat i ++ CodePoint.ofChar '-' :: value)

/-- A value of a bare tag that, with the rest of the key behind it, also reads as a shorter value
followed by the number and the value of a later bare tag. -/
structure Ambiguity (columns : List Value) (row : List Cell) (indexes : List Nat) where
  /-- The bare tags before the value's. -/
  before : List Nat
  /-- The place of the value. -/
  place : Nat
  /-- The bare tags after the value's. -/
  after : List Nat
  indexes_eq : indexes = before ++ place :: after
  /-- The cell that holds the value. -/
  cell : Cell
  cell_eq : row[place]? = some cell
  cell_present : cell.isNil = false
  /-- The value. -/
  value : Text
  value_eq : cell.labelText = .ok value
  /-- The tags that the row has behind the value. -/
  rest : List (Nat × Text)
  rest_eq : presentTags row after = .ok rest
  /-- The shorter value. -/
  shorter : Text
  shorter_lt : shorter.length < value.length
  shorter_present : (Cell.text shorter).isNil = false
  /-- The place of the later bare tag. -/
  later : Nat
  later_mem : later ∈ after
  later_named : ∃ column, columns[later]? = some (.text column) ∧
    (Tag.labelName column).all CodePoint.isScalar = true
  /-- The value of the later bare tag. -/
  remainder : Text
  remainder_present : (Cell.text remainder).isNil = false
  reads : value ++ keyTail rest = shorter ++ keyTail [(later, remainder)]

/-- A row is ambiguous if the value of one of its bare tags is. -/
def Ambiguous (columns : List Value) (layout : Layout) (row : List Cell) : Prop :=
  Nonempty (Ambiguity columns row layout.bareIndexes)

variable {layout : Layout} {columns : List Value} {row : List Cell} {indexes : List Nat}
  {tags : List (Nat × Text)} {key : Text}

/-- An ambiguous value is that of the cell at one of the places. -/
theorem Ambiguity.exists_value (a : Ambiguity columns row indexes) :
    a.place ∈ indexes ∧ ∃ cell, row[a.place]? = some cell ∧ cell.labelText = .ok a.value := by
  have hmem : a.place ∈ a.before ++ a.place :: a.after := by simp
  exact ⟨(congrArg (a.place ∈ ·) a.indexes_eq).mpr hmem, a.cell, a.cell_eq, a.value_eq⟩

/-- An ambiguous value holds a hyphen: the one behind the shorter value. -/
theorem Ambiguity.hyphen_mem (a : Ambiguity columns row indexes) :
    CodePoint.ofChar '-' ∈ a.value := by
  have hat : (a.shorter ++ keyTail [(a.later, a.remainder)])[a.shorter.length]? =
      some (CodePoint.ofChar '-') := by
    rw [List.getElem?_append_right (Nat.le_refl _), Nat.sub_self]
    rfl
  rw [← a.reads, List.getElem?_append_left a.shorter_lt] at hat
  exact List.mem_of_getElem? hat

/-! ## Keys read from the left -/

/-- A tag stands in a key as its place and value, a hyphen before each. -/
theorem keyTail_cons (i : Nat) (value : Text) (rest : List (Nat × Text)) :
    keyTail ((i, value) :: rest) = CodePoint.ofChar '-' ::
      (Text.ofNat i ++ CodePoint.ofChar '-' :: (value ++ keyTail rest)) := by
  simp [keyTail]

/-- A text of parts is that of a hyphen before each part, without the first hyphen. -/
theorem join_eq_tail (parts : List Text) :
    Text.join "-" parts = (parts.flatMap fun part => CodePoint.ofChar '-' :: part).tail := by
  induction parts with
  | nil => rfl
  | cons t r ih =>
    cases r with
    | nil => simp [Text.join]
    | cons u r =>
      rw [Text.join, ih]
      simp [Text.ofString]

/-- The key of a row is the tail of its tags without the first hyphen. -/
theorem join_tags (tags : List (Nat × Text)) :
    Text.join "-" (tags.flatMap fun (i, value) => [Text.ofNat i, value]) = (keyTail tags).tail := by
  rw [join_eq_tail, List.flatMap_assoc]
  simp [keyTail]

/-- Rows with the same key have the same tail of tags. -/
theorem keyTail_eq_of_join_eq {tags tags' : List (Nat × Text)}
    (h : Text.join "-" (tags.flatMap fun (i, value) => [Text.ofNat i, value]) =
      Text.join "-" (tags'.flatMap fun (i, value) => [Text.ofNat i, value])) :
    keyTail tags = keyTail tags' := by
  rw [join_tags, join_tags] at h
  have hne : ∀ (i : Nat) (value : Text) (rest : List (Nat × Text)),
      (keyTail ((i, value) :: rest)).tail ≠ [] := fun i value rest => by simp [keyTail_cons]
  -- Only the empty tail is lost without its first hyphen, and no other tail is that short.
  match tags, tags' with
  | [], [] => rfl
  | [], (i, value) :: rest => exact absurd h.symm (hne i value rest)
  | (i, value) :: rest, [] => exact absurd h (hne i value rest)
  | (i, value) :: rest, (j, value') :: rest' =>
    rw [keyTail_cons, keyTail_cons] at h ⊢
    exact congrArg (CodePoint.ofChar '-' :: ·) h

/-- Equal tails of tags start with the same place, and go on alike behind it. -/
theorem keyTail_cons_inj {i j : Nat} {value value' : Text} {rest rest' : List (Nat × Text)}
    (h : keyTail ((i, value) :: rest) = keyTail ((j, value') :: rest')) :
    i = j ∧ value ++ keyTail rest = value' ++ keyTail rest' := by
  rw [keyTail_cons, keyTail_cons] at h
  exact Text.ofNat_append_inj (by decide) (List.cons.inj h).2

/-! ## Present values -/

/-- A text is present if it holds a code point below the braces. -/
theorem isNil_text_of_lt {t : Text} {c : CodePoint} (hc : c ∈ t) (h : c.val < 0x7b) :
    (Cell.text t).isNil = false := by
  have hbraces : ∀ d ∈ Text.ofString "\x7b\x7d", ¬ d.val < 0x7b := by decide
  have hempty : t ≠ [] := List.ne_nil_of_mem hc
  have hobject : t ≠ Text.ofString "\x7b\x7d" := fun ht => hbraces c (ht ▸ hc) h
  simp [Cell.isNil, hempty, hobject]

/-- The digits of a number are present. -/
theorem isNil_ofNat (n : Nat) : (Cell.text (Text.ofNat n)).isNil = false := by
  obtain ⟨c, hc⟩ := List.exists_mem_of_ne_nil _ (Text.ofNat_ne_nil n)
  have hdigit := Text.isDigit_of_mem_ofNat hc
  simp only [CodePoint.isDigit, CodePoint.within, Bool.and_eq_true, decide_eq_true_eq] at hdigit
  exact isNil_text_of_lt hc (by omega)

/-- A written integer is present. -/
theorem isNil_ofInt (n : Int) : (Cell.text (Text.ofInt n)).isNil = false := by
  unfold Text.ofInt
  split
  · exact isNil_text_of_lt List.mem_cons_self (by decide)
  · exact isNil_ofNat n.natAbs

/-- A written decimal is present. -/
theorem isNil_positional (d : Number.Decimal) :
    (Cell.text (Number.positional d)).isNil = false := by
  unfold Number.positional Number.withPoint
  split_ifs
  · exact isNil_ofNat _
  · exact isNil_ofNat _
  · exact isNil_text_of_lt (List.mem_append_right _ List.mem_cons_self) (by decide)

/-- The label of a double is present. -/
theorem isNil_floatLabel (x : Binary64) : (Cell.text (Cell.floatLabel x)).isNil = false := by
  have hmagnitude : Number.labelNotation.magnitude x = Number.positional (Number.shortest x) := by
    simp [Number.Notation.magnitude, Number.labelNotation]
  unfold Cell.floatLabel Number.Notation.render
  split_ifs
  · decide
  · decide
  · decide
  · exact isNil_text_of_lt List.mem_cons_self (by decide)
  · rw [hmagnitude]
    exact isNil_positional _

/-- The value of a present tag is a present text. -/
theorem isNil_of_label {cell : Cell} {value : Text} (hcell : cell.isNil = false)
    (h : cell.labelText = .ok value) : (Cell.text value).isNil = false := by
  -- That the value is not overlong plays no part.
  replace h := (Cell.labelText_eq_ok_iff.mp h).2
  cases cell with
  | int n =>
    obtain rfl := Except.ok.inj h
    exact isNil_ofInt n
  | float x =>
    obtain rfl := Except.ok.inj h
    exact isNil_floatLabel x
  | text t =>
    obtain rfl := Except.ok.inj h
    exact hcell
  | moment m =>
    obtain rfl := Except.ok.inj h
    have hhyphen : CodePoint.ofChar '-' ∈ m.isoText " " := by
      simp [Calendar.Moment.isoText, Calendar.Date.isoText, Text.ofString]
    exact isNil_text_of_lt hhyphen (by decide)
  | nullableFloat x => simp [Cell.label] at h

/-- The values of the tags of a row are present texts. -/
theorem isNil_of_mem_presentTags (h : presentTags row indexes = .ok tags) :
    ∀ tag ∈ tags, (Cell.text tag.2).isNil = false := by
  induction indexes generalizing tags with
  | nil =>
    obtain rfl := Except.ok.inj h
    simp
  | cons i indexes ih =>
    obtain ⟨cell, -, ⟨-, hrest⟩ | ⟨hcell, value, rest, hvalue, hrest, rfl⟩⟩ :=
      presentTags_cons_eq_ok_iff.mp h
    · exact ih hrest
    · intro tag ht
      rcases List.mem_cons.mp ht with rfl | ht
      · exact isNil_of_label hcell hvalue
      · exact ih hrest tag ht

/-- A present text stays so with tags behind it. -/
theorem isNil_append_keyTail {value : Text} (h : (Cell.text value).isNil = false)
    (rest : List (Nat × Text)) : (Cell.text (value ++ keyTail rest)).isNil = false := by
  cases rest with
  | nil => simpa [keyTail] using h
  | cons tag rest =>
    refine isNil_text_of_lt (c := CodePoint.ofChar '-') ?_ (by decide)
    rw [keyTail_cons]
    exact List.mem_append_right _ List.mem_cons_self

/-! ## Equal keys of different tags -/

/-- Where two rows first differ, in the values at one place, the row with the longer value is
ambiguous: what its value continues with is the next tag of the other row. -/
theorem ambiguity_of_longer {i : Nat} {row row' : List Cell} {cell cell' : Cell}
    {value longer : Text} {rest rest' : List (Nat × Text)}
    (hcell : cell.isNil = false) (hvalue : cell.labelText = .ok value)
    (hrest : presentTags row indexes = .ok rest)
    (hnames : ∀ tag ∈ rest, ∃ label, tagLabel columns tag = .ok label)
    (hat' : row'[i]? = some cell') (hcell' : cell'.isNil = false)
    (hvalue' : cell'.labelText = .ok longer) (hrest' : presentTags row' indexes = .ok rest')
    (hlt : value.length < longer.length)
    (htail : value ++ keyTail rest = longer ++ keyTail rest') :
    Nonempty (Ambiguity columns row' (i :: indexes)) := by
  cases rest with
  | nil =>
    -- Without a next tag the longer value would make the key longer.
    have hlength := congrArg List.length htail
    simp [keyTail] at hlength
    omega
  | cons tag rest =>
    obtain ⟨j, next⟩ := tag
    obtain ⟨label, hlabel⟩ := hnames (j, next) List.mem_cons_self
    obtain ⟨column, hcolumn, hscalar, -, -⟩ := tagLabel_eq_ok_iff.mp hlabel
    have hnext : (Cell.text (next ++ keyTail rest)).isNil = false :=
      isNil_append_keyTail (isNil_of_mem_presentTags hrest (j, next) List.mem_cons_self) rest
    have hlater : j ∈ indexes := fst_mem_of_mem_presentTags hrest (j, next) List.mem_cons_self
    -- The other row's tags behind the next one are part of the remainder.
    have hreads : longer ++ keyTail rest' = value ++ keyTail [(j, next ++ keyTail rest)] := by
      rw [← htail, keyTail_cons, keyTail_cons]
      simp [keyTail]
    exact ⟨⟨[], i, indexes, rfl, cell', hat', hcell', longer, hvalue', rest', hrest', value, hlt,
      isNil_of_label hcell hvalue, j, hlater, ⟨column, hcolumn, hscalar⟩, next ++ keyTail rest,
      hnext, hreads⟩⟩

/-- An ambiguous value stays so with more bare tags in front of it. -/
theorem Ambiguity.cons (i : Nat) (h : Nonempty (Ambiguity columns row indexes)) :
    Nonempty (Ambiguity columns row (i :: indexes)) := by
  obtain ⟨a⟩ := h
  exact ⟨{ a with before := i :: a.before, indexes_eq := congrArg (i :: ·) a.indexes_eq }⟩

/-- Rows with the same tail of tags have the same tags, unless one of them is ambiguous. -/
theorem eq_or_ambiguity {row₁ row₂ : List Cell} (hnodup : indexes.Nodup) :
    ∀ {tags₁ tags₂ : List (Nat × Text)},
      presentTags row₁ indexes = .ok tags₁ → presentTags row₂ indexes = .ok tags₂ →
      (∀ tag ∈ tags₁, ∃ label, tagLabel columns tag = .ok label) →
      (∀ tag ∈ tags₂, ∃ label, tagLabel columns tag = .ok label) →
      keyTail tags₁ = keyTail tags₂ →
        tags₁ = tags₂ ∨ Nonempty (Ambiguity columns row₁ indexes) ∨
          Nonempty (Ambiguity columns row₂ indexes) := by
  induction indexes with
  | nil =>
    intro tags₁ tags₂ h₁ h₂ _ _ _
    exact .inl (Except.ok.inj (h₁.symm.trans h₂))
  | cons i indexes ih =>
    intro tags₁ tags₂ h₁ h₂ hnames₁ hnames₂ htail
    obtain ⟨hi, hnodup⟩ := List.nodup_cons.mp hnodup
    -- A row without a tag at this place does not start its tail with the place.
    have hplace : ∀ {row : List Cell} {tags rest : List (Nat × Text)} {value : Text},
        presentTags row indexes = .ok tags → keyTail ((i, value) :: rest) ≠ keyTail tags := by
      intro row tags rest value hrow heq
      cases tags with
      | nil => simp [keyTail] at heq
      | cons tag tags =>
        obtain ⟨rfl, -⟩ := keyTail_cons_inj heq
        exact hi (fst_mem_of_mem_presentTags hrow tag List.mem_cons_self)
    obtain ⟨cell₁, hat₁, ⟨hnil₁, hrest₁⟩ | ⟨hcell₁, value₁, rest₁, hvalue₁, hrest₁, rfl⟩⟩ :=
      presentTags_cons_eq_ok_iff.mp h₁ <;>
    obtain ⟨cell₂, hat₂, ⟨hnil₂, hrest₂⟩ | ⟨hcell₂, value₂, rest₂, hvalue₂, hrest₂, rfl⟩⟩ :=
      presentTags_cons_eq_ok_iff.mp h₂
    · -- Neither row has a tag here.
      exact (ih hnodup hrest₁ hrest₂ hnames₁ hnames₂ htail).imp_right
        (Or.imp (Ambiguity.cons i) (Ambiguity.cons i))
    · -- Only the second row has one, so its tail starts with the place.
      exact absurd htail.symm (hplace hrest₁)
    · -- Only the first row has one.
      exact absurd htail (hplace hrest₂)
    · -- Both rows have one: their values are equal, or one continues beyond the other.
      obtain ⟨-, htail⟩ := keyTail_cons_inj htail
      have hnext₁ : ∀ tag ∈ rest₁, ∃ label, tagLabel columns tag = .ok label :=
        fun tag ht => hnames₁ tag (List.mem_cons_of_mem _ ht)
      have hnext₂ : ∀ tag ∈ rest₂, ∃ label, tagLabel columns tag = .ok label :=
        fun tag ht => hnames₂ tag (List.mem_cons_of_mem _ ht)
      rcases Nat.lt_trichotomy value₁.length value₂.length with hlt | hlength | hlt
      · exact .inr (.inr (ambiguity_of_longer hcell₁ hvalue₁ hrest₁ hnext₁ hat₂ hcell₂ hvalue₂
          hrest₂ hlt htail))
      · obtain ⟨rfl, hrests⟩ := List.append_inj htail hlength
        rcases ih hnodup hrest₁ hrest₂ hnext₁ hnext₂ hrests with rfl | h
        · exact .inl rfl
        · exact .inr (h.imp (Ambiguity.cons i) (Ambiguity.cons i))
      · exact .inr (.inl (ambiguity_of_longer hcell₂ hvalue₂ hrest₂ hnext₂ hat₁ hcell₁ hvalue₁
          hrest₁ hlt htail.symm))

/-! ## The twin of an ambiguous row -/

/-- The row that reads an ambiguous value the other way: the shorter value in its place, the
remainder in the later one, and nothing in the other bare tags behind it. -/
def Ambiguity.twin (a : Ambiguity columns row indexes) : List Cell :=
  row.mapIdx fun k cell =>
    if k = a.place then .text a.shorter
    else if k = a.later then .text a.remainder
    else if k ∈ a.after then .text []
    else cell

/-- The tags of a row at two runs of places are those of the first and then those of the second. -/
theorem presentTags_append_eq_ok_iff {more : List Nat} :
    presentTags row (indexes ++ more) = .ok tags ↔ ∃ tags₁ tags₂,
      presentTags row indexes = .ok tags₁ ∧ presentTags row more = .ok tags₂ ∧
        tags = tags₁ ++ tags₂ := by
  induction indexes generalizing tags with
  | nil => simp [presentTags, eq_comm]
  | cons i indexes ih =>
    simp only [List.cons_append, presentTags_cons_eq_ok_iff, ih]
    constructor
    · -- The first place is absent, or has the first tag.
      rintro ⟨cell, hat, ⟨hnil, tags₁, tags₂, h₁, h₂, rfl⟩ |
        ⟨hcell, value, _, hvalue, ⟨tags₁, tags₂, h₁, h₂, rfl⟩, rfl⟩⟩
      · exact ⟨tags₁, tags₂, ⟨cell, hat, .inl ⟨hnil, h₁⟩⟩, h₂, rfl⟩
      · exact ⟨(i, value) :: tags₁, tags₂,
          ⟨cell, hat, .inr ⟨hcell, value, tags₁, hvalue, h₁, rfl⟩⟩, h₂, rfl⟩
    · rintro ⟨_, tags₂, ⟨cell, hat, ⟨hnil, h₁⟩ | ⟨hcell, value, tags₁, hvalue, h₁, rfl⟩⟩, h₂, rfl⟩
      · exact ⟨cell, hat, .inl ⟨hnil, _, tags₂, h₁, h₂, rfl⟩⟩
      · exact ⟨cell, hat, .inr ⟨hcell, value, _, hvalue, ⟨tags₁, tags₂, h₁, h₂, rfl⟩, rfl⟩⟩

/-- The tags of a row at given places depend on its cells there only. -/
theorem presentTags_congr {row' : List Cell} (h : ∀ k ∈ indexes, row[k]? = row'[k]?) :
    presentTags row indexes = presentTags row' indexes := by
  induction indexes with
  | nil => rfl
  | cons i indexes ih =>
    rw [presentTags, presentTags, cellAt, cellAt, h i List.mem_cons_self,
      ih fun k hk => h k (List.mem_cons_of_mem _ hk)]

/-- A row whose tags are read has cells at their places. -/
theorem exists_cell_of_presentTags (h : presentTags row indexes = .ok tags) :
    ∀ k ∈ indexes, ∃ cell, row[k]? = some cell := by
  induction indexes generalizing tags with
  | nil => simp
  | cons i indexes ih =>
    obtain ⟨cell, hat, ⟨-, hrest⟩ | ⟨-, value, rest, -, hrest, -⟩⟩ :=
      presentTags_cons_eq_ok_iff.mp h <;>
    exact List.forall_mem_cons.mpr ⟨⟨cell, hat⟩, ih hrest⟩

/-- A row with one value among its places, and nothing in the others, has that tag only. -/
theorem presentTags_single {j : Nat} {value : Text} (hvalue : (Cell.text value).isNil = false)
    (hnodup : indexes.Nodup) (hat : ∀ k ∈ indexes,
      row[k]? = some (if k = j then .text value else .text [])) :
    presentTags row indexes = .ok (if j ∈ indexes then [(j, value)] else []) := by
  induction indexes with
  | nil => rfl
  | cons i indexes ih =>
    obtain ⟨hi, hnodup⟩ := List.nodup_cons.mp hnodup
    have hrest := ih hnodup fun k hk => hat k (List.mem_cons_of_mem _ hk)
    rw [presentTags_cons_eq_ok_iff]
    refine ⟨_, hat i List.mem_cons_self, ?_⟩
    by_cases hij : i = j
    · -- This place has the value, and none behind it has one.
      subst hij
      rw [if_neg hi] at hrest
      simp only [if_true]
      exact .inr ⟨hvalue, value, [], rfl, hrest, by simp⟩
    · -- Here the row has nothing.
      rw [if_neg hij]
      refine .inl ⟨rfl, ?_⟩
      rw [hrest]
      simp [Ne.symm hij]

/-- The tags of a key have encoded forms if their values have. -/
theorem isScalar_keyTail {tags : List (Nat × Text)}
    (h : ∀ tag ∈ tags, tag.2.all CodePoint.isScalar = true) :
    (keyTail tags).all CodePoint.isScalar = true := by
  induction tags with
  | nil => rfl
  | cons tag tags ih =>
    obtain ⟨i, value⟩ := tag
    have hvalue := h (i, value) List.mem_cons_self
    have hrest := ih fun tag ht => h tag (List.mem_cons_of_mem _ ht)
    rw [keyTail_cons]
    simp [hvalue, hrest]

/-- What a twin holds at a place. -/
theorem Ambiguity.twin_getElem? (a : Ambiguity columns row indexes) (k : Nat) :
    a.twin[k]? = row[k]?.map fun cell =>
      if k = a.place then .text a.shorter
      else if k = a.later then .text a.remainder
      else if k ∈ a.after then .text []
      else cell := by
  rw [Ambiguity.twin, List.getElem?_mapIdx]

/-- A twin differs from its row at bare tags only. -/
theorem Ambiguity.twin_of_not_mem (a : Ambiguity columns row indexes) {k : Nat}
    (hk : k ∉ indexes) : a.twin[k]? = row[k]? := by
  have hplaces : ∀ i, i = a.place ∨ i ∈ a.after → i ∈ indexes := by
    intro i hi
    rw [a.indexes_eq]
    rcases hi with rfl | hi <;> simp [*]
  have hplace : k ≠ a.place := fun h => hk (hplaces k (.inl h))
  have hafter : k ∉ a.after := fun h => hk (hplaces k (.inr h))
  have hlater : k ≠ a.later := fun h => hafter (h ▸ a.later_mem)
  rw [a.twin_getElem?]
  simp [hplace, hlater, hafter]

/-- The tags of an ambiguous row, and those of its twin: alike before the value, and then either
value with what is behind it. -/
theorem Ambiguity.presentTags_twin (a : Ambiguity columns row indexes) (hnodup : indexes.Nodup)
    (htags : presentTags row indexes = .ok tags) :
    ∃ front, tags = front ++ (a.place, a.value) :: a.rest ∧
      presentTags a.twin indexes =
        .ok (front ++ [(a.place, a.shorter), (a.later, a.remainder)]) := by
  have hparts := hnodup
  rw [a.indexes_eq, List.nodup_append, List.nodup_cons] at hparts
  obtain ⟨-, ⟨hplace, hafter⟩, hbefore⟩ := hparts
  rw [a.indexes_eq, presentTags_append_eq_ok_iff] at htags
  -- The tags of the row, taken apart at the value.
  obtain ⟨front, behind, hfront, hbehind, rfl⟩ := htags
  obtain rfl : behind = (a.place, a.value) :: a.rest := by
    refine Except.ok.inj (hbehind.symm.trans (presentTags_cons_eq_ok_iff.mpr ?_))
    exact ⟨a.cell, a.cell_eq, .inr ⟨a.cell_present, a.value, a.rest, a.value_eq, a.rest_eq, rfl⟩⟩
  refine ⟨front, rfl, ?_⟩
  rw [congrArg (presentTags a.twin) a.indexes_eq, presentTags_append_eq_ok_iff]
  -- The tags of the twin, put together in the same way.
  refine ⟨front, [(a.place, a.shorter), (a.later, a.remainder)], ?_, ?_, rfl⟩
  · -- Before the value the two rows have the same cells.
    rw [← hfront]
    refine presentTags_congr fun k hk => ?_
    have hne : k ≠ a.place := hbefore k hk a.place List.mem_cons_self
    have hnot : k ∉ a.after := fun h => hbefore k hk k (List.mem_cons_of_mem _ h) rfl
    have hlater : k ≠ a.later := fun h => hnot (h ▸ a.later_mem)
    rw [a.twin_getElem?]
    simp [hne, hnot, hlater]
  · -- Behind it the twin has the remainder and nothing else.
    have hcells : ∀ k ∈ a.after,
        a.twin[k]? = some (if k = a.later then .text a.remainder else .text []) := by
      intro k hk
      have hne : k ≠ a.place := fun h => hplace (h ▸ hk)
      obtain ⟨cell, hcell⟩ := exists_cell_of_presentTags a.rest_eq k hk
      rw [a.twin_getElem?, hcell]
      simp [hne, hk]
    have hrest := presentTags_single a.remainder_present hafter hcells
    rw [if_pos a.later_mem] at hrest
    refine presentTags_cons_eq_ok_iff.mpr ⟨.text a.shorter, ?_, ?_⟩
    · rw [a.twin_getElem?, a.cell_eq]
      simp
    · exact .inr ⟨a.shorter_present, a.shorter, _, rfl, hrest, rfl⟩

/-- The tags of a twin have labels if those of its row have. -/
theorem Ambiguity.exists_label (a : Ambiguity columns row indexes) {front : List (Nat × Text)}
    (h : ∀ tag ∈ front ++ (a.place, a.value) :: a.rest, ∃ label, tagLabel columns tag = .ok label) :
    ∀ tag ∈ front ++ [(a.place, a.shorter), (a.later, a.remainder)],
      ∃ label, tagLabel columns tag = .ok label := by
  have hscalar : ∀ tag ∈ (a.place, a.value) :: a.rest, tag.2.all CodePoint.isScalar = true := by
    intro tag ht
    obtain ⟨label, hlabel⟩ := h tag (List.mem_append_right _ ht)
    obtain ⟨-, -, -, hvalue, -⟩ := tagLabel_eq_ok_iff.mp hlabel
    exact hvalue
  obtain ⟨hvalue, hrest⟩ := List.forall_mem_cons.mp hscalar
  -- The shorter value and the remainder are parts of a text that has an encoded form.
  have hparts : (a.shorter ++ keyTail [(a.later, a.remainder)]).all CodePoint.isScalar = true := by
    rw [← a.reads, List.all_append, hvalue, isScalar_keyTail hrest, Bool.and_self]
  rw [keyTail_cons] at hparts
  simp only [List.all_append, List.all_cons, Bool.and_eq_true] at hparts
  obtain ⟨hshorter, -, -, -, hremainder, -⟩ := hparts
  intro tag ht
  rcases List.mem_append.mp ht with ht | ht
  · exact h tag (List.mem_append_left _ ht)
  · simp only [List.mem_cons, List.not_mem_nil, or_false] at ht
    -- Only the two tags that the other reading puts at its end are new.
    rcases ht with rfl | rfl
    · obtain ⟨label, hlabel⟩ := h (a.place, a.value) (by simp)
      obtain ⟨column, hcolumn, hname, -, -⟩ := tagLabel_eq_ok_iff.mp hlabel
      exact ⟨_, tagLabel_eq_ok_iff.mpr ⟨column, hcolumn, hname, hshorter, rfl⟩⟩
    · obtain ⟨column, hcolumn, hname⟩ := a.later_named
      exact ⟨_, tagLabel_eq_ok_iff.mpr ⟨column, hcolumn, hname, hremainder, rfl⟩⟩

/-- An ambiguous row with labels has a twin with the same key and other labels. -/
theorem Ambiguity.exists_labels [Host] (hlayout : layout.tagIndex = none)
    (hnodup : layout.bareIndexes.Nodup) (a : Ambiguity columns row layout.bareIndexes)
    {labels : List Label} (hkey : seriesKey row layout = .ok key)
    (hlabels : seriesLabels row layout columns key = .ok labels) :
    ∃ labels', seriesKey a.twin layout = .ok key ∧
      seriesLabels a.twin layout columns key = .ok labels' ∧ labels' ≠ labels := by
  obtain ⟨hname, tags, rest, htags, hrest, rfl⟩ := (seriesLabels_bare hlayout).mp hlabels
  obtain ⟨_, htags', rfl⟩ := (seriesKey_bare hlayout).mp hkey
  obtain rfl := Except.ok.inj (htags.symm.trans htags')
  -- The tags of both, alike in front of the value.
  obtain ⟨front, rfl, htwin⟩ := a.presentTags_twin hnodup htags
  have hnamed : ∀ tag ∈ front ++ (a.place, a.value) :: a.rest,
      ∃ label, tagLabel columns tag = .ok label := by
    intro tag ht
    obtain ⟨label, -, hlabel⟩ := exists_of_mem_left hrest ht
    exact ⟨label, hlabel⟩
  obtain ⟨rest', hrest'⟩ := exists_forall₂ (a.exists_label hnamed)
  -- The twin has the same tail of tags, hence the key.
  refine ⟨⟨metricNameLabel, layout.metricName⟩ :: rest', ?_, ?_, ?_⟩
  · refine (seriesKey_bare hlayout).mpr ⟨_, htwin, ?_⟩
    have htail : keyTail (front ++ (a.place, a.value) :: a.rest) =
        keyTail (front ++ [(a.place, a.shorter), (a.later, a.remainder)]) := by
      have hparts := a.reads
      simp only [keyTail, List.flatMap_append, List.flatMap_cons] at hparts ⊢
      simp [hparts]
    rw [join_tags, join_tags, htail]
  · exact (seriesLabels_bare hlayout).mpr ⟨hname, _, rest', htwin, hrest', rfl⟩
  · intro heq
    obtain ⟨-, rfl⟩ := List.cons.inj heq
    -- Equal labels would make the shorter value the whole one.
    have hvalues := (map_value_of_tagLabels hrest').symm.trans (map_value_of_tagLabels hrest)
    simp only [List.map_append, List.map_cons] at hvalues
    obtain ⟨hshorter, -⟩ := List.cons.inj (List.append_cancel_left hvalues)
    exact absurd a.shorter_lt (by rw [hshorter]; exact Nat.lt_irrefl _)

/-! ## Merged rows -/

/-- Rows with one key and labels have the same labels, unless one of them is ambiguous. -/
theorem labels_eq_of_not_ambiguous [Host] (hlayout : layout.tagIndex = none)
    (hnodup : layout.bareIndexes.Nodup) {row₁ row₂ : List Cell} {labels₁ labels₂ : List Label}
    (hkey₁ : seriesKey row₁ layout = .ok key) (hkey₂ : seriesKey row₂ layout = .ok key)
    (h₁ : seriesLabels row₁ layout columns key = .ok labels₁)
    (h₂ : seriesLabels row₂ layout columns key = .ok labels₂)
    (hclear₁ : ¬ Ambiguous columns layout row₁) (hclear₂ : ¬ Ambiguous columns layout row₂) :
    labels₁ = labels₂ := by
  obtain ⟨-, tags₁, rest₁, htags₁, hrest₁, rfl⟩ := (seriesLabels_bare hlayout).mp h₁
  obtain ⟨-, tags₂, rest₂, htags₂, hrest₂, rfl⟩ := (seriesLabels_bare hlayout).mp h₂
  obtain ⟨_, hread₁, rfl⟩ := (seriesKey_bare hlayout).mp hkey₁
  obtain ⟨_, hread₂, hjoin⟩ := (seriesKey_bare hlayout).mp hkey₂
  obtain rfl := Except.ok.inj (htags₁.symm.trans hread₁)
  obtain rfl := Except.ok.inj (htags₂.symm.trans hread₂)
  have hlabel : ∀ {tags labels},
      List.Forall₂ (fun tag label => tagLabel columns tag = .ok label) tags labels →
        ∀ tag ∈ tags, ∃ label, tagLabel columns tag = .ok label := by
    intro tags labels hlabels tag ht
    obtain ⟨label, -, h⟩ := exists_of_mem_left hlabels ht
    exact ⟨label, h⟩
  -- With the same key the tags are the same, and so are their labels.
  rcases eq_or_ambiguity hnodup htags₁ htags₂ (hlabel hrest₁) (hlabel hrest₂)
    (keyTail_eq_of_join_eq hjoin) with rfl | hambiguous | hambiguous
  · have hunique : Relator.RightUnique fun tag label => tagLabel columns tag = .ok label :=
      fun _ _ _ h h' => Except.ok.inj (h.symm.trans h')
    rw [hunique.forall₂ hrest₁ hrest₂]
  · exact absurd hambiguous hclear₁
  · exact absurd hambiguous hclear₂

/-- In a table without a blob, rows with one key have the same labels unless one of them is
ambiguous, and each ambiguous row has a row with the same key and other labels, different in its
bare tags only. So a table without ambiguous rows is decoded into series that carry the labels of
each of their rows. -/
theorem keys_separate_unless_ambiguous [Host] (result : ResultSet) (layout : Layout)
    (hlayout : Layout.locate result.columns = .ok layout)
    (htag : Value.text tagColumn ∉ result.columns) :
    (∀ row₁ row₂ key labels₁ labels₂,
      seriesKey row₁ layout = .ok key → seriesKey row₂ layout = .ok key →
      seriesLabels row₁ layout result.columns key = .ok labels₁ →
      seriesLabels row₂ layout result.columns key = .ok labels₂ →
      ¬ Ambiguous result.columns layout row₁ → ¬ Ambiguous result.columns layout row₂ →
        labels₁ = labels₂) ∧
    (∀ row key labels,
      seriesKey row layout = .ok key → seriesLabels row layout result.columns key = .ok labels →
      Ambiguous result.columns layout row →
        ∃ row' labels', (∀ k ∉ layout.bareIndexes, row'[k]? = row[k]?) ∧
          seriesKey row' layout = .ok key ∧
          seriesLabels row' layout result.columns key = .ok labels' ∧ labels' ≠ labels) ∧
    (∀ limit response, result.decode limit = .ok response →
      (∀ row ∈ result.rows, ¬ Ambiguous result.columns layout row) →
        ∃ kind keys series, response = ⟨[⟨series⟩]⟩ ∧
          List.Forall₂ (fun key s => SeriesOf layout kind result.columns result.rows key s ∧
            ∀ row ∈ result.rows, seriesKey row layout = .ok key →
              ∀ labels, seriesLabels row layout result.columns key = .ok labels →
                s.labels = labels)
            (admissible limit keys) series) := by
  have hnone : layout.tagIndex = none := Layout.locate_tagIndex hlayout htag
  have hnodup : layout.bareIndexes.Nodup := Layout.nodup_bareIndexes hlayout
  refine ⟨?_, ?_, ?_⟩
  · -- Rows that are not ambiguous.
    intro row₁ row₂ key labels₁ labels₂ hkey₁ hkey₂ h₁ h₂ hclear₁ hclear₂
    exact labels_eq_of_not_ambiguous hnone hnodup hkey₁ hkey₂ h₁ h₂ hclear₁ hclear₂
  · -- The twin of an ambiguous row.
    rintro row key labels hkey hlabels ⟨a⟩
    obtain ⟨labels', hkey', hlabels', hne⟩ := a.exists_labels hnone hnodup hkey hlabels
    exact ⟨a.twin, labels', fun k hk => a.twin_of_not_mem hk, hkey', hlabels', hne⟩
  · -- The labels of a series are those of its first row, which is not ambiguous either.
    intro limit response hdecode hclear
    obtain ⟨layout', kind, keys, series, hlayout', -, -, hseries, rfl⟩ :=
      IsGrouping.of_decode hdecode
    obtain rfl := Except.ok.inj (hlayout.symm.trans hlayout')
    refine ⟨kind, keys, series, rfl, hseries.imp fun key s hs => ⟨hs, ?_⟩⟩
    intro row hrow hkey labels hlabels
    obtain ⟨first, hfirst, hfirstKey, hfirstLabels⟩ := hs.exists_first
    exact labels_eq_of_not_ambiguous hnone hnodup hfirstKey hkey hfirstLabels hlabels
      (hclear first hfirst) (hclear row hrow)

/-- A row with both tags. -/
def plainRow : List Cell := [.int 1, .int 5, .text "x", .text "y"]

/-- A row with one tag, whose value reads as both tags of `plainRow`. -/
def hyphenRow : List Cell := [.int 1, .int 7, .text "x-3-y", .text []]

/-- Neither value of the row holds a hyphen, so it is not ambiguous. -/
theorem not_ambiguous_plainRow : ¬ Ambiguous podZone podZoneLayout plainRow := by
  rintro ⟨a⟩
  obtain ⟨hplace, cell, hcell, hvalue⟩ := a.exists_value
  have hhyphen := a.hyphen_mem
  simp only [podZoneLayout, List.mem_cons, List.not_mem_nil, or_false] at hplace
  have hpod : CodePoint.ofChar '-' ∉ Text.ofString "x" := by decide
  have hzone : CodePoint.ofChar '-' ∉ Text.ofString "y" := by decide
  -- The value would be that of the pod or of the zone.
  rcases hplace with h | h
  · rw [h] at hcell
    obtain rfl := Option.some.inj hcell
    have htext := Except.ok.inj hvalue
    exact hpod (htext ▸ hhyphen)
  · rw [h] at hcell
    obtain rfl := Option.some.inj hcell
    have htext := Except.ok.inj hvalue
    exact hzone (htext ▸ hhyphen)

/-- The value with hyphens is. -/
def hyphenRowAmbiguity : Ambiguity podZone hyphenRow podZoneLayout.bareIndexes where
  before := []
  place := 2
  after := [3]
  indexes_eq := rfl
  cell := .text "x-3-y"
  cell_eq := rfl
  cell_present := by decide
  value := "x-3-y"
  value_eq := rfl
  rest := []
  rest_eq := rfl
  shorter := "x"
  shorter_lt := by decide
  shorter_present := by decide
  later := 3
  later_mem := by decide
  later_named := ⟨"zone", rfl, by decide⟩
  remainder := "y"
  remainder_present := by decide
  reads := by decide

-- From here on the host is a concrete one.
attribute [local instance] Host.utc

/-- The row without an ambiguous value is alone with its key among such rows, and the ambiguous one
has a twin. -/
theorem keys_separate_podZone :
    Layout.locate podZoneTable.columns = .ok podZoneLayout ∧
    Value.text tagColumn ∉ podZoneTable.columns ∧
    ¬ Ambiguous podZone podZoneLayout plainRow ∧
    (∀ row labels, ¬ Ambiguous podZone podZoneLayout row →
      seriesKey row podZoneLayout = .ok "2-x-3-y" →
      seriesLabels row podZoneLayout podZone "2-x-3-y" = .ok labels →
        seriesLabels plainRow podZoneLayout podZone "2-x-3-y" = .ok labels) ∧
    Ambiguous podZone podZoneLayout hyphenRow ∧
    ∃ row' labels', (∀ k ∉ podZoneLayout.bareIndexes, row'[k]? = hyphenRow[k]?) ∧
      seriesKey row' podZoneLayout = .ok "2-x-3-y" ∧
      seriesLabels row' podZoneLayout podZone "2-x-3-y" = .ok labels' ∧
      seriesLabels hyphenRow podZoneLayout podZone "2-x-3-y" ≠ .ok labels' := by
  obtain ⟨halone, htwin, -⟩ := keys_separate_unless_ambiguous podZoneTable podZoneLayout rfl
    tagColumn_not_mem_podZone
  refine ⟨rfl, tagColumn_not_mem_podZone, not_ambiguous_plainRow, ?_, ⟨hyphenRowAmbiguity⟩, ?_⟩
  · intro row labels hclear hkey hlabels
    have heq := halone plainRow row "2-x-3-y" _ labels rfl hkey rfl hlabels not_ambiguous_plainRow
      hclear
    exact congrArg Except.ok heq
  · obtain ⟨row', labels', hcells, hkey, hlabels, hne⟩ :=
      htwin hyphenRow "2-x-3-y" _ rfl rfl ⟨hyphenRowAmbiguity⟩
    exact ⟨row', labels', hcells, hkey, hlabels, fun heq => hne (Except.ok.inj heq).symm⟩

/-- Two rows with different tags are merged: they have one key, but not the same labels. -/
theorem merged_rows : ∃ key labels₁ labels₂,
    Layout.locate podZone = .ok podZoneLayout ∧ Value.text tagColumn ∉ podZone ∧
    seriesKey plainRow podZoneLayout = .ok key ∧ seriesKey hyphenRow podZoneLayout = .ok key ∧
    seriesLabels plainRow podZoneLayout podZone key = .ok labels₁ ∧
    seriesLabels hyphenRow podZoneLayout podZone key = .ok labels₂ ∧ labels₁ ≠ labels₂ := by
  refine ⟨"2-x-3-y", _, _, rfl, tagColumn_not_mem_podZone, rfl, rfl, rfl, rfl, ?_⟩
  decide

end RemoteRead
