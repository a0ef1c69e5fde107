import Mathlib.Data.List.Forall2

/-!
# Outcomes of readings

A reading of cells, labels or requests is an `Except` that either has a value or says what went
wrong. The lemmas here take a successful reading apart: a sequence of two readings succeeds exactly
when both do (`bind_eq_ok_iff`), and a reading of every member of a list exactly when each member
has a value (`mapM_eq_ok_iff`). `Raises` says of what kind the failures of a reading are, and is
derived along the same two forms.
-/

namespace RemoteRead.Outcome

variable {ε ε' α β : Type}

/-- Two readings in sequence succeed exactly when the second succeeds on the value of the first. -/
theorem bind_eq_ok_iff {x : Except ε α} {f : α → Except ε β} {b : β} :
    (x >>= f) = .ok b ↔ ∃ a, x = .ok a ∧ f a = .ok b := by
  cases x with
  | error e => simp [bind, Except.bind]
  | ok a => simp [bind, Except.bind]

/-- A value given back as it is. -/
theorem pure_eq_ok_iff {a b : α} : (pure a : Except ε α) = .ok b ↔ a = b := by
  simp [pure, Except.pure]

/-- Rewording a failure does not change a success. -/
theorem mapError_eq_ok_iff {x : Except ε α} {f : ε → ε'} {a : α} :
    x.mapError f = .ok a ↔ x = .ok a := by
  cases x <;> simp [Except.mapError]

/-- A reading that has a value as an option has it. -/
theorem eq_ok_of_toOption {x : Except ε α} {a : α} (h : x.toOption = some a) : x = .ok a := by
  cases x with
  | error e => cases h
  | ok b => rw [Option.some.inj h]

/-- A value in another form. -/
theorem map_eq_ok_iff {x : Except ε α} {f : α → β} {b : β} :
    x.map f = .ok b ↔ ∃ a, x = .ok a ∧ f a = b := by
  cases x <;> simp [Except.map]

/-- The members of a list are all read exactly when the values pair off with them. -/
theorem mapM_eq_ok_iff {f : α → Except ε β} {l : List α} {values : List β} :
    l.mapM f = .ok values ↔ List.Forall₂ (fun a b => f a = .ok b) l values := by
  induction l generalizing values with
  | nil =>
    rw [List.mapM_nil, pure_eq_ok_iff, List.forall₂_nil_left_iff]
    exact eq_comm
  | cons a l ih =>
    simp only [List.mapM_cons, bind_eq_ok_iff, pure_eq_ok_iff, List.forall₂_cons_left_iff, ih]
    constructor
    · rintro ⟨b, hb, rest, hrest, rfl⟩
      exact ⟨b, rest, hb, hrest, rfl⟩
    · rintro ⟨b, rest, hb, hrest, rfl⟩
      exact ⟨b, hb, rest, hrest, rfl⟩

/-- Where readings have effects, one without any goes on with its value, or its failure stays. -/
theorem mk_pure_bind {M : Type → Type} [Monad M] [LawfulMonad M] (x : Except ε α)
    (f : α → ExceptT ε M β) : (ExceptT.mk (pure x) >>= f) = match x with
      | .error e => throw e
      | .ok a => f a := by
  show pure x >>= ExceptT.bindCont f = _
  rw [pure_bind]
  cases x <;> rfl

/-! ## What goes wrong -/

/-- In a sequence the first reading goes wrong, or the second on the value of the first. -/
theorem bind_eq_error_iff {x : Except ε α} {f : α → Except ε β} {e : ε} :
    (x >>= f) = .error e ↔ x = .error e ∨ ∃ a, x = .ok a ∧ f a = .error e := by
  cases x with
  | error e' => simp [bind, Except.bind]
  | ok a => simp [bind, Except.bind]

/-- Reading the members of a list goes wrong at the first of them that does. -/
theorem mapM_eq_error_iff {f : α → Except ε β} {l : List α} {e : ε} :
    l.mapM f = .error e ↔ ∃ before a after, l = before ++ a :: after ∧
      (∀ b ∈ before, ∃ value, f b = .ok value) ∧ f a = .error e := by
  induction l with
  | nil => simp [pure, Except.pure]
  | cons a l ih =>
    simp only [List.mapM_cons, bind_eq_error_iff, ih]
    constructor
    · rintro (ha | ⟨value, ha, ⟨before, a', after, rfl, hbefore, ha'⟩ | ⟨rest, -, hpure⟩⟩)
      · exact ⟨[], a, l, rfl, by simp, ha⟩
      · exact ⟨a :: before, a', after, rfl, List.forall_mem_cons.mpr ⟨⟨value, ha⟩, hbefore⟩, ha'⟩
      · cases hpure
    · rintro ⟨before, a', after, hl, hbefore, ha'⟩
      cases before with
      | nil =>
        obtain ⟨rfl, rfl⟩ := List.cons.inj hl
        exact .inl ha'
      | cons b before =>
        obtain ⟨rfl, rfl⟩ := List.cons.inj hl
        obtain ⟨⟨value, ha⟩, hbefore⟩ := List.forall_mem_cons.mp hbefore
        exact .inr ⟨value, ha, .inl ⟨before, a', after, rfl, hbefore, ha'⟩⟩

/-- Whatever goes wrong in a reading is of a kind. -/
def Raises (E : ε → Prop) (x : Except ε α) : Prop := ∀ e, x = .error e → E e

variable {E : ε → Prop}

/-- Nothing goes wrong in a success. -/
theorem Raises.ok (a : α) : Raises E (.ok a) := by
  intro e h
  cases h

/-- A failure of the kind is the only one. -/
theorem Raises.error {e : ε} (he : E e) : Raises E (.error e : Except ε α) := by
  rintro _ ⟨⟩
  exact he

/-- In a sequence the first reading goes wrong, or the second on the value of the first. -/
theorem Raises.bind {x : Except ε α} {f : α → Except ε β} (hx : Raises E x)
    (hf : ∀ a, x = .ok a → Raises E (f a)) : Raises E (x >>= f) := by
  cases x with
  | error e =>
    intro e' h
    obtain rfl : e = e' := Except.error.inj h
    exact hx e rfl
  | ok a => exact hf a rfl

/-- A failure that is reworded is of the kind of its new wording. -/
theorem Raises.mapError {x : Except ε' α} {f : ε' → ε} (h : ∀ e, x = .error e → E (f e)) :
    Raises E (x.mapError f) := by
  cases x with
  | error e => exact .error (h e rfl)
  | ok a => exact .ok a

/-- A value in another form does not change what goes wrong. -/
theorem Raises.map {x : Except ε α} {f : α → β} (hx : Raises E x) : Raises E (x.map f) := by
  cases x with
  | error e => exact .error (hx e rfl)
  | ok a => exact .ok _

/-- Reading the members of a list goes wrong with one of them. -/
theorem Raises.mapM {f : α → Except ε β} {l : List α} (h : ∀ a ∈ l, Raises E (f a)) :
    Raises E (l.mapM f) := by
  induction l with
  | nil => exact .ok []
  | cons a l ih =>
    rw [List.mapM_cons]
    have hrest := ih fun b hb => h b (List.mem_cons_of_mem _ hb)
    exact (h a List.mem_cons_self).bind fun _ _ => hrest.bind fun _ _ => .ok _

/-- Going through a list goes wrong at one of its members, after those before it. -/
theorem exists_of_foldlM_error {f : β → α → Except ε β} {e : ε} :
    ∀ {l : List α} {b : β}, l.foldlM f b = .error e →
      ∃ before a after c, l = before ++ a :: after ∧ before.foldlM f b = .ok c ∧
        f c a = .error e := by
  intro l
  induction l with
  | nil =>
    intro b h
    simp [pure, Except.pure] at h
  | cons a l ih =>
    intro b h
    rw [List.foldlM_cons] at h
    cases hstep : f b a with
    | error e' =>
      -- The first member is the one.
      rw [hstep] at h
      obtain rfl := Except.error.inj h
      exact ⟨[], a, l, b, rfl, rfl, hstep⟩
    | ok c =>
      rw [hstep] at h
      obtain ⟨before, a', after, d, rfl, hfold, hfailed⟩ := ih h
      refine ⟨a :: before, a', after, d, rfl, ?_, hfailed⟩
      rw [List.foldlM_cons, hstep]
      exact hfold

/-! ## Readings without a report -/

section Optional

variable {f g : α → Option β} {l : List α} {a : α}

/-- Readings that agree on the members of a list agree on the list. -/
theorem mapM_congr (h : ∀ a ∈ l, f a = g a) : l.mapM f = l.mapM g := by
  induction l with
  | nil => rfl
  | cons a l ih =>
    obtain ⟨ha, hl⟩ := List.forall_mem_cons.mp h
    rw [List.mapM_cons, List.mapM_cons, ha, ih hl]

/-- The members of a list are all read if each of them is. -/
theorem mapM_eq_some_map {g : α → β} (h : ∀ a ∈ l, f a = some (g a)) :
    l.mapM f = some (l.map g) := by
  induction l with
  | nil => rfl
  | cons a l ih =>
    obtain ⟨ha, hl⟩ := List.forall_mem_cons.mp h
    rw [List.mapM_cons, ha, ih hl]
    rfl

/-- One member that is not read leaves nothing of the others. -/
theorem mapM_eq_none (ha : a ∈ l) (h : f a = none) : l.mapM f = none := by
  induction l with
  | nil => cases ha
  | cons b l ih =>
    rw [List.mapM_cons]
    rcases List.mem_cons.mp ha with rfl | ha
    · rw [h]
      rfl
    · rw [ih ha]
      cases f b <;> rfl

/-- What is read of a list is read of its members. -/
theorem exists_of_mem_mapM {values : List β} (h : l.mapM f = some values) :
    ∀ b ∈ values, ∃ a ∈ l, f a = some b := by
  induction l generalizing values with
  | nil =>
    obtain rfl := Option.some.inj h
    exact List.forall_mem_nil _
  | cons a l ih =>
    rw [List.mapM_cons] at h
    obtain ⟨b, hb, h⟩ := Option.bind_eq_some_iff.mp h
    obtain ⟨rest, hrest, h⟩ := Option.bind_eq_some_iff.mp h
    obtain rfl := Option.some.inj h
    refine List.forall_mem_cons.mpr ⟨⟨a, List.mem_cons_self, hb⟩, fun b hb => ?_⟩
    exact (ih hrest b hb).imp fun a ⟨ha, hread⟩ => ⟨List.mem_cons_of_mem _ ha, hread⟩

/-- Where all members but one contribute nothing, the list comes to what this one does. -/
theorem flatten_mapM_of_only {f : α → Option (List β)} (ha : a ∈ l) (hl : l.Nodup)
    (h : ∀ b ∈ l, b ≠ a → f b = some []) : (l.mapM f).map List.flatten = f a := by
  induction l with
  | nil => cases ha
  | cons b l ih =>
    obtain ⟨hb, hl⟩ := List.nodup_cons.mp hl
    obtain ⟨hfirst, hrest⟩ := List.forall_mem_cons.mp h
    rw [List.mapM_cons]
    rcases List.mem_cons.mp ha with rfl | ha
    · have hnothing : l.mapM f = some (l.map fun _ => []) :=
        mapM_eq_some_map fun c hc => hrest c hc (ne_of_mem_of_not_mem hc hb)
      rw [hnothing]
      cases f a <;> simp
    · have hne : b ≠ a := (ne_of_mem_of_not_mem ha hb).symm
      rw [hfirst hne, ← ih ha hl hrest]
      cases l.mapM f <;> rfl

end Optional

/-! ## Lists that pair off -/

variable {R : α → β → Prop} {l : List α} {values : List β}

/-- A member of the left list has a partner. -/
theorem exists_of_mem_left (h : List.Forall₂ R l values) {a : α} (ha : a ∈ l) :
    ∃ b ∈ values, R a b := by
  induction h with
  | nil => simp at ha
  | cons hab _ ih =>
    rcases List.mem_cons.mp ha with rfl | ha
    · exact ⟨_, by simp, hab⟩
    · obtain ⟨b, hb, hR⟩ := ih ha
      exact ⟨b, List.mem_cons_of_mem _ hb, hR⟩

/-- A member of the right list has a partner. -/
theorem exists_of_mem_right (h : List.Forall₂ R l values) {b : β} (hb : b ∈ values) :
    ∃ a ∈ l, R a b := exists_of_mem_left h.flip hb

/-- A member of the left list has its partner at the same place. -/
theorem exists_getElem?_right (h : List.Forall₂ R l values) {i : Nat} {a : α}
    (ha : l[i]? = some a) : ∃ b, values[i]? = some b ∧ R a b := by
  obtain ⟨hlength, hpairs⟩ := List.forall₂_iff_get.mp h
  obtain ⟨hi, rfl⟩ := List.getElem?_eq_some_iff.mp ha
  have hi' : i < values.length := hlength ▸ hi
  exact ⟨values[i], List.getElem?_eq_getElem hi', hpairs i hi hi'⟩

/-- A list whose members all have a partner pairs off with a list of partners. -/
theorem exists_forall₂ (h : ∀ a ∈ l, ∃ b, R a b) : ∃ values, List.Forall₂ R l values := by
  induction l with
  | nil => exact ⟨[], .nil⟩
  | cons a l ih =>
    obtain ⟨b, hab⟩ := h a List.mem_cons_self
    obtain ⟨values, hvalues⟩ := ih fun a ha => h a (List.mem_cons_of_mem _ ha)
    exact ⟨b :: values, .cons hab hvalues⟩

/-- The members of a list are all read exactly when each of them is. -/
theorem exists_mapM_iff {f : α → Except ε β} {l : List α} :
    (∃ values, l.mapM f = .ok values) ↔ ∀ a ∈ l, ∃ b, f a = .ok b := by
  simp only [mapM_eq_ok_iff]
  constructor
  · rintro ⟨values, h⟩ a ha
    obtain ⟨b, -, hb⟩ := exists_of_mem_left h ha
    exact ⟨b, hb⟩
  · exact exists_forall₂

/-- What holds of any two members of a list holds of their partners in another form. -/
theorem pairwise_of_forall₂ {S : α → α → Prop} {T : β → β → Prop}
    (hST : ∀ {a a' b b'}, R a b → R a' b' → S a a' → T b b') (h : List.Forall₂ R l values)
    (hl : l.Pairwise S) : values.Pairwise T := by
  induction h with
  | nil => exact .nil
  | @cons a b l values hab hrest ih =>
    obtain ⟨ha, hl⟩ := List.pairwise_cons.mp hl
    refine List.pairwise_cons.mpr ⟨fun b' hb' => ?_, ih hl⟩
    obtain ⟨a', ha', hR'⟩ := exists_of_mem_right hrest hb'
    exact hST hab hR' (ha a' ha')

/-- Where partners determine their members, a list without repetition pairs off with another. -/
theorem nodup_of_forall₂ (hR : Relator.LeftUnique R) (h : List.Forall₂ R l values)
    (hl : l.Nodup) : values.Nodup :=
  pairwise_of_forall₂ (fun hab hab' hne heq => hne (hR hab (heq ▸ hab'))) h hl

end RemoteRead.Outcome
