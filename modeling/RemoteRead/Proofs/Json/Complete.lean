import RemoteRead.Proofs.Json.Sound

/-!
# What is spelled is read

A value that is spelled at the front of a text is read, and a limit that a text exceeds is told, as
long as there is fuel for every code point. The proofs follow the derivations of the grammar. With
what is read being spelled, reading a document and the grammar come to the same (`read_eq_ok_iff`,
`read_eq_error_iff`).
-/

namespace RemoteRead.Json

variable {fuel depth pos : Nat} {c : CodePoint} {s t u w whole fraction rest : Text} {v : Value}
  {e : ReadError} {negative : Bool} {exponent : Option Int}

/-! ## Lengths -/

/-- A key takes at least one code point. -/
theorem KeyAt.length_lt {key : Text} (h : KeyAt t key rest) : rest.length < t.length := by
  obtain ⟨u, w, w', rfl, hstring, -, -⟩ := h
  have hlength := hstring.length_lt
  simp only [List.length_cons, List.length_append] at hlength ⊢
  omega

mutual

/-- A value is cut off in front of what stands behind it. -/
theorem ValueAt.length_le {depth : Nat} {t rest : Text} {v : Value} :
    ValueAt depth t v rest → rest.length ≤ t.length
  | .word _ => by simp
  | .string h => h.length_lt.le.trans (Nat.le_succ _)
  | .whole h _ => h.length_le
  | .decimal h _ => h.length_le
  | .emptyList _ => by simp only [List.length_cons, List.length_append]; omega
  | .list _ h => by
    have ih := ItemsAt.length_le h
    simp only [List.length_cons, List.length_append]
    omega
  | .emptyObject _ => by simp only [List.length_cons, List.length_append]; omega
  | .object _ h => by
    have ih := MembersAt.length_le h
    simp only [List.length_cons, List.length_append]
    omega

/-- Items leave no more than they are read from. -/
theorem ItemsAt.length_le {depth : Nat} {t rest : Text} {vs : List Value} :
    ItemsAt depth t vs rest → rest.length ≤ t.length
  | .last _ h => by
    have ih := ValueAt.length_le h
    simp only [List.length_cons, List.length_append] at ih
    omega
  | .more _ _ h hrest => by
    have ih := ValueAt.length_le h
    have ih' := ItemsAt.length_le hrest
    simp only [List.length_cons, List.length_append] at ih
    omega

/-- Members leave no more than they are read from. -/
theorem MembersAt.length_le {depth : Nat} {t rest : Text} {members : List (Text × Value)} :
    MembersAt depth t members rest → rest.length ≤ t.length
  | .last hkey _ h => by
    have ih := ValueAt.length_le h
    have hlength := hkey.length_lt
    simp only [List.length_cons, List.length_append] at ih
    omega
  | .more hkey _ _ h hrest => by
    have ih := ValueAt.length_le h
    have ih' := MembersAt.length_le hrest
    have hlength := hkey.length_lt
    simp only [List.length_cons, List.length_append] at ih
    omega

end

/-- A text starts with a code point that is no blank, no closing bracket and no mark for the byte
order. -/
def Starts (t : Text) : Prop :=
  ∃ c r, t = c :: r ∧ isSpace c = false ∧ c ≠ CodePoint.ofChar ']' ∧ c.val ≠ 0xfeff

/-- A digit starts a value. -/
theorem starts_of_isDigit (h : c.isDigit = true) (t : Text) : Starts (c :: t) := by
  simp only [CodePoint.isDigit, CodePoint.within, Bool.and_eq_true, decide_eq_true_eq] at h
  refine ⟨c, t, rfl, ?_, ?_, by omega⟩
  · simp only [isSpace, Bool.or_eq_false_iff, beq_eq_false_iff_ne]
    omega
  · rintro rfl
    have hbracket : (CodePoint.ofChar ']').val = 0x5d := by decide
    omega

/-- A numeral starts with its sign or a digit. -/
theorem NumeralAt.starts (h : NumeralAt t negative whole fraction exponent rest) : Starts t := by
  obtain ⟨c, r, rfl, hdigit | ⟨rfl, -⟩⟩ := h.head
  · exact starts_of_isDigit hdigit r
  · exact ⟨_, r, rfl, by decide, by decide, by decide⟩

/-- A value starts with neither a blank nor a closing bracket. -/
theorem ValueAt.starts (h : ValueAt depth t v rest) : Starts t := by
  cases h with
  | word h =>
    simp only [words, List.mem_cons, List.not_mem_nil, or_false, Prod.mk.injEq] at h
    rcases h with ⟨rfl, -⟩ | ⟨rfl, -⟩ | ⟨rfl, -⟩ | ⟨rfl, -⟩ | ⟨rfl, -⟩ | ⟨rfl, -⟩
    all_goals exact ⟨_, _, rfl, by decide, by decide, by decide⟩
  | whole h | decimal h => exact h.starts
  | string | emptyList | list | emptyObject | object =>
    exact ⟨_, _, rfl, by decide, by decide, by decide⟩

/-- A value that exceeds a limit starts as any other. -/
theorem LimitAt.starts (h : LimitAt depth t e) : Starts t := by
  cases h with
  | long h => exact h.starts
  | list | object | items | members => exact ⟨_, _, rfl, by decide, by decide, by decide⟩

/-- Items start with the first of their values. -/
theorem ItemsAt.starts {vs : List Value} (h : ItemsAt depth t vs rest) : Starts t := by
  cases h with
  | last _ h => exact h.starts
  | more _ _ h => exact h.starts

/-- Items of which one exceeds a limit start with a value too. -/
theorem ItemsLimitAt.starts (h : ItemsLimitAt depth t e) : Starts t := by
  cases h with
  | here h => exact h.starts
  | later _ _ h => exact h.starts

/-- A key starts with a quote. -/
theorem KeyAt.exists_cons {key : Text} (h : KeyAt t key rest) :
    ∃ r, t = CodePoint.ofChar '"' :: r := by
  obtain ⟨u, -, -, rfl, -⟩ := h
  exact ⟨u, rfl⟩

/-- Members start with the quote of their first key. -/
theorem MembersAt.exists_cons {ms : List (Text × Value)} (h : MembersAt depth t ms rest) :
    ∃ r, t = CodePoint.ofChar '"' :: r := by
  cases h with
  | last hkey => exact hkey.exists_cons
  | more hkey => exact hkey.exists_cons

/-- Members of which one exceeds a limit start with a quote too. -/
theorem MembersLimitAt.exists_cons (h : MembersLimitAt depth t e) :
    ∃ r, t = CodePoint.ofChar '"' :: r := by
  cases h with
  | here hkey => exact hkey.exists_cons
  | later hkey => exact hkey.exists_cons

/-- Blanks in front of a value are skipped. -/
theorem Starts.skipSpace_eq (ht : Starts t) (hw : IsBlank w) (pos : Nat) :
    skipSpace pos (w ++ t) = (pos + w.length, t) := by
  obtain ⟨c, r, rfl, hspace, -⟩ := ht
  exact skipSpace_append hw (by simpa using hspace) pos

/-- Blanks in front of another code point are skipped. -/
theorem skipSpace_append_cons (hw : IsBlank w) (hc : isSpace c = false) (pos : Nat) (t : Text) :
    skipSpace pos (w ++ c :: t) = (pos + w.length, c :: t) :=
  skipSpace_append hw (by simpa using hc) pos

/-! ### One step of the reader -/

/-- The marks that may stand behind a value: a comma, a closing bracket, a closing brace. -/
def closingMarks : List CodePoint := [CodePoint.ofChar ',', CodePoint.ofChar ']', closeBrace]

/-- A mark behind a value is no blank. -/
theorem isSpace_of_mem_closingMarks : ∀ c ∈ closingMarks, isSpace c = false := by decide

/-- A numeral is read as a number. -/
theorem value_eq_number (h : NumeralAt t negative whole fraction exponent rest)
    (fuel depth pos : Nat) : Json.value (fuel + 1) depth pos t = number pos t := by
  have hwords := h.find?_words
  obtain ⟨c, r, rfl, hc⟩ := h.head
  have hchars : c ≠ CodePoint.ofChar '"' ∧ c.val ≠ 0x7b ∧ c ≠ CodePoint.ofChar '[' := by
    rcases hc with hdigit | ⟨rfl, -⟩
    · refine ⟨?_, ?_, ?_⟩ <;> intro heq
      · rw [heq] at hdigit
        revert hdigit
        decide
      · simp only [CodePoint.isDigit, CodePoint.within, Bool.and_eq_true,
          decide_eq_true_eq] at hdigit
        omega
      · rw [heq] at hdigit
        revert hdigit
        decide
    · decide
  rw [Json.value.eq_def]
  simp only [if_neg hchars.1, if_neg hchars.2.1, if_neg hchars.2.2, hwords]

/-- A word is read as the value that it stands for. -/
theorem value_word (h : (w, v) ∈ words) (fuel depth pos : Nat) (rest : Text) :
    Json.value (fuel + 1) depth pos (w ++ rest) = .ok (v, pos + w.length, rest) := by
  have hfind := find?_words h rest
  obtain ⟨c, r, hw, hc⟩ : ∃ c r, w = c :: r ∧
      c ≠ CodePoint.ofChar '"' ∧ c.val ≠ 0x7b ∧ c ≠ CodePoint.ofChar '[' := by
    simp only [words, List.mem_cons, List.not_mem_nil, or_false, Prod.mk.injEq] at h
    rcases h with ⟨rfl, -⟩ | ⟨rfl, -⟩ | ⟨rfl, -⟩ | ⟨rfl, -⟩ | ⟨rfl, -⟩ | ⟨rfl, -⟩
    all_goals exact ⟨_, _, rfl, by decide⟩
  have hdrop : (w ++ rest).drop w.length = rest := List.drop_left
  subst hw
  rw [List.cons_append] at hfind hdrop ⊢
  rw [Json.value.eq_def]
  simp only [if_neg hc.1, if_neg hc.2.1, if_neg hc.2.2, hfind, hdrop]

/-- A text between quotes is read as a value. -/
theorem StringAt.value_eq (h : StringAt t s rest) (fuel depth pos : Nat) :
    ∃ q, Json.value (fuel + 1) depth pos (CodePoint.ofChar '"' :: t) = .ok (.text s, q, rest) := by
  obtain ⟨q, hstring⟩ := h.stringRest_eq pos (pos + 1)
  refine ⟨q, ?_⟩
  rw [Json.value.eq_def]
  simp only [if_true, hstring]
  rfl

/-- Behind an opening bracket the array is empty or its items are read. -/
theorem value_bracket (hw : IsBlank w) (hc : isSpace c = false) (fuel depth pos : Nat) (t : Text) :
    Json.value (fuel + 1) (depth + 1) pos (CodePoint.ofChar '[' :: (w ++ c :: t)) =
      if c = CodePoint.ofChar ']' then .ok (.list [], pos + 1 + w.length + 1, t)
      else Json.items fuel depth (pos + 1 + w.length) (c :: t) [] := by
  have hquote : CodePoint.ofChar '[' ≠ CodePoint.ofChar '"' := by decide
  have hbrace : (CodePoint.ofChar '[').val ≠ 0x7b := by decide
  rw [Json.value.eq_def]
  simp only [if_neg hquote, if_neg hbrace, if_true, skipSpace_append_cons hw hc]

/-- Behind an opening brace the object is empty or its members are read. -/
theorem value_openBrace (hw : IsBlank w) (hc : isSpace c = false) (fuel depth pos : Nat)
    (t : Text) :
    Json.value (fuel + 1) (depth + 1) pos (openBrace :: (w ++ c :: t)) =
      if c.val = 0x7d then .ok (.mapping [], pos + 1 + w.length + 1, t)
      else Json.members fuel depth (pos + 1 + w.length) (c :: t) [] := by
  have hquote : openBrace ≠ CodePoint.ofChar '"' := by decide
  have hbrace : openBrace.val = 0x7b := by decide
  rw [Json.value.eq_def]
  simp only [if_neg hquote, if_pos hbrace, skipSpace_append_cons hw hc]

/-- Behind an item the array ends or goes on. -/
theorem items_eq_of_value {p : Nat} (hw : IsBlank w) (hc : c ∈ closingMarks)
    (h : Json.value fuel depth pos t = .ok (v, p, w ++ c :: u)) (done : List Value) : ∃ q,
    Json.items (fuel + 1) depth pos t done =
      if c = CodePoint.ofChar ']' then .ok (.list (v :: done).reverse, q + 1, u)
      else if c = CodePoint.ofChar ',' then
        Json.items fuel depth (skipSpace (q + 1) u).1 (skipSpace (q + 1) u).2 (v :: done)
      else .error (.malformed "Expecting ',' delimiter" q) := by
  refine ⟨p + w.length, ?_⟩
  have hspace := isSpace_of_mem_closingMarks c hc
  rw [Json.items]
  simp only [h, bind, Except.bind, skipSpace_append_cons hw hspace]
  rfl

/-- What is read of an object behind the value of a member. -/
def afterMember (fuel depth : Nat) (key : Text) (done : List (Value × Value))
    (found : Value × Nat × Text) : Except ReadError (Value × Nat × Text) :=
  let (v, p, r) := found
  let (p, r) := skipSpace p r
  match r with
  | [] => .error (.malformed "Expecting ',' delimiter" p)
  | c :: s =>
    if c.val = 0x7d then return (.mapping (Value.put done (.text key) v), p + 1, s)
    else if c = CodePoint.ofChar ',' then
      let (p, s) := skipSpace (p + 1) s
      Json.members fuel depth p s (Value.put done (.text key) v)
    else .error (.malformed "Expecting ',' delimiter" p)

/-- A member's key is passed over on the way to its value. -/
theorem members_eq_of_key {key : Text} (hkey : KeyAt t key u) (hu : Starts u)
    (fuel depth pos : Nat) (done : List (Value × Value)) : ∃ p,
    Json.members (fuel + 1) depth pos t done =
      Json.value fuel depth p u >>= afterMember fuel depth key done := by
  obtain ⟨r, w, w', rfl, hstring, hw, hw'⟩ := hkey
  obtain ⟨q, hread⟩ := hstring.stringRest_eq pos (pos + 1)
  have hcolon : isSpace (CodePoint.ofChar ':') = false := by decide
  refine ⟨q + w.length + 1 + w'.length, ?_⟩
  rw [Json.members.eq_def]
  simp only [ne_eq, not_true, if_false, hread, bind, Except.bind, skipSpace_append_cons hw hcolon,
    hu.skipSpace_eq hw']
  rfl

/-- Behind a member the object ends or goes on. -/
theorem members_eq_of_value {key : Text} (hkey : KeyAt t key u) (hu : Starts u) (hw : IsBlank w)
    (hc : c ∈ closingMarks)
    (h : ∀ p, ∃ q, Json.value fuel depth p u = .ok (v, q, w ++ c :: rest)) (pos : Nat)
    (done : List (Value × Value)) : ∃ q,
    Json.members (fuel + 1) depth pos t done =
      if c.val = 0x7d then .ok (.mapping (Value.put done (.text key) v), q + 1, rest)
      else if c = CodePoint.ofChar ',' then
        Json.members fuel depth (skipSpace (q + 1) rest).1 (skipSpace (q + 1) rest).2
          (Value.put done (.text key) v)
      else .error (.malformed "Expecting ',' delimiter" q) := by
  obtain ⟨p, hmembers⟩ := members_eq_of_key hkey hu fuel depth pos done
  obtain ⟨q, hvalue⟩ := h p
  refine ⟨q + w.length, ?_⟩
  have hspace := isSpace_of_mem_closingMarks c hc
  rw [hmembers, hvalue]
  simp only [bind, Except.bind, afterMember, skipSpace_append_cons hw hspace]
  rfl

/-- A limit that is exceeded in the value of a member is exceeded in the object. -/
theorem members_eq_of_error {key : Text} (hkey : KeyAt t key u) (hu : Starts u)
    (h : ∀ p, Json.value fuel depth p u = .error e) (pos : Nat) (done : List (Value × Value)) :
    Json.members (fuel + 1) depth pos t done = .error e := by
  obtain ⟨p, hmembers⟩ := members_eq_of_key hkey hu fuel depth pos done
  rw [hmembers, h p]
  rfl

/-! ### Whole values -/

mutual

/-- A spelled value is read, with fuel for every code point. -/
theorem ValueAt.value_eq {depth : Nat} {t rest : Text} {v : Value} (h : ValueAt depth t v rest)
    (fuel : Nat) (hfuel : 2 * t.length ≤ fuel) (pos : Nat) :
    ∃ q, Json.value fuel depth pos t = .ok (v, q, rest) := by
  -- A value has a first character, so there is fuel for the call itself.
  have hpos : 1 ≤ fuel := by
    obtain ⟨c, r, rfl, -⟩ := h.starts
    rw [List.length_cons] at hfuel
    omega
  obtain ⟨fuel, rfl⟩ := Nat.exists_eq_add_of_le' hpos
  match h with
  | .word hw => exact ⟨_, value_word hw fuel depth pos rest⟩
  | .string hs => exact hs.value_eq fuel depth pos
  | .whole hn hlength =>
    obtain ⟨q, hnumber⟩ := hn.number_eq pos
    rw [if_pos ⟨rfl, rfl⟩, if_neg (Nat.not_lt.mpr hlength)] at hnumber
    exact ⟨q, (value_eq_number hn fuel depth pos).trans hnumber⟩
  | .decimal hn hne =>
    obtain ⟨q, hnumber⟩ := hn.number_eq pos
    rw [if_neg (by rw [not_and_or]; exact hne)] at hnumber
    exact ⟨q, (value_eq_number hn fuel depth pos).trans hnumber⟩
  | .emptyList hw =>
    rw [value_bracket hw (by decide), if_pos rfl]
    exact ⟨_, rfl⟩
  | .list hw hitems =>
    -- The opening mark is two units of fuel: one for this call, one for that of the items.
    obtain ⟨c, r, hu, hspace, hclose, -⟩ := hitems.starts
    simp only [List.length_cons, List.length_append] at hfuel
    have ih := hitems.items_eq fuel (by omega)
    rw [hu] at ih ⊢
    rw [value_bracket hw hspace, if_neg hclose]
    exact ih _ []
  | .emptyObject hw =>
    rw [value_openBrace hw (by decide), if_pos (by decide)]
    exact ⟨_, rfl⟩
  | .object hw hmembers =>
    -- The empty list of members kept so far is what `objectOf` starts from.
    obtain ⟨r, hu⟩ := hmembers.exists_cons
    simp only [List.length_cons, List.length_append] at hfuel
    have ih := hmembers.members_eq fuel (by omega)
    rw [objectOf_eq]
    rw [hu] at ih ⊢
    rw [value_openBrace hw (by decide), if_neg (by decide)]
    exact ih _ []

/-- Spelled items are read behind those that are done. -/
theorem ItemsAt.items_eq {depth : Nat} {t rest : Text} {vs : List Value}
    (h : ItemsAt depth t vs rest) (fuel : Nat) (hfuel : 2 * t.length + 1 ≤ fuel) (pos : Nat)
    (done : List Value) :
    ∃ q, Json.items fuel depth pos t done = .ok (.list (done.reverse ++ vs), q, rest) := by
  obtain ⟨fuel, rfl⟩ := Nat.exists_eq_add_of_le' (show 1 ≤ fuel by omega)
  match h with
  | .last hw hv =>
    obtain ⟨p, hvalue⟩ := hv.value_eq fuel (by omega) pos
    obtain ⟨q, hitems⟩ := items_eq_of_value hw (by decide) hvalue done
    rw [hitems, if_pos rfl, List.reverse_cons]
    exact ⟨_, rfl⟩
  | .more hw hw' hv hrest =>
    obtain ⟨p, hvalue⟩ := hv.value_eq fuel (by omega) pos
    obtain ⟨p', hitems⟩ := items_eq_of_value hw (by decide) hvalue done
    -- The comma pays for the next item.
    have hlength := hv.length_le
    simp only [List.length_append, List.length_cons] at hlength
    obtain ⟨q, ih⟩ := hrest.items_eq fuel (by omega) _ (_ :: done)
    rw [hitems, if_neg (by decide), if_pos rfl, hrest.starts.skipSpace_eq hw']
    refine ⟨q, ih.trans ?_⟩
    rw [List.reverse_cons, List.append_assoc, List.singleton_append]

/-- Spelled members are read behind those that are done. -/
theorem MembersAt.members_eq {depth : Nat} {t rest : Text} {ms : List (Text × Value)}
    (h : MembersAt depth t ms rest) (fuel : Nat) (hfuel : 2 * t.length + 1 ≤ fuel) (pos : Nat)
    (done : List (Value × Value)) :
    ∃ q, Json.members fuel depth pos t done = .ok (.mapping (putAll done ms), q, rest) := by
  obtain ⟨fuel, rfl⟩ := Nat.exists_eq_add_of_le' (show 1 ≤ fuel by omega)
  match h with
  | .last hkey hw hv =>
    -- The name and its quotes pay for the call that reads the value.
    have hlength := hkey.length_lt
    obtain ⟨q, hmembers⟩ := members_eq_of_value hkey hv.starts hw (by decide)
      (hv.value_eq fuel (by omega)) pos done
    rw [hmembers, if_pos (by decide)]
    exact ⟨_, rfl⟩
  | .more hkey hw hw' hv hrest =>
    have hlength := hkey.length_lt
    obtain ⟨p, hmembers⟩ := members_eq_of_value hkey hv.starts hw (by decide)
      (hv.value_eq fuel (by omega)) pos done
    have hlength' := hv.length_le
    simp only [List.length_append, List.length_cons] at hlength'
    -- What follows the comma is a quote, so the blanks end in front of it.
    obtain ⟨r, hquote⟩ := hrest.exists_cons
    obtain ⟨q, ih⟩ := hrest.members_eq fuel (by omega) _ _
    refine ⟨q, ?_⟩
    rw [hmembers, if_neg (by decide), if_pos rfl, hquote, skipSpace_append_cons hw' (by decide),
      ← hquote]
    exact ih

end

mutual

/-- A limit that is exceeded is told. -/
theorem LimitAt.value_eq {depth : Nat} {t : Text} {e : ReadError} (h : LimitAt depth t e)
    (fuel : Nat) (hfuel : 2 * t.length ≤ fuel) (pos : Nat) :
    Json.value fuel depth pos t = .error e := by
  have hpos : 1 ≤ fuel := by
    obtain ⟨c, r, rfl, -⟩ := h.starts
    rw [List.length_cons] at hfuel
    omega
  obtain ⟨fuel, rfl⟩ := Nat.exists_eq_add_of_le' hpos
  match h with
  | .long hn hlength =>
    obtain ⟨q, hnumber⟩ := hn.number_eq pos
    rw [if_pos ⟨rfl, rfl⟩, if_pos hlength] at hnumber
    exact (value_eq_number hn fuel depth pos).trans hnumber
  | .list rest =>
    -- No level is left for the mark, whatever follows it.
    rw [Json.value.eq_def]
    rfl
  | .object rest =>
    rw [Json.value.eq_def]
    rfl
  | .items hw hitems =>
    -- The flaw is further in, and the level above passes it on.
    obtain ⟨c, r, hu, hspace, hclose, -⟩ := hitems.starts
    simp only [List.length_cons, List.length_append] at hfuel
    have ih := hitems.items_eq fuel (by omega)
    rw [hu] at ih ⊢
    rw [value_bracket hw hspace, if_neg hclose]
    exact ih _ []
  | .members hw hmembers =>
    obtain ⟨r, hu⟩ := hmembers.exists_cons
    simp only [List.length_cons, List.length_append] at hfuel
    have ih := hmembers.members_eq fuel (by omega)
    rw [hu] at ih ⊢
    rw [value_openBrace hw (by decide), if_neg (by decide)]
    exact ih _ []

/-- A limit that is exceeded among items is told. -/
theorem ItemsLimitAt.items_eq {depth : Nat} {t : Text} {e : ReadError} (h : ItemsLimitAt depth t e)
    (fuel : Nat) (hfuel : 2 * t.length + 1 ≤ fuel) (pos : Nat) (done : List Value) :
    Json.items fuel depth pos t done = .error e := by
  obtain ⟨fuel, rfl⟩ := Nat.exists_eq_add_of_le' (show 1 ≤ fuel by omega)
  match h with
  | .here hv =>
    rw [Json.items, hv.value_eq fuel (by omega)]
    rfl
  | .later hw hw' hv hrest =>
    obtain ⟨p, hvalue⟩ := hv.value_eq fuel (by omega) pos
    obtain ⟨q, hitems⟩ := items_eq_of_value hw (by decide) hvalue done
    have hlength := hv.length_le
    simp only [List.length_append, List.length_cons] at hlength
    rw [hitems, if_neg (by decide), if_pos rfl, hrest.starts.skipSpace_eq hw']
    exact hrest.items_eq fuel (by omega) _ _

/-- A limit that is exceeded among members is told. -/
theorem MembersLimitAt.members_eq {depth : Nat} {t : Text} {e : ReadError}
    (h : MembersLimitAt depth t e) (fuel : Nat) (hfuel : 2 * t.length + 1 ≤ fuel) (pos : Nat)
    (done : List (Value × Value)) : Json.members fuel depth pos t done = .error e := by
  obtain ⟨fuel, rfl⟩ := Nat.exists_eq_add_of_le' (show 1 ≤ fuel by omega)
  match h with
  | .here hkey hv =>
    have hlength := hkey.length_lt
    exact members_eq_of_error hkey hv.starts (hv.value_eq fuel (by omega)) pos done
  | .later hkey hw hw' hv hrest =>
    have hlength := hkey.length_lt
    obtain ⟨p, hmembers⟩ := members_eq_of_value hkey hv.starts hw (by decide)
      (hv.value_eq fuel (by omega)) pos done
    have hlength' := hv.length_le
    simp only [List.length_append, List.length_cons] at hlength'
    obtain ⟨r, hquote⟩ := hrest.exists_cons
    rw [hmembers, if_neg (by decide), if_pos rfl, hquote, skipSpace_append_cons hw' (by decide),
      ← hquote]
    exact hrest.members_eq fuel (by omega) _ _

end

/-! ## Documents -/

mutual

/-- A limit is no flaw of the text. -/
theorem LimitAt.not_isMalformed {depth : Nat} {t : Text} {e : ReadError} :
    LimitAt depth t e → ¬ e.IsMalformed
  | .long _ _ => by simp [ReadError.IsMalformed]
  | .list _ => by simp [ReadError.IsMalformed]
  | .object _ => by simp [ReadError.IsMalformed]
  | .items _ h => h.not_isMalformed
  | .members _ h => h.not_isMalformed

/-- An item that exceeds a limit is not reported as malformed. -/
theorem ItemsLimitAt.not_isMalformed {depth : Nat} {t : Text} {e : ReadError} :
    ItemsLimitAt depth t e → ¬ e.IsMalformed
  | .here h => h.not_isMalformed
  | .later _ _ _ h => h.not_isMalformed

/-- A member that exceeds a limit is not reported as malformed. -/
theorem MembersLimitAt.not_isMalformed {depth : Nat} {t : Text} {e : ReadError} :
    MembersLimitAt depth t e → ¬ e.IsMalformed
  | .here _ h => h.not_isMalformed
  | .later _ _ _ _ h => h.not_isMalformed

end

/-- A limit that a text exceeds is no flaw of the text. -/
theorem ExceedsLimit.not_isMalformed (h : ExceedsLimit depth t e) : ¬ e.IsMalformed := by
  obtain ⟨w, u, -, -, h⟩ := h
  exact h.not_isMalformed

/-- What stands in front of a value is no mark for the byte order. -/
theorem Starts.head_ne_mark (hu : Starts u) (hw : IsBlank w) :
    ¬ (w ++ u).head?.map CodePoint.val = some 0xfeff := by
  cases w with
  | nil =>
    obtain ⟨c, r, rfl, -, -, hmark⟩ := hu
    simpa using hmark
  | cons c w =>
    have hc := hw c List.mem_cons_self
    intro hmark
    obtain hval : c.val = 0xfeff := by simpa using hmark
    simp [isSpace, hval] at hc

/-- What a text is read to: a value whose document it is, or an error about a malformed place or
about the limit that it exceeds. -/
theorem read_cases [Host] (t : Text) (use : DocumentUse) :
    (∃ v, read t use = .ok v ∧ IsDocument (Host.depth use) t v) ∨
      ∃ e, read t use = .error e ∧ (e.IsMalformed ∨ ExceedsLimit (Host.depth use) t e) := by
  unfold read
  split_ifs with hmark
  · exact .inr ⟨_, rfl, .inl ⟨_, _, rfl⟩⟩
  obtain ⟨w, u, ht, hw, -, hskip⟩ := exists_skipSpace 0 t
  -- The fuel does for every text of this length, so `sound` decides the outcome of the value.
  have hfinds := (sound (2 * t.length + 2)).value (Host.depth use) (0 + w.length) u
  simp only [hskip]
  cases hvalue : Json.value (2 * t.length + 2) (Host.depth use) (0 + w.length) u with
  | error e =>
    rw [hvalue] at hfinds
    exact .inr ⟨e, rfl, hfinds.imp_right fun h => ⟨w, u, ht, hw, h⟩⟩
  | ok found =>
    obtain ⟨v, p, r⟩ := found
    rw [hvalue] at hfinds
    obtain ⟨w', u', hr, hw', -, hskip'⟩ := exists_skipSpace p r
    simp only [bind, Except.bind, hskip']
    cases u' with
    -- Nothing but blanks may follow the value.
    | nil =>
      rw [List.append_nil] at hr
      exact .inl ⟨v, rfl, w, u, r, ht, hw, hfinds, hr ▸ hw'⟩
    | cons c r' => exact .inr ⟨_, rfl, .inl ⟨_, _, rfl⟩⟩

variable [Host] {use : DocumentUse}

/-- The document of a value is read back. -/
theorem IsDocument.read_eq (h : IsDocument (Host.depth use) t v) : read t use = .ok v := by
  obtain ⟨w, u, w', rfl, hw, hv, hw'⟩ := h
  have hlength : 2 * u.length ≤ 2 * (w ++ u).length + 2 := by
    rw [List.length_append]
    omega
  obtain ⟨q, hvalue⟩ := hv.value_eq _ hlength (0 + w.length)
  have hskip := skipSpace_append (w := w') (t := []) hw' (by simp) q
  rw [List.append_nil] at hskip
  rw [read, if_neg (hv.starts.head_ne_mark hw)]
  simp only [hv.starts.skipSpace_eq hw, hvalue, bind, Except.bind, hskip]
  rfl

/-- The limit that a text exceeds is told. -/
theorem ExceedsLimit.read_eq (h : ExceedsLimit (Host.depth use) t e) :
    read t use = .error e := by
  obtain ⟨w, u, rfl, hw, hlimit⟩ := h
  have hlength : 2 * u.length ≤ 2 * (w ++ u).length + 2 := by
    rw [List.length_append]
    omega
  have hvalue := hlimit.value_eq _ hlength (0 + w.length)
  rw [read, if_neg (hlimit.starts.head_ne_mark hw)]
  simp only [hlimit.starts.skipSpace_eq hw, hvalue, bind, Except.bind]

/-- A text is read as a value exactly if it is its document. -/
theorem read_eq_ok_iff : read t use = .ok v ↔ IsDocument (Host.depth use) t v := by
  refine ⟨fun h => ?_, fun h => h.read_eq⟩
  obtain ⟨v', hread, hdocument⟩ | ⟨e, hread, -⟩ := read_cases t use
  · obtain rfl := Except.ok.inj (h.symm.trans hread)
    exact hdocument
  · cases h.symm.trans hread

/-- A limit is told of exactly if the text exceeds it. -/
theorem read_eq_error_iff (he : ¬ e.IsMalformed) :
    read t use = .error e ↔ ExceedsLimit (Host.depth use) t e := by
  refine ⟨fun h => ?_, fun h => h.read_eq⟩
  obtain ⟨v, hread, -⟩ | ⟨e', hread, hlimit⟩ := read_cases t use
  · cases h.symm.trans hread
  · obtain rfl := Except.error.inj (h.symm.trans hread)
    exact hlimit.resolve_left he

end RemoteRead.Json
