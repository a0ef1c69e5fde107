import RemoteRead.Proofs.Json.Token

/-!
# What is read is spelled

Whatever a reading of values ends in, the grammar accounts for it: a value that is read is spelled
there, and an error is about a malformed place or about a limit that the text exceeds (`sound`). The
proof is by induction on the fuel, with one step for a value, one for the items of an array and one
for the members of an object.
-/

namespace RemoteRead.Json

variable {fuel depth pos : Nat} {c : CodePoint} {t u w whole fraction rest : Text} {v : Value}
  {negative : Bool} {exponent : Option Int}

/-- A word starts with no digit, or with a minus and no digit behind it. -/
theorem head_of_mem_words {found : Text × Value} (h : found ∈ words) :
    ∃ c r, found.1 = c :: r ∧ c.isDigit = false ∧
      (c = CodePoint.ofChar '-' → ∃ d s, r = d :: s ∧ d.isDigit = false) := by
  simp only [words, List.mem_cons, List.not_mem_nil, or_false] at h
  rcases h with rfl | rfl | rfl | rfl | rfl | rfl
  all_goals exact ⟨_, _, rfl, by decide, fun _ => ⟨_, _, rfl, by decide⟩⟩

/-- No word is at the front of a numeral. -/
theorem NumeralAt.find?_words (h : NumeralAt t negative whole fraction exponent rest) :
    words.find? (fun (w, _) => w.isPrefixOf t) = none := by
  rw [List.find?_eq_none]
  intro found hfound
  obtain ⟨c, r, hword, hc, hsecond⟩ := head_of_mem_words hfound
  obtain ⟨c', r', rfl, hc'⟩ := h.head
  show ¬ found.1.isPrefixOf (c' :: r') = true
  rw [hword, List.isPrefixOf_iff_prefix, List.cons_prefix_cons]
  rintro ⟨rfl, hprefix⟩
  -- A word starts with no digit, and behind a minus it goes on with none.
  rcases hc' with hdigit | ⟨hminus, d', s', rfl, hd'⟩
  · rw [hc] at hdigit
    cases hdigit
  · obtain ⟨d, s, rfl, hd⟩ := hsecond hminus
    rw [List.cons_prefix_cons] at hprefix
    rw [← hprefix.1, hd] at hd'
    cases hd'

/-- A word is found. -/
theorem find?_words (h : (w, v) ∈ words) (rest : Text) :
    words.find? (fun (u, _) => u.isPrefixOf (w ++ rest)) = some (w, v) := by
  simp only [words, List.mem_cons, List.not_mem_nil, or_false, Prod.mk.injEq] at h
  rcases h with ⟨rfl, rfl⟩ | ⟨rfl, rfl⟩ | ⟨rfl, rfl⟩ | ⟨rfl, rfl⟩ | ⟨rfl, rfl⟩ | ⟨rfl, rfl⟩ <;> rfl

/-- Members put into an object one after the other. -/
def putAll (done : List (Value × Value)) (ms : List (Text × Value)) : List (Value × Value) :=
  ms.foldl (fun done (key, v) => Value.put done (.text key) v) done

/-- An object is the mapping that its members make, one after the other. -/
theorem objectOf_eq (ms : List (Text × Value)) : objectOf ms = .mapping (putAll [] ms) := by
  rw [objectOf, Value.ofEntries, List.foldl_map, putAll]

/-- What a reader with some fuel comes to at a value, among items, and among members. -/
structure Sound (fuel : Nat) : Prop where
  /-- A value is spelled there, or a limit is exceeded in it. -/
  value : ∀ depth pos t, Finds (ValueAt depth t) (LimitAt depth t) (value fuel depth pos t)
  /-- The items are spelled there, behind those that are done. -/
  items : ∀ depth pos t done, Finds (fun v rest => ∃ vs, ItemsAt depth t vs rest ∧
    v = .list (done.reverse ++ vs)) (ItemsLimitAt depth t) (items fuel depth pos t done)
  /-- The members are spelled there, behind those that are done. -/
  members : ∀ depth pos t done, Finds (fun v rest => ∃ ms, MembersAt depth t ms rest ∧
    v = .mapping (putAll done ms)) (MembersLimitAt depth t) (members fuel depth pos t done)

/-- The opening brace is known by its number. -/
theorem eq_openBrace (h : c.val = 0x7b) : c = openBrace := by
  cases c
  simp only [openBrace, CodePoint.ofNat] at h ⊢
  simp [h]

/-- The closing brace is known by its number. -/
theorem eq_closeBrace (h : c.val = 0x7d) : c = closeBrace := by
  cases c
  simp only [closeBrace, CodePoint.ofNat] at h ⊢
  simp [h]

/-- A number is read to what is spelled there. -/
theorem finds_number (depth pos : Nat) (t : Text) :
    Finds (ValueAt depth t) (LimitAt depth t) (number pos t) := by
  by_cases h : ∃ negative whole fraction exponent rest,
      NumeralAt t negative whole fraction exponent rest
  · obtain ⟨negative, whole, fraction, exponent, rest, h⟩ := h
    obtain ⟨q, hnumber⟩ := h.number_eq pos
    rw [hnumber]
    split_ifs with hwhole hlong
    · obtain ⟨rfl, rfl⟩ := hwhole
      exact .inr (.long h hlong)
    · obtain ⟨rfl, rfl⟩ := hwhole
      exact .whole h (Nat.not_lt.mp hlong)
    · exact .decimal h (by rw [← not_and_or]; exact hwhole)
  · rw [number_eq_malformed (by simpa using h)]
    exact .malformed _ _

/-- What is read behind an opening brace is an object. -/
theorem Sound.object (ih : Sound fuel) (hw : IsBlank w) (depth pos : Nat) (u : Text) :
    Finds (ValueAt (depth + 1) (openBrace :: (w ++ u)))
      (LimitAt (depth + 1) (openBrace :: (w ++ u))) (Json.members fuel depth pos u []) := by
  refine (ih.members depth pos u []).imp ?_ fun e h => .members hw h
  rintro v rest ⟨ms, hms, rfl⟩
  rw [← objectOf_eq]
  exact .object hw hms

/-- What is read behind an opening bracket is an array. -/
theorem Sound.array (ih : Sound fuel) (hw : IsBlank w) (depth pos : Nat) (u : Text) :
    Finds (ValueAt (depth + 1) (CodePoint.ofChar '[' :: (w ++ u)))
      (LimitAt (depth + 1) (CodePoint.ofChar '[' :: (w ++ u)))
      (Json.items fuel depth pos u []) := by
  refine (ih.items depth pos u []).imp ?_ fun e h => .items hw h
  rintro v rest ⟨vs, hvs, rfl⟩
  exact .list hw hvs

/-- With more fuel a value is found as it is spelled. -/
theorem Sound.value_succ (ih : Sound fuel) (depth pos : Nat) (t : Text) :
    Finds (ValueAt depth t) (LimitAt depth t) (Json.value (fuel + 1) depth pos t) := by
  rw [Json.value.eq_def]
  dsimp only
  -- A text without a code point has no value.
  split
  · exact .malformed _ _
  · rename_i c r
    split_ifs with hquote hbrace hbracket
    · -- A string.
      rw [hquote]
      exact (finds_stringRest pos (pos + 1) r).bind (fun _ h => h.elim) fun s p rest h => .string h
    · -- An object.
      rw [eq_openBrace hbrace]
      cases depth with
      -- No level is left for the object.
      | zero => exact .inr (.object r)
      | succ depth =>
        obtain ⟨w, u, rfl, hw, -, hskip⟩ := exists_skipSpace (pos + 1) r
        simp only [hskip]
        split
        · rename_i d s'
          split_ifs with hclose
          · -- It is closed at once.
            rw [eq_closeBrace hclose]
            exact .emptyObject hw
          · -- Members follow, or the text ends.
            exact ih.object hw _ _ _
        · exact ih.object hw _ _ _
    · -- An array.
      rw [hbracket]
      cases depth with
      -- No level is left for the array.
      | zero => exact .inr (.list r)
      | succ depth =>
        obtain ⟨w, u, rfl, hw, -, hskip⟩ := exists_skipSpace (pos + 1) r
        simp only [hskip]
        split
        · rename_i d s'
          split_ifs with hclose
          · -- It is closed at once.
            rw [hclose]
            exact .emptyList hw
          · -- Items follow, or the text ends.
            exact ih.array hw _ _ _
        · exact ih.array hw _ _ _
    · -- A word or a numeral.
      split
      · -- The word that is found stands in front.
        rename_i found w v hfound
        have hprefix := List.find?_some hfound
        obtain ⟨rest, hrest⟩ := List.isPrefixOf_iff_prefix.mp hprefix
        rw [← hrest]
        have hdrop : (w ++ rest).drop w.length = rest := List.drop_left
        rw [hdrop]
        exact .word (List.mem_of_find?_eq_some hfound)
      · exact finds_number depth pos (c :: r)

/-- With more fuel the items are found as they are spelled. -/
theorem Sound.items_succ (ih : Sound fuel) (depth pos : Nat) (t : Text) (done : List Value) :
    Finds (fun v rest => ∃ vs, ItemsAt depth t vs rest ∧ v = .list (done.reverse ++ vs))
      (ItemsLimitAt depth t) (Json.items (fuel + 1) depth pos t done) := by
  rw [Json.items]
  -- The first item, and the blanks behind it.
  refine (ih.value depth pos t).bind (fun _ => .here) fun v p r hv => ?_
  obtain ⟨w, u, rfl, hw, -, hskip⟩ := exists_skipSpace p r
  simp only [hskip]
  split
  · exact .malformed _ _
  · rename_i c s
    split_ifs with hclose hcomma
    · -- A bracket: the item was the last one.
      rw [hclose] at hv
      exact ⟨[v], .last hw hv, by simp⟩
    · -- A comma: more items follow behind blanks.
      rw [hcomma] at hv
      obtain ⟨w', u, rfl, hw', -, hskip'⟩ := exists_skipSpace (p + w.length + 1) s
      simp only [hskip']
      refine (ih.items depth _ u (v :: done)).imp ?_ fun e h => .later hw hw' hv h
      rintro _ rest ⟨vs, hvs, rfl⟩
      exact ⟨v :: vs, .more hw hw' hv hvs, by simp⟩
    · exact .malformed _ _

/-- With more fuel the members are found as they are spelled. -/
theorem Sound.members_succ (ih : Sound fuel) (depth pos : Nat) (t : Text)
    (done : List (Value × Value)) :
    Finds (fun v rest => ∃ ms, MembersAt depth t ms rest ∧ v = .mapping (putAll done ms))
      (MembersLimitAt depth t) (Json.members (fuel + 1) depth pos t done) := by
  rw [Json.members.eq_def]
  dsimp only
  split
  · exact .malformed _ _
  · rename_i q r
    split_ifs with hquote
    · exact .malformed _ _
    obtain rfl := not_not.mp hquote
    -- The key, and the blanks in front of the colon.
    refine (finds_stringRest pos (pos + 1) r).bind (fun _ h => h.elim) fun key p r' hkey => ?_
    obtain ⟨w, u, rfl, hw, -, hskip⟩ := exists_skipSpace p r'
    simp only [hskip]
    split
    · exact .malformed _ _
    · rename_i c r'
      split_ifs with hcolon
      · exact .malformed _ _
      obtain rfl := not_not.mp hcolon
      -- The blanks behind the colon, and the value.
      obtain ⟨w', u, rfl, hw', -, hskip'⟩ := exists_skipSpace (p + w.length + 1) r'
      simp only [hskip']
      have hkeyAt : KeyAt (CodePoint.ofChar '"' :: r) key u := ⟨r, w, w', rfl, hkey, hw, hw'⟩
      refine (ih.value depth _ u).bind (fun _ => .here hkeyAt) fun v p r' hv => ?_
      obtain ⟨w, t', rfl, hw, -, hskip⟩ := exists_skipSpace p r'
      simp only [hskip]
      split
      · exact .malformed _ _
      · rename_i c s
        split_ifs with hclose hcomma
        · -- A brace: the member was the last one.
          rw [eq_closeBrace hclose] at hv
          exact ⟨[(key, v)], .last hkeyAt hw hv, rfl⟩
        · -- A comma: more members follow behind blanks.
          rw [hcomma] at hv
          obtain ⟨w', t', rfl, hw', -, hskip'⟩ := exists_skipSpace (p + w.length + 1) s
          simp only [hskip']
          refine (ih.members depth _ t' (Value.put done (.text key) v)).imp ?_ fun e h =>
            .later hkeyAt hw hw' hv h
          rintro _ rest ⟨ms, hms, rfl⟩
          exact ⟨(key, v) :: ms, .more hkeyAt hw hw' hv hms, rfl⟩
        · exact .malformed _ _

/-- Whatever the fuel, what is found is spelled there. -/
theorem sound (fuel : Nat) : Sound fuel := by
  induction fuel with
  | zero =>
    refine ⟨fun _ _ _ => ?_, fun _ _ _ _ => ?_, fun _ _ _ _ => ?_⟩
    · rw [Json.value]
      exact .malformed _ _
    · rw [Json.items]
      exact .malformed _ _
    · rw [Json.members]
      exact .malformed _ _
  | succ fuel ih => exact ⟨ih.value_succ, ih.items_succ, ih.members_succ⟩

end RemoteRead.Json
