import RemoteRead.Json.Writer
import RemoteRead.Proofs.Json.Object

/-!
# Flat objects are read back

A flat object, whose keys and values are texts, is written without blanks and read back as it was
(`read_document`), whatever the texts hold, as long as its keys are distinct. What is written is
spelled as the grammar has it, and what is spelled is read. Quotes, backslashes and controls are the
code points that need an escape: `escape_cases` says which of three forms a code point takes between
quotes, and `stringAt_escaped` is by induction on the text, up to the closing quote.
`membersAt_entries` is by induction on the entries.
-/

namespace RemoteRead

/-- The entries of a mapping from texts to texts. -/
def Value.textEntries (pairs : List (Text × Text)) : List (Value × Value) :=
  pairs.map fun (key, value) => (.text key, .text value)

/-- The mapping from texts to texts with the given entries, in their order. -/
def Value.ofPairs (pairs : List (Text × Text)) : Value := .mapping (Value.textEntries pairs)

end RemoteRead

namespace RemoteRead.Json

variable {depth : Nat} {c : CodePoint} {s t rest : Text}

/-! ## Escapes -/

/-- The four digits of a control's escape denote the control. -/
theorem hex_control : ∀ n < 0x20, (Text.hex 4 n).length = 4 ∧
    (Text.hex 4 n).all CodePoint.isHexDigit = true ∧
    (Text.hex 4 n).foldl (fun v c => 16 * v + c.hexVal) 0 = n := by
  decide

/-- The four digits of a control are read back. -/
theorem hex4_control {n : Nat} (hn : n < 0x20) (t : Text) : hex4 (Text.hex 4 n ++ t) = some n := by
  obtain ⟨hlength, hdigits, hvalue⟩ := hex_control n hn
  have htake : (Text.hex 4 n ++ t).take 4 = Text.hex 4 n := List.take_left' hlength
  simp only [hex4, htake, hlength, hdigits, hvalue, and_self, if_true]

/-- A code point between quotes is a letter behind a backslash, a control by its number, or
itself. -/
theorem escape_cases (c : CodePoint) :
    (∃ e, shortEscape e = some c ∧ escape false c = [CodePoint.ofChar '\\', e]) ∨
    (c.val < 0x20 ∧ escape false c = unicodeEscape c.val) ∨
    (c ≠ CodePoint.ofChar '"' ∧ c ≠ CodePoint.ofChar '\\' ∧ ¬ c.val < 0x20 ∧
      escape false c = [c]) := by
  have hval {n : Nat} (hc : c.val = n) : some (CodePoint.ofNat n) = some c := by
    rw [← hc]
    simp [CodePoint.ofNat, c.val_lt]
  -- The tests stand in the order of `escape`: the seven short escapes, then control characters.
  by_cases hquote : c = CodePoint.ofChar '"'
  · exact .inl ⟨CodePoint.ofChar '"', by rw [hquote]; decide, if_pos hquote⟩
  rw [escape, if_neg hquote]
  by_cases hslash : c = CodePoint.ofChar '\\'
  · exact .inl ⟨CodePoint.ofChar '\\', by rw [hslash]; decide, if_pos hslash⟩
  rw [if_neg hslash]
  by_cases h8 : c.val = 0x08
  · exact .inl ⟨CodePoint.ofChar 'b', hval h8, if_pos h8⟩
  rw [if_neg h8]
  by_cases h9 : c.val = 0x09
  · exact .inl ⟨CodePoint.ofChar 't', hval h9, if_pos h9⟩
  rw [if_neg h9]
  by_cases ha : c.val = 0x0a
  · exact .inl ⟨CodePoint.ofChar 'n', hval ha, if_pos ha⟩
  rw [if_neg ha]
  by_cases hc : c.val = 0x0c
  · exact .inl ⟨CodePoint.ofChar 'f', hval hc, if_pos hc⟩
  rw [if_neg hc]
  by_cases hd : c.val = 0x0d
  · exact .inl ⟨CodePoint.ofChar 'r', hval hd, if_pos hd⟩
  rw [if_neg hd]
  by_cases hcontrol : c.val < 0x20
  · exact .inr (.inl ⟨hcontrol, if_pos hcontrol⟩)
  · rw [if_neg hcontrol]
    exact .inr (.inr ⟨hquote, hslash, hcontrol, rfl⟩)

/-! ## Strings -/

/-- An escaped code point is spelled in front of what is spelled behind it. -/
theorem stringAt_escape (c : CodePoint) (h : StringAt t s rest) :
    StringAt (escape false c ++ t) (c :: s) rest := by
  obtain ⟨e, he, hc⟩ | ⟨hcontrol, hc⟩ | ⟨hquote, hslash, hcontrol, hc⟩ := escape_cases c
  · rw [hc]
    exact .short he h
  · have hlength : (Text.hex 4 c.val).length = 4 := (hex_control c.val hcontrol).1
    have hof : CodePoint.ofNat c.val = c := by
      rw [CodePoint.ofNat, dif_pos c.val_lt]
    -- A control character is no surrogate, so its escape stands alone.
    have hleading : (CodePoint.ofNat c.val).isLeadingSurrogate = false := by
      rw [hof]
      simp only [CodePoint.isLeadingSurrogate, Bool.and_eq_false_iff, decide_eq_false_iff_not]
      omega
    have hrest : StringAt ((Text.hex 4 c.val ++ t).drop 4) s rest := by
      rwa [List.drop_left' hlength]
    have hnumber := StringAt.number (hex4_control hcontrol t)
      (fun hsurrogate => by cases hleading.symm.trans hsurrogate) hrest
    rw [hof] at hnumber
    rw [hc]
    exact hnumber
  · rw [hc]
    exact .plain hquote hslash (not_lt.mp hcontrol) h

/-- An escaped text is spelled up to the quote behind it. -/
theorem stringAt_escaped (t rest : Text) :
    StringAt (t.flatMap (escape false) ++ CodePoint.ofChar '"' :: rest) t rest := by
  induction t with
  | nil => exact .close rest
  | cons c t ih =>
    rw [List.flatMap_cons, List.append_assoc]
    exact stringAt_escape c ih

/-- A quoted text in front of another text. -/
theorem quote_append (t rest : Text) : quote false t ++ rest =
    CodePoint.ofChar '"' :: (t.flatMap (escape false) ++ CodePoint.ofChar '"' :: rest) := by
  simp [quote]

/-- A quoted text is spelled as a string, at any level. -/
theorem valueAt_quote (depth : Nat) (t rest : Text) :
    ValueAt depth (quote false t ++ rest) (.text t) rest := by
  rw [quote_append]
  exact .string (stringAt_escaped t rest)

/-- A quoted text with a colon behind it is spelled as a key. -/
theorem keyAt_quote (t rest : Text) :
    KeyAt (quote false t ++ CodePoint.ofChar ':' :: rest) t rest := by
  have hblank : IsBlank [] := List.forall_mem_nil _
  exact ⟨_, [], [], quote_append _ _, stringAt_escaped _ _, hblank, hblank⟩

/-! ## Objects -/

/-- An entry of a flat object. -/
def entryText (pair : Text × Text) : Text := quote false pair.1 ++ ":" ++ quote false pair.2

/-- The document of a flat object. -/
def document (pairs : List (Text × Text)) : Text :=
  "\x7b" ++ Text.join "," (pairs.map entryText) ++ "\x7d"

/-- The members of a flat object. -/
def textMembers (pairs : List (Text × Text)) : List (Text × Value) :=
  pairs.map fun (key, value) => (key, .text value)

/-- An entry is its quoted key, a colon and its quoted value. -/
theorem entryText_append (pair : Text × Text) (rest : Text) : entryText pair ++ rest =
    quote false pair.1 ++ CodePoint.ofChar ':' :: (quote false pair.2 ++ rest) := by
  simp [entryText, Text.ofString]

/-- The entries of an object are spelled up to the closing brace. -/
theorem membersAt_entries (depth : Nat) (rest : Text) (pair : Text × Text)
    (pairs : List (Text × Text)) :
    MembersAt depth (Text.join "," ((pair :: pairs).map entryText) ++ closeBrace :: rest)
      (textMembers (pair :: pairs)) rest := by
  have hblank : IsBlank [] := List.forall_mem_nil _
  induction pairs generalizing pair with
  | nil =>
    show MembersAt depth (entryText pair ++ closeBrace :: rest) _ rest
    rw [entryText_append]
    exact .last (keyAt_quote _ _) hblank (valueAt_quote _ _ _)
  | cons next pairs ih =>
    -- Behind the comma the other entries follow at once.
    have hjoin (u : Text) : Text.join "," ((pair :: next :: pairs).map entryText) ++ u =
        entryText pair ++ CodePoint.ofChar ',' ::
          (Text.join "," ((next :: pairs).map entryText) ++ u) := by
      simp [Text.join, Text.ofString]
    rw [hjoin, entryText_append]
    exact .more (keyAt_quote _ _) hblank hblank (valueAt_quote _ _ _) (ih next)

/-- A document is its entries between braces. -/
theorem document_eq (pairs : List (Text × Text)) : document pairs =
    openBrace :: (Text.join "," (pairs.map entryText) ++ [closeBrace]) := rfl

/-- The document of a flat object is an object of its members, and one level is enough for it. -/
theorem isObject_document (depth : Nat) (pairs : List (Text × Text)) :
    IsObject (depth + 1) (document pairs) (textMembers pairs) := by
  have hblank : IsBlank [] := List.forall_mem_nil _
  refine ⟨[], document pairs, [], rfl, hblank, ?_, hblank⟩
  rw [document_eq]
  cases pairs with
  | nil => exact .empty hblank
  | cons pair pairs => exact .members (w := []) hblank (membersAt_entries _ _ _ _)

/-- Members with texts make the entries of a mapping of texts. -/
theorem memberEntries_textMembers (pairs : List (Text × Text)) :
    memberEntries (textMembers pairs) = Value.textEntries pairs := by
  rw [memberEntries, textMembers, List.map_map]
  rfl

/-- Members with distinct keys make the mapping of the texts. -/
theorem objectOf_textMembers {pairs : List (Text × Text)} (hkeys : (pairs.map Prod.fst).Nodup) :
    objectOf (textMembers pairs) = Value.ofPairs pairs := by
  have hkeys' : ((textMembers pairs).map Prod.fst).Nodup := by
    simpa [textMembers, Function.comp_def] using hkeys
  rw [objectOf_eq_keptMembers, keptMembers_of_nodup hkeys', memberEntries_textMembers,
    Value.ofPairs]

/-- The document of a flat object without repeated keys is read back. -/
theorem read_document [Host] {pairs : List (Text × Text)} (hkeys : (pairs.map Prod.fst).Nodup)
    (use : DocumentUse) : read (document pairs) use = .ok (Value.ofPairs pairs) := by
  -- Every host leaves the one level that a flat object takes.
  obtain ⟨depth, hdepth⟩ := Nat.exists_eq_add_one.mpr (Host.depth_pos use)
  have hobject : IsObject (Host.depth use) (document pairs) (textMembers pairs) :=
    hdepth ▸ isObject_document depth pairs
  have hdocument : IsDocument (Host.depth use) (document pairs) (Value.ofPairs pairs) :=
    isDocument_mapping_iff.mpr ⟨_, hobject, objectOf_textMembers hkeys⟩
  exact hdocument.read_eq

/-- A flat object is written as its document. -/
theorem write_ofPairs (pairs : List (Text × Text)) :
    write compact (Value.ofPairs pairs) = .ok (document pairs) := by
  have hentries : writeEntries compact (Value.textEntries pairs) = .ok (pairs.map entryText) := by
    induction pairs with
    | nil => rfl
    | cons pair pairs ih =>
      rw [Value.textEntries, List.map_cons, writeEntries]
      simp only [keyText, write, bind, Except.bind]
      rw [← Value.textEntries, ih]
      rfl
  rw [Value.ofPairs, write, hentries]
  rfl

end RemoteRead.Json
