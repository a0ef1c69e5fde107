import RemoteRead.Proofs.Json.Grammar
import RemoteRead.Proofs.Outcome
import RemoteRead.Proofs.Text.Trim

/-!
# Reading the tokens of JSON

Blanks, strings and numerals are read as the grammar spells them. For each there are two facts: what
is read is spelled there (`finds_stringRest`, `number_eq_malformed`), and what is spelled there is
read (`StringAt.stringRest_eq`, `NumeralAt.number_eq`), with the text behind it left over.

Positions matter to error messages only, so the statements leave open where a reading stops.
-/

namespace RemoteRead.Json

open Outcome
open Text (span_append head?_dropWhile_eq_false)

variable {pos : Nat} {c : CodePoint} {s t u w ds whole fraction rest : Text}
  {v : Value} {e : ReadError} {negative : Bool} {exponent : Option Int}

/-! ## What a reader finds -/

/-- An error that tells of a malformed text, not of a limit. -/
def ReadError.IsMalformed (e : ReadError) : Prop :=
  ∃ reason position, e = .malformed reason position

/-- What a reader comes to: something that is spelled as `good` says, a malformed place, or a limit
that is exceeded. -/
def Finds {α : Type} (good : α → Text → Prop) (limit : ReadError → Prop) :
    Except ReadError (α × Nat × Text) → Prop
  | .ok (a, _, rest) => good a rest
  | .error e => e.IsMalformed ∨ limit e

section Finds

variable {α β : Type} {good : α → Text → Prop} {good' : β → Text → Prop}
  {limit limit' : ReadError → Prop}

/-- A malformed text is an admitted outcome of every reading. -/
theorem Finds.malformed (reason : Text) (position : Nat) :
    Finds good limit (.error (.malformed reason position)) := .inl ⟨reason, position, rfl⟩

/-- What is found may be said in another way. -/
theorem Finds.imp {good' : α → Text → Prop} {x : Except ReadError (α × Nat × Text)}
    (hx : Finds good limit x) (hgood : ∀ a rest, good a rest → good' a rest)
    (hlimit : ∀ e, limit e → limit' e) : Finds good' limit' x := by
  cases x with
  | error e => exact hx.imp_right (hlimit e)
  | ok found => exact hgood _ _ hx

/-- In a sequence the second reader goes on where the first one stopped. -/
theorem Finds.bind {x : Except ReadError (α × Nat × Text)}
    {f : α × Nat × Text → Except ReadError (β × Nat × Text)} (hx : Finds good limit x)
    (hlimit : ∀ e, limit e → limit' e)
    (hf : ∀ a p rest, good a rest → Finds good' limit' (f (a, p, rest))) :
    Finds good' limit' (x >>= f) := by
  cases x with
  | error e => exact hx.imp_right (hlimit e)
  | ok found =>
    obtain ⟨a, p, rest⟩ := found
    exact hf a p rest hx

end Finds

/-! ## Blanks and digits -/

/-- What stands behind blanks, if it starts with none. -/
theorem skipSpace_append (hw : IsBlank w) (ht : ∀ c ∈ t.head?, isSpace c = false) (pos : Nat) :
    skipSpace pos (w ++ t) = (pos + w.length, t) := by
  obtain ⟨htake, hdrop⟩ := span_append hw ht
  rw [skipSpace, htake, hdrop]

/-- A text is blanks and what they are skipped to. -/
theorem exists_skipSpace (pos : Nat) (t : Text) : ∃ w u, t = w ++ u ∧ IsBlank w ∧
    (∀ c ∈ u.head?, isSpace c = false) ∧ skipSpace pos t = (pos + w.length, u) :=
  ⟨t.takeWhile isSpace, t.dropWhile isSpace, (List.takeWhile_append_dropWhile ..).symm,
    fun _ hc => List.mem_takeWhile_imp hc, head?_dropWhile_eq_false isSpace t, rfl⟩

/-- Digits are read as far as they go. -/
theorem takeWhile_digits (hds : IsDigits ds) (ht : NoDigit t) :
    (ds ++ t).takeWhile CodePoint.isDigit = ds ∧ (ds ++ t).dropWhile CodePoint.isDigit = t :=
  span_append hds.2 ht

/-- Digits at the front of a text, as far as they go. -/
theorem exists_digits (h : t.takeWhile CodePoint.isDigit ≠ []) :
    ∃ rest, t = t.takeWhile CodePoint.isDigit ++ rest ∧
      IsDigits (t.takeWhile CodePoint.isDigit) ∧ NoDigit rest :=
  ⟨_, (List.takeWhile_append_dropWhile ..).symm, ⟨h, fun _ hc => List.mem_takeWhile_imp hc⟩,
    head?_dropWhile_eq_false CodePoint.isDigit t⟩

/-! ## Strings -/

/-- A string is closed. -/
theorem StringAt.ne_nil (h : StringAt t s rest) : t ≠ [] := by
  rintro rfl
  cases h

/-- An escape by number has its four digits, and they are not the end. -/
theorem StringAt.exists_hex4
    (h : StringAt (CodePoint.ofChar '\\' :: CodePoint.ofChar 'u' :: t) s rest) :
    (∃ n, hex4 t = some n) ∧ 4 < t.length := by
  have hlong {u : Text} (hu : t.drop 4 = u) (hne : u ≠ []) : 4 < t.length := by
    have hpos := List.length_pos_of_ne_nil (hu ▸ hne)
    rw [List.length_drop] at hpos
    omega
  cases h with
  | plain _ hslash => exact absurd rfl hslash
  | short he =>
    have hnone : shortEscape (CodePoint.ofChar 'u') = none := by decide
    cases hnone.symm.trans he
  | pair hn _ hm h =>
    obtain ⟨u, hu, -⟩ := hm
    exact ⟨⟨_, hn⟩, hlong hu (List.cons_ne_nil _ _)⟩
  | number hn _ h => exact ⟨⟨_, hn⟩, hlong rfl h.ne_nil⟩

/-- The marks of an escape by number. -/
theorem eq_cons_of_take (h : t.take 2 = Text.ofString "\\u") :
    t = CodePoint.ofChar '\\' :: CodePoint.ofChar 'u' :: t.drop 2 := by
  calc t = t.take 2 ++ t.drop 2 := (List.take_append_drop 2 t).symm
    _ = CodePoint.ofChar '\\' :: CodePoint.ofChar 'u' :: t.drop 2 := by rw [h]; rfl

/-- What a string is read to is spelled there. -/
theorem finds_stringRest (start pos : Nat) (t : Text) :
    Finds (StringAt t) (fun _ => False) (stringRest start pos t) := by
  fun_induction stringRest start pos t with
  | case1 | case3 => exact .malformed _ _
  | case2 pos rest => exact .close rest
  | case4 | case5 | case6 | case10 | case12 => exact .malformed _ _
  | case7 pos t hlength n hn first hpair m hm htrailing _ ih =>
    -- The escapes of two surrogates.
    simp only [Bool.and_eq_true, decide_eq_true_eq, beq_iff_eq] at hpair
    obtain ⟨⟨hleading, -⟩, hescape⟩ := hpair
    refine ih.bind (fun _ => id) fun s p rest h =>
      .pair hn hleading ⟨t.drop 6, ?_, hm, htrailing, ?_⟩ h
    · simpa using eq_cons_of_take hescape
    · simp
  | case8 pos t hlength n hn first hpair m hm htrailing _ ih =>
    -- The second escape is of no trailing surrogate.
    simp only [Bool.and_eq_true, decide_eq_true_eq, beq_iff_eq] at hpair
    refine ih.bind (fun _ => id) fun s p rest h => .number hn (fun _ m' u hu => ?_) h
    obtain ⟨u', hu', hm', htrailing', -⟩ := hu
    obtain rfl : t.drop 6 = u' := by
      have hcons := (eq_cons_of_take hpair.2).symm.trans hu'
      simpa using hcons
    obtain rfl := Option.some.inj (hm.symm.trans hm')
    exact htrailing htrailing'
  | case9 pos t hlength n hn first hpair _ ih =>
    -- There is no second escape, or nothing behind its digits.
    refine ih.bind (fun _ => id) fun s p rest h => .number hn (fun hleading m u hu => ?_) h
    obtain ⟨u', hu', -⟩ := hu
    rw [hu'] at h
    have hlong : 10 < t.length := by
      have hlength' := congrArg List.length hu'
      rw [List.length_drop, List.length_cons, List.length_cons] at hlength'
      have := h.exists_hex4.2
      omega
    refine hpair ?_
    simp only [Bool.and_eq_true, decide_eq_true_eq, beq_iff_eq]
    exact ⟨⟨hleading, hlong⟩, by rw [hu']; rfl⟩
  | case11 pos e t _ d he _ ih =>
    exact ih.bind (fun _ => id) fun s p rest h => .short he h
  | case13 pos c t hquote hslash hcontrol ih =>
    exact ih.bind (fun _ => id) fun s p rest h => .plain hquote hslash (by omega) h

/-! ### One step of a string

Each step is read in front of what is read behind it. -/

variable {start q n m : Nat}

/-- A code point that stands for itself is read in front of the rest. -/
theorem stringRest_plain (hquote : c ≠ CodePoint.ofChar '"') (hslash : c ≠ CodePoint.ofChar '\\')
    (hcontrol : 0x20 ≤ c.val) (h : stringRest start (pos + 1) t = .ok (s, q, rest)) :
    stringRest start pos (c :: t) = .ok (c :: s, q, rest) := by
  rw [stringRest.eq_def]
  simp only [if_neg hquote, if_neg hslash, if_neg (Nat.not_lt.mpr hcontrol), h]
  rfl

/-- A short escape is read in front of the rest. -/
theorem stringRest_short {e : CodePoint} (he : shortEscape e = some c)
    (h : stringRest start (pos + 2) t = .ok (s, q, rest)) :
    stringRest start pos (CodePoint.ofChar '\\' :: e :: t) = .ok (c :: s, q, rest) := by
  have hquote : CodePoint.ofChar '\\' ≠ CodePoint.ofChar '"' := by decide
  have hu : e ≠ CodePoint.ofChar 'u' := by
    rintro rfl
    cases (show shortEscape (CodePoint.ofChar 'u') = none by decide).symm.trans he
  rw [stringRest.eq_def]
  simp only [if_neg hquote, if_true, if_neg hu, he, h]
  rfl

/-- The escapes of a surrogate pair are read as one code point. -/
theorem stringRest_pair (hn : hex4 t = some n)
    (hleading : (CodePoint.ofNat n).isLeadingSurrogate = true) (hm : TrailingAt (t.drop 4) m u)
    (hu : u ≠ []) (h : stringRest start (pos + 12) u = .ok (s, q, rest)) :
    stringRest start pos (CodePoint.ofChar '\\' :: CodePoint.ofChar 'u' :: t) =
      .ok (CodePoint.ofNat (0x10000 + (n - 0xd800) * 0x400 + (m - 0xdc00)) :: s, q, rest) := by
  have hquote : CodePoint.ofChar '\\' ≠ CodePoint.ofChar '"' := by decide
  obtain ⟨u', hu', hm, htrailing, rfl⟩ := hm
  have hdrop : t.drop 6 = u' := by
    rw [show 6 = 4 + 2 from rfl, ← List.drop_drop, hu']
    rfl
  have hdrop' : t.drop 10 = u'.drop 4 := by
    rw [show 10 = 6 + 4 from rfl, ← List.drop_drop, hdrop]
  -- The digits of the second escape are not the end.
  have hlong : 10 < t.length := by
    have hpos := List.length_pos_of_ne_nil hu
    rw [← hdrop', List.length_drop] at hpos
    omega
  have hpair : ((CodePoint.ofNat n).isLeadingSurrogate && decide (10 < t.length) &&
      (t.drop 4).take 2 == Text.ofString "\\u") = true := by
    simp only [Bool.and_eq_true, decide_eq_true_eq, beq_iff_eq]
    exact ⟨⟨hleading, hlong⟩, by rw [hu']; rfl⟩
  rw [stringRest.eq_def]
  simp only [if_neg hquote, if_true, if_neg (show ¬ t.length ≤ 4 by omega), hn, hpair, hdrop, hm,
    htrailing, hdrop', h]
  rfl

/-- An escape by number that begins no pair is read as its own code point. -/
theorem stringRest_number (hn : hex4 t = some n)
    (hsingle : (CodePoint.ofNat n).isLeadingSurrogate = true → ∀ m u, ¬ TrailingAt (t.drop 4) m u)
    (hspelled : StringAt (t.drop 4) s rest)
    (h : stringRest start (pos + 6) (t.drop 4) = .ok (s, q, rest)) :
    stringRest start pos (CodePoint.ofChar '\\' :: CodePoint.ofChar 'u' :: t) =
      .ok (CodePoint.ofNat n :: s, q, rest) := by
  have hquote : CodePoint.ofChar '\\' ≠ CodePoint.ofChar '"' := by decide
  -- The string goes on behind the four digits, at least to its closing quote.
  have hlong : ¬ t.length ≤ 4 := by
    have hpos := List.length_pos_of_ne_nil hspelled.ne_nil
    rw [List.length_drop] at hpos
    omega
  rw [stringRest.eq_def]
  simp only [if_neg hquote, if_true, if_neg hlong, hn]
  split_ifs with hpair
  · -- Another escape follows, but not of a trailing surrogate.
    simp only [Bool.and_eq_true, decide_eq_true_eq, beq_iff_eq] at hpair
    have hescape : t.drop 4 = CodePoint.ofChar '\\' :: CodePoint.ofChar 'u' :: t.drop 6 := by
      simpa using eq_cons_of_take hpair.2
    obtain ⟨m, hm⟩ := (hescape ▸ hspelled).exists_hex4.1
    have htrailing : ¬ (CodePoint.ofNat m).isTrailingSurrogate = true := fun htrailing =>
      hsingle hpair.1.1 m _ ⟨t.drop 6, hescape, hm, htrailing, rfl⟩
    simp only [hm, if_neg htrailing, h]
    rfl
  · simp only [h]
    rfl

/-- A spelled string is read. -/
theorem StringAt.stringRest_eq (h : StringAt t s rest) (start : Nat) :
    ∀ pos, ∃ q, stringRest start pos t = .ok (s, q, rest) := by
  induction h with
  | close rest =>
    intro pos
    refine ⟨pos + 1, ?_⟩
    rw [stringRest.eq_def]
    rfl
  | plain hquote hslash hcontrol _ ih =>
    intro pos
    obtain ⟨q, ih⟩ := ih (pos + 1)
    exact ⟨q, stringRest_plain hquote hslash hcontrol ih⟩
  | short he _ ih =>
    intro pos
    obtain ⟨q, ih⟩ := ih (pos + 2)
    exact ⟨q, stringRest_short he ih⟩
  | pair hn hleading hm h ih =>
    intro pos
    obtain ⟨q, ih⟩ := ih (pos + 12)
    exact ⟨q, stringRest_pair hn hleading hm h.ne_nil ih⟩
  | number hn hsingle h ih =>
    intro pos
    obtain ⟨q, ih⟩ := ih (pos + 6)
    exact ⟨q, stringRest_number hn hsingle h ih⟩

/-- A string is not empty: its quote at least is passed over. -/
theorem StringAt.length_lt (h : StringAt t s rest) : rest.length < t.length := by
  induction h with
  | close => simp
  | plain _ _ _ _ ih => simp only [List.length_cons]; omega
  | short _ _ ih => simp only [List.length_cons]; omega
  | pair _ _ hm _ ih =>
    obtain ⟨u', hu', -, -, rfl⟩ := hm
    have hlength := congrArg List.length hu'
    simp only [List.length_cons, List.length_drop] at hlength ih ⊢
    omega
  | number _ _ _ ih =>
    simp only [List.length_cons, List.length_drop] at ih ⊢
    omega

/-! ## Numerals -/

/-- The sign of a numeral and what stands behind it. -/
def signPart (t : Text) : Bool × Text :=
  match t with
  | c :: r => if c = CodePoint.ofChar '-' then (true, r) else (false, t)
  | [] => (false, t)

/-- The whole part of a numeral. -/
def wholePart (t : Text) : Text :=
  match t with
  | c :: _ => if c = CodePoint.ofChar '0' then [c] else t.takeWhile CodePoint.isDigit
  | [] => []

/-- A numeral is read part by part. -/
theorem number_eq (pos : Nat) (t : Text) : number pos t =
    let (negative, body) := signPart t
    if (wholePart body).isEmpty then .error (.malformed "Expecting value" pos)
    else
      let (fraction, rest) := fractionPart (body.drop (wholePart body).length)
      match fraction, exponentPart rest with
      | [], none =>
        if Number.maxDigits < (wholePart body).length then .error (.tooLong (wholePart body).length)
        else
          .ok (.int (wholeNumber negative (wholePart body)), pos + (t.length - rest.length), rest)
      | _, e =>
        let (exponent, width) := e.getD (0, 0)
        .ok (.float (Binary64.ofDecimal negative (Number.digitsVal (wholePart body ++ fraction))
            (exponent - fraction.length)),
          pos + (t.length - (rest.drop width).length), rest.drop width) := rfl

/-- The sign is read. -/
theorem SignAt.signPart_eq (h : SignAt t negative u) : signPart t = (negative, u) := by
  cases h with
  | minus => rfl
  | absent h =>
    cases t with
    | nil => rfl
    | cons c r => exact if_neg (by simpa using h)

/-- The whole part is read. -/
theorem WholeAt.wholePart_eq (h : WholeAt t whole rest) :
    wholePart t = whole ∧ whole ≠ [] ∧ t.drop whole.length = rest := by
  cases h with
  | zero => exact ⟨rfl, List.cons_ne_nil _ _, rfl⟩
  | digits hds hzero hrest =>
    obtain ⟨htake, -⟩ := takeWhile_digits hds hrest
    refine ⟨?_, hds.1, List.drop_left⟩
    obtain ⟨d, ds, rfl⟩ := List.exists_cons_of_ne_nil hds.1
    exact (if_neg (by simpa using hzero)).trans htake

/-- A digit starts a whole part. -/
theorem exists_wholeAt (h : wholePart t ≠ []) : ∃ rest, WholeAt t (wholePart t) rest := by
  unfold wholePart at h ⊢
  split at h
  · rename_i c r
    split_ifs at h ⊢ with hzero
    · rw [hzero]
      exact ⟨r, .zero r⟩
    · obtain ⟨rest, ht, hds, hrest⟩ := exists_digits h
      have hhead : ((c :: r).takeWhile CodePoint.isDigit).head? ≠ some (CodePoint.ofChar '0') := by
        rw [List.takeWhile_cons]
        split_ifs
        · simpa using hzero
        · simp
      exact ⟨rest, by simpa only [← ht] using WholeAt.digits hds hhead hrest⟩
  · exact absurd rfl h

/-- A fraction is read. -/
theorem FractionAt.fractionPart_eq (h : FractionAt t ds rest) : fractionPart t = (ds, rest) := by
  cases h with
  | point h =>
    obtain ⟨rfl, hds, hrest⟩ := h
    obtain ⟨htake, hdrop⟩ := takeWhile_digits hds hrest
    have hne : ds.isEmpty = false := by simpa using hds.1
    simp [fractionPart, htake, hdrop, hne]
  | absent h =>
    unfold fractionPart
    split
    · rename_i c r
      dsimp only
      split_ifs with hpoint
      · obtain ⟨rfl, hne⟩ := hpoint
        have hne' : r.takeWhile CodePoint.isDigit ≠ [] := by simpa using hne
        obtain ⟨rest, hr, hds, hrest⟩ := exists_digits hne'
        exact absurd ⟨congrArg _ hr, hds, hrest⟩ (h _ rest)
      · rfl
    · rfl

/-- What is taken as a sign is a minus, a plus or nothing. -/
theorem exists_takeSign (t : Text) :
    ∃ sign, t = sign ++ (Number.takeSign t).2 ∧ ∀ c ∈ sign, c ∈ Text.ofString "-+" := by
  cases t with
  | nil => exact ⟨[], rfl, List.forall_mem_nil _⟩
  | cons c r =>
    rw [Number.takeSign]
    split_ifs with hminus hplus
    · exact ⟨[c], rfl, by rw [hminus]; decide⟩
    · exact ⟨[c], rfl, by rw [hplus]; decide⟩
    · exact ⟨[], rfl, List.forall_mem_nil _⟩

/-- An exponent at the front is read. -/
theorem PowerAt.exponentPart_eq {x : Int} (h : PowerAt t x rest) :
    ∃ width, exponentPart t = some (x, width) ∧ t.drop width = rest := by
  obtain ⟨c, u, negative, ds, rfl, hc, hsign, hds, hrest, rfl⟩ := h
  obtain ⟨htake, -⟩ := takeWhile_digits hds hrest
  have hne : ds.isEmpty = false := by simpa using hds.1
  obtain ⟨sign, hu, -⟩ := exists_takeSign u
  rw [hsign] at hu
  refine ⟨1 + (u.length - (ds ++ rest).length) + ds.length, ?_, ?_⟩
  · simp only [exponentPart, if_pos hc, hsign, htake, hne, Bool.false_eq_true, if_false]
    rfl
  · have hwidth :
        1 + (u.length - (ds ++ rest).length) + ds.length = (c :: (sign ++ ds)).length := by
      rw [hu]
      simp only [List.length_cons, List.length_append]
      omega
    rw [hwidth, hu, ← List.append_assoc]
    show ((c :: (sign ++ ds)) ++ rest).drop (c :: (sign ++ ds)).length = rest
    exact List.drop_left

/-- Without an exponent at the front, none is read. -/
theorem exponentPart_eq_none (h : ∀ x rest, ¬ PowerAt t x rest) : exponentPart t = none := by
  unfold exponentPart
  split
  · rename_i c r
    dsimp only
    split_ifs with hc hempty
    · rfl
    · have hne : (Number.takeSign r).2.takeWhile CodePoint.isDigit ≠ [] := by simpa using hempty
      obtain ⟨rest, hr, hds, hrest⟩ := exists_digits hne
      exact absurd ⟨c, r, _, _, rfl, hc, Prod.ext rfl hr, hds, hrest, rfl⟩ (h _ rest)
    · rfl
  · rfl

/-- The exponent of a numeral is read. -/
theorem ExponentAt.exponentPart_eq (h : ExponentAt t exponent rest) :
    (exponentPart t).map (·.1) = exponent ∧ t.drop ((exponentPart t).getD (0, 0)).2 = rest := by
  cases h with
  | power h =>
    obtain ⟨width, hpart, hrest⟩ := h.exponentPart_eq
    rw [hpart]
    exact ⟨rfl, hrest⟩
  | absent h =>
    rw [exponentPart_eq_none h]
    exact ⟨rfl, rfl⟩

/-- What a numeral is read to: a whole number if it has neither fraction nor exponent, unless it is
too long, and else a double. -/
theorem NumeralAt.number_eq (h : NumeralAt t negative whole fraction exponent rest) (pos : Nat) :
    ∃ q, number pos t =
      if fraction = [] ∧ exponent = none then
        if Number.maxDigits < whole.length then .error (.tooLong whole.length)
        else .ok (.int (wholeNumber negative whole), q, rest)
      else .ok (.float (decimalNumber negative whole fraction exponent), q, rest) := by
  obtain ⟨t₁, t₂, t₃, hsign, hwhole, hfraction, hexponent⟩ := h
  obtain ⟨hwhole, hne, hdrop⟩ := hwhole.wholePart_eq
  obtain ⟨hpart, hrest⟩ := hexponent.exponentPart_eq
  have hne' : whole.isEmpty = false := by simpa using hne
  refine ⟨pos + (t.length - rest.length), ?_⟩
  rw [Json.number_eq, hsign.signPart_eq]
  simp only [hwhole, hne', hdrop, hfraction.fractionPart_eq, Bool.false_eq_true, if_false]
  -- Without an exponent the numeral is whole exactly when it has no fraction.
  cases hx : exponentPart t₃ with
  | none =>
    rw [hx] at hpart hrest
    obtain rfl := hpart
    obtain rfl := hrest
    cases fraction <;> rfl
  | some found =>
    rw [hx] at hpart hrest
    obtain rfl := hpart
    obtain rfl := hrest
    cases fraction <;> rfl

/-- Where no numeral stands, none is read. -/
theorem number_eq_malformed (h : ∀ negative whole fraction exponent rest,
    ¬ NumeralAt t negative whole fraction exponent rest) (pos : Nat) :
    number pos t = .error (.malformed "Expecting value" pos) := by
  -- Sign, fraction and exponent may be absent, so they are always found.
  have hsign : ∃ negative u, SignAt t negative u := by
    cases t with
    | nil => exact ⟨false, [], .absent (by simp)⟩
    | cons c r =>
      by_cases hc : c = CodePoint.ofChar '-'
      · exact ⟨true, r, hc ▸ .minus r⟩
      · exact ⟨false, c :: r, .absent (by simpa using hc)⟩
  obtain ⟨negative, u, hsign⟩ := hsign
  rw [Json.number_eq, hsign.signPart_eq]
  by_cases hwhole : wholePart u = []
  · simp [hwhole]
  · -- With a whole part the text spells a numeral after all.
    obtain ⟨t₂, hwhole⟩ := exists_wholeAt hwhole
    obtain ⟨fraction, t₃, hfraction⟩ : ∃ fraction t₃, FractionAt t₂ fraction t₃ := by
      by_cases hpoint : ∃ ds rest, PointAt t₂ ds rest
      · obtain ⟨ds, rest, hpoint⟩ := hpoint
        exact ⟨ds, rest, .point hpoint⟩
      · exact ⟨[], t₂, .absent (by simpa using hpoint)⟩
    obtain ⟨exponent, rest, hexponent⟩ : ∃ exponent rest, ExponentAt t₃ exponent rest := by
      by_cases hpower : ∃ x rest, PowerAt t₃ x rest
      · obtain ⟨x, rest, hpower⟩ := hpower
        exact ⟨some x, rest, .power hpower⟩
      · exact ⟨none, t₃, .absent (by simpa using hpower)⟩
    exact absurd ⟨u, t₂, t₃, hsign, hwhole, hfraction, hexponent⟩ (h negative _ _ _ rest)

/-- What is left behind a sign is the end of the text. -/
theorem SignAt.exists_append (h : SignAt t negative rest) : ∃ u, t = u ++ rest := by
  cases h with
  | minus => exact ⟨[_], rfl⟩
  | absent => exact ⟨[], rfl⟩

/-- A whole part is the digits in front of what is left. -/
theorem WholeAt.eq_append (h : WholeAt t whole rest) : t = whole ++ rest := by
  cases h <;> rfl

/-- What is left behind a fraction is the end of the text. -/
theorem FractionAt.exists_append (h : FractionAt t fraction rest) : ∃ u, t = u ++ rest := by
  cases h with
  | point h => exact ⟨CodePoint.ofChar '.' :: fraction, h.1⟩
  | absent => exact ⟨[], rfl⟩

/-- What is left behind an exponent is the end of the text. -/
theorem ExponentAt.exists_append (h : ExponentAt t exponent rest) : ∃ u, t = u ++ rest := by
  cases h with
  | power h =>
    obtain ⟨c, u, negative, ds, rfl, -, hsign, -, -, -⟩ := h
    obtain ⟨sign, hu, -⟩ := exists_takeSign u
    exact ⟨c :: (sign ++ ds), by rw [hu, hsign]; simp⟩
  | absent => exact ⟨[], rfl⟩

/-- A numeral is cut off in front of what stands behind it. -/
theorem NumeralAt.length_le (h : NumeralAt t negative whole fraction exponent rest) :
    rest.length ≤ t.length := by
  obtain ⟨t₁, t₂, t₃, hsign, hwhole, hfraction, hexponent⟩ := h
  obtain ⟨u₁, rfl⟩ := hsign.exists_append
  obtain rfl := hwhole.eq_append
  obtain ⟨u₃, rfl⟩ := hfraction.exists_append
  obtain ⟨u₄, rfl⟩ := hexponent.exists_append
  simp only [List.length_append]
  omega

/-- The first code point of a numeral is a minus or a digit, and a digit follows a minus. -/
theorem NumeralAt.head (h : NumeralAt t negative whole fraction exponent rest) :
    ∃ c r, t = c :: r ∧ (c.isDigit = true ∨
      c = CodePoint.ofChar '-' ∧ ∃ d s, r = d :: s ∧ d.isDigit = true) := by
  obtain ⟨t₁, t₂, t₃, hsign, hwhole, -⟩ := h
  have hdigit : ∃ d s, t₁ = d :: s ∧ d.isDigit = true := by
    cases hwhole with
    | zero => exact ⟨_, _, rfl, by decide⟩
    | digits hds =>
      obtain ⟨hne, hall⟩ := hds
      obtain ⟨d, ds, rfl⟩ := List.exists_cons_of_ne_nil hne
      exact ⟨d, ds ++ t₂, rfl, hall d List.mem_cons_self⟩
  obtain ⟨d, s, rfl, hd⟩ := hdigit
  cases hsign with
  | minus => exact ⟨_, _, rfl, .inr ⟨rfl, d, s, rfl, hd⟩⟩
  | absent => exact ⟨d, s, rfl, .inl hd⟩

end RemoteRead.Json
