import RemoteRead.Proofs.Identifier
import RemoteRead.Proofs.Sql.Literal
import RemoteRead.Proofs.Text.Decimal

/-!
# Phrases of a statement

A phrase keeps its tokens wherever it stands: `Phrase t tokens` says that `t` is read as `tokens`
in front of every text that stops, whatever else that text holds. Identifiers, numbers, names in
backticks and string literals are phrases, and phrases with phrases behind them are again
(`Phrase.append`, `Phrase.join`). A fixed text that ends in a blank or a mark is an `Opening`: it
keeps its tokens in front of any text. One that starts so, too, is a `Separator`.

String literals carry the argument about values: in front of a text that stops, a literal is read
back to its value (`readLiteral?_quoteLiteral`).
-/

namespace RemoteRead.Sql

open Identifier (accepts acceptsWord dropLineFeed isPlain)

/-- The text is read as the tokens in front of every text. -/
def Opening (t : Text) (tokens : List Token) : Prop := ∀ rest, lex (t ++ rest) = tokens ++ lex rest

/-- The text is read as the tokens in front of every text that stops. -/
def Phrase (t : Text) (tokens : List Token) : Prop :=
  ∀ rest, Stops rest → lex (t ++ rest) = tokens ++ lex rest

variable {s t : Text} {tokens tokens' : List Token}

/-- A phrase alone is read as its tokens. -/
theorem Phrase.lex_eq (h : Phrase t tokens) : lex t = tokens := by
  have hnil := h [] stops_nil
  rw [List.append_nil] at hnil
  rw [hnil]
  exact List.append_nil tokens

/-- An opening is a phrase. -/
theorem Opening.phrase (h : Opening t tokens) : Phrase t tokens := fun rest _ => h rest

/-- An opening in front of a phrase. -/
theorem Opening.append (hs : Opening s tokens) (ht : Phrase t tokens') :
    Phrase (s ++ t) (tokens ++ tokens') := by
  intro rest hrest
  rw [List.append_assoc, hs, ht rest hrest, List.append_assoc]

/-- A phrase in front of a phrase that it stops at. -/
theorem Phrase.append (hs : Phrase s tokens) (hstops : Stops t) (ht : Phrase t tokens') :
    Phrase (s ++ t) (tokens ++ tokens') := by
  intro rest hrest
  rw [List.append_assoc, hs _ (hstops.append hrest), ht rest hrest, List.append_assoc]

/-- A separator keeps its tokens in front of every text, and every phrase stops at it. -/
structure Separator (t : Text) (tokens : List Token) : Prop where
  opening : Opening t tokens
  stops : Stops t
  ne_nil : t ≠ []

/-- Two phrases with a separator in between. -/
theorem Phrase.separate {u : Text} {separator : List Token} (hs : Phrase s tokens)
    (ht : Separator t separator) (hu : Phrase u tokens') :
    Phrase (s ++ (t ++ u)) (tokens ++ (separator ++ tokens')) := by
  have hstops : Stops (t ++ u) := ht.stops.append_of_ne_nil ht.ne_nil u
  exact hs.append hstops (ht.opening.append hu)

/-- A phrase and those behind it, each with the separator in front. -/
theorem Phrase.join {sep : Text} {separator : List Token} (hsep : Separator sep separator)
    {texts : List Text} {phrases : List (List Token)} (ht : Phrase t tokens)
    (h : List.Forall₂ Phrase texts phrases) :
    Phrase (Text.join sep (t :: texts)) (tokens ++ phrases.flatMap (separator ++ ·)) := by
  induction h generalizing t tokens with
  | nil => simpa [Text.join] using ht
  | cons hu _ ih =>
    have hjoined := ht.separate hsep (ih hu)
    simpa [Text.join] using hjoined

/-! ## Identifiers and numbers -/

/-- The code points of a plain identifier are word code points. -/
theorem isWordChar_of_isPlain (h : isPlain t = true) : ∀ c ∈ t, isWordChar c = true := by
  intro c hc
  rw [isWordChar, Identifier.isFollowing_of_isWord (Identifier.isWord_of_isPlain h) c hc,
    Bool.true_or]

/-- A plain identifier is a word. -/
theorem phrase_plain (h : isPlain t = true) : Phrase t [.word t] := by
  intro rest hrest
  have hne : t ≠ [] := by
    rintro rfl
    simp [isPlain] at h
  -- It is no number, because it does not start with a digit.
  have hword : runToken t = .word t := by
    obtain ⟨c, r, rfl⟩ := List.exists_cons_of_ne_nil hne
    simp only [isPlain, Bool.and_eq_true] at h
    have hdigit : c.isDigit = false := by
      have hc := h.1
      simp only [Identifier.isInitial, CodePoint.isLetter, CodePoint.within, Bool.or_eq_true,
        Bool.and_eq_true, decide_eq_true_eq, beq_iff_eq] at hc
      simp only [CodePoint.isDigit, CodePoint.within, Bool.and_eq_false_iff,
        decide_eq_false_iff_not]
      omega
    simp [runToken, hdigit]
  rw [lex_run hne (isWordChar_of_isPlain h) hrest, hword]
  rfl

/-- An accepted identifier is a word, up to a line feed at its end. -/
theorem phrase_identifier (h : accepts t = true) : Phrase t [.word (dropLineFeed t)] := by
  have hplain : Phrase (dropLineFeed t) [.word (dropLineFeed t)] := phrase_plain h
  rcases Identifier.eq_dropLineFeed_or t with heq | heq
  · rwa [← heq] at hplain ⊢
  · -- The line feed is a blank, which ends the word and has no token.
    have hblank : Opening [CodePoint.ofChar '\n'] [] := fun _ => rfl
    have hstops : Stops [CodePoint.ofChar '\n'] := by decide
    have hfed := hplain.append hstops hblank.phrase
    rw [← heq] at hfed
    exact hfed

/-- The decimal form of a natural number is a number. -/
theorem phrase_ofNat (n : Nat) : Phrase (Text.ofNat n) [.number (Text.ofNat n)] := by
  intro rest hrest
  have hdigit : ∀ c ∈ Text.ofNat n, c.isDigit = true := fun c => Text.isDigit_of_mem_ofNat
  have hword : ∀ c ∈ Text.ofNat n, isWordChar c = true := by
    intro c hc
    simp [isWordChar, Identifier.isFollowing, hdigit c hc]
  have htoken : runToken (Text.ofNat n) = .number (Text.ofNat n) :=
    if_pos (List.all_eq_true.mpr hdigit)
  rw [lex_run (Text.ofNat_ne_nil n) hword hrest, htoken]
  rfl

/-- The tokens of an integer: its sign, if it is negative, and its magnitude. -/
def integerTokens (n : Int) : List Token :=
  if n < 0 then [.mark "-", .number (Text.ofNat n.natAbs)] else [.number (Text.ofNat n.natAbs)]

/-- A sign in front of a digit is a mark. -/
theorem lex_minus {c : CodePoint} (hc : c.isDigit = true) (r : Text) :
    lex (CodePoint.ofChar '-' :: c :: r) = .mark "-" :: lex (c :: r) := by
  have hne : ∀ d ∈ [CodePoint.ofChar '-', CodePoint.ofChar '>'], c ≠ d := by
    have hall : ∀ d ∈ [CodePoint.ofChar '-', CodePoint.ofChar '>'], d.isDigit = false := by decide
    rintro d hd rfl
    rw [hall c hd] at hc
    exact Bool.noConfusion hc
  have hminus : c ≠ CodePoint.ofChar '-' := hne _ (by decide)
  have harrow : c ≠ CodePoint.ofChar '>' := hne _ (by decide)
  have hfront : front (CodePoint.ofChar '-') (c :: r) = (some (.mark "-"), 0) := by
    -- With a digit behind it, the sign opens no comment and starts no longer mark.
    have hcomment : CodePoint.ofChar '-' :: (c :: r).take 1 ≠ Text.ofString "--" := by
      simp [Text.ofString, hminus]
    have hblock : CodePoint.ofChar '-' :: (c :: r).take 1 ≠ Text.ofString "/*" := by
      intro h
      exact absurd (List.cons.inj h).1 (by decide)
    have hpair : ¬ pairs.contains (CodePoint.ofChar '-' :: (c :: r).take 1) = true := by
      intro h
      have hall : ∀ p ∈ pairs, p.head? = some (CodePoint.ofChar '-') →
          p = [CodePoint.ofChar '-', CodePoint.ofChar '>'] := by decide
      have heq := hall _ (List.contains_iff_mem.mp h) rfl
      exact harrow (List.cons.inj (List.cons.inj heq).2).1
    unfold front
    rw [if_neg (by decide), if_neg (by decide), if_neg (by decide), if_neg hcomment,
      if_neg hblock, if_neg hpair]
    rfl
  rw [lex_cons, hfront]
  rfl

/-- The decimal form of an integer. -/
theorem phrase_ofInt (n : Int) : Phrase (Text.ofInt n) (integerTokens n) := by
  unfold Text.ofInt integerTokens
  split_ifs with hsign
  · intro rest hrest
    obtain ⟨c, r, hdigits⟩ := List.exists_cons_of_ne_nil (Text.ofNat_ne_nil n.natAbs)
    have hc : c.isDigit = true := Text.isDigit_of_mem_ofNat (hdigits ▸ List.mem_cons_self)
    have hnumber := phrase_ofNat n.natAbs rest hrest
    rw [hdigits] at hnumber ⊢
    rw [List.cons_append, List.cons_append, lex_minus hc, ← List.cons_append, hnumber]
    rfl
  · exact phrase_ofNat n.natAbs

/-! ## Quoted phrases -/

/-- A text without backticks and backslashes. -/
def Unquoted (t : Text) : Prop := ∀ c ∈ t, c ≠ backtick ∧ c ≠ backslash

/-- Whether a text is unquoted can be decided. -/
instance (t : Text) : Decidable (Unquoted t) :=
  inferInstanceAs (Decidable (∀ c ∈ t, c ≠ backtick ∧ c ≠ backslash))

/-- Two unquoted texts in a row are unquoted. -/
theorem Unquoted.append (hs : Unquoted s) (ht : Unquoted t) : Unquoted (s ++ t) := by
  intro c hc
  rcases List.mem_append.mp hc with hc | hc
  · exact hs c hc
  · exact ht c hc

/-- An accepted word has neither. -/
theorem unquoted_of_acceptsWord (h : acceptsWord t = true) : Unquoted t := by
  have hfollowing : ∀ c, Identifier.isFollowing c = true → c ≠ backtick ∧ c ≠ backslash := by
    intro c hc
    constructor <;> rintro rfl <;> exact absurd hc (by decide)
  have hword : Unquoted (dropLineFeed t) := by
    simp only [acceptsWord, Identifier.isWord, Bool.and_eq_true, List.all_eq_true] at h
    exact fun c hc => hfollowing c (h.2 c hc)
  rcases Identifier.eq_dropLineFeed_or t with heq | heq
  · rw [heq]
    exact hword
  · rw [heq]
    exact hword.append (by decide)

/-- An accepted identifier has neither. -/
theorem unquoted_of_accepts (h : accepts t = true) : Unquoted t :=
  unquoted_of_acceptsWord (Identifier.acceptsWord_of_accepts h)

/-- A text in backticks is a name. -/
theorem phrase_inBackticks (h : Unquoted t) : Phrase (Metric.inBackticks t) [.name backtick t] := by
  intro rest hrest
  have hquote : backtick ∈ quotes := by decide
  have hbody : quotedBody backtick (t ++ backtick :: rest) = some (t, t.length + 1) := by
    induction t with
    | nil => exact quotedBody_close (hrest.head?_ne hquote)
    | cons c t ih =>
      obtain ⟨hc, ht⟩ := List.forall_mem_cons.mp h
      rw [List.cons_append, quotedBody_cons hc.1 hc.2, ih ht]
      rfl
  have htoken : quotedToken backtick t = .name backtick t := if_neg (by decide)
  have hlex := lex_quoted hquote hbody
  rw [htoken] at hlex
  simpa [Metric.inBackticks, backtick] using hlex

/-- A value as a string literal is one token that denotes the value. -/
theorem phrase_quoteLiteral (value : Text) : Phrase (quoteLiteral value) [.literal value] := by
  intro rest hrest
  exact lex_of_readLiteral? (readLiteral?_quoteLiteral value (hrest.head?_ne (by decide)))

end RemoteRead.Sql
