import Mathlib.Data.List.Basic
import Mathlib.Tactic.SplitIfs
import RemoteRead.Identifier
import RemoteRead.Text.Basic

/-!
# Statements as tokens

The store reads a statement as tokens: bare words, whole numbers, marks, names in backticks or
double quotes, and string literals in single quotes. Blanks separate tokens, `--` opens a comment up
to the end of its line, and `/*` one up to the next `*/`. Inside quotes a backslash takes the next
code point with it, and a quote written twice stands for itself. A quote or comment that is not
closed is a token of its own, up to the end of the statement.

Escapes by number do not occur in the statements of this library, and are read as they stand.

`lex` takes one token after the other off the front (`lex_cons`). `front` says which one that is,
and how many code points it takes.
-/

namespace RemoteRead.Sql

/-- A token of a statement. -/
inductive Token where
  /-- A bare word. -/
  | word (t : Text)
  /-- A whole number. -/
  | number (digits : Text)
  /-- A mark of one or two code points. -/
  | mark (t : Text)
  /-- A name in the given quotes. -/
  | name (quote : CodePoint) (t : Text)
  /-- A string literal, as the text that it denotes. -/
  | literal (value : Text)
  /-- A comment. -/
  | comment (t : Text)
  /-- A quote or comment that is not closed. -/
  | unterminated (t : Text)
deriving DecidableEq

/-! ## Classes of code points -/

/-- The quote around names. -/
def backtick : CodePoint := CodePoint.ofNat 0x60

/-- The quote around string literals. -/
def singleQuote : CodePoint := CodePoint.ofChar '\''

/-- What takes the next code point with it inside quotes. -/
def backslash : CodePoint := CodePoint.ofChar '\\'

/-- All quotes. -/
def quotes : List CodePoint := [singleQuote, CodePoint.ofChar '"', backtick]

/-- A blank between tokens. -/
def isBlank (c : CodePoint) : Bool := c.val == 0x20 || c.within 0x09 0x0d

/-- A code point of words and numbers. -/
def isWordChar (c : CodePoint) : Bool := Identifier.isFollowing c || c.val == 0x24

/-- The marks of two code points. -/
def pairs : List Text := ["!=", "<=", ">=", "<>", "==", "||", "->", "::"]

/-! ## Quoted text -/

/-- The controls that a backslash and a letter stand for. -/
def controls : List (CodePoint × CodePoint) := [
  (CodePoint.ofChar '0', CodePoint.ofNat 0),
  (CodePoint.ofChar 'a', CodePoint.ofNat 7),
  (CodePoint.ofChar 'b', CodePoint.ofNat 8),
  (CodePoint.ofChar 't', CodePoint.ofNat 9),
  (CodePoint.ofChar 'n', CodePoint.ofNat 10),
  (CodePoint.ofChar 'v', CodePoint.ofNat 11),
  (CodePoint.ofChar 'f', CodePoint.ofNat 12),
  (CodePoint.ofChar 'r', CodePoint.ofNat 13),
  (CodePoint.ofChar 'e', CodePoint.ofNat 27)]

/-- What a backslash and the code point behind it stand for: a control, the code point itself if it
is a quote, a backslash or a slash, and else both as they are. -/
def unescape (c : CodePoint) : Text :=
  match controls.lookup c with
  | some control => [control]
  | none => if c ∈ quotes ∨ c = backslash ∨ c = CodePoint.ofChar '/' then [c] else [backslash, c]

/-- The text behind an opening quote up to the quote that closes it, and how many code points both
take. -/
def quotedBody (quote : CodePoint) : Text → Option (Text × Nat)
  | [] => none
  | [c] => if c = quote then some ([], 1) else none
  | c :: d :: r =>
    if c = quote then
      if d = quote then (quotedBody quote r).map fun (t, n) => (quote :: t, n + 2)
      else some ([], 1)
    else if c = backslash then (quotedBody quote r).map fun (t, n) => (unescape d ++ t, n + 2)
    else (quotedBody quote (d :: r)).map fun (t, n) => (c :: t, n + 1)

/-- The token of a quoted text. -/
def quotedToken (quote : CodePoint) (t : Text) : Token :=
  if quote = singleQuote then .literal t else .name quote t

/-! ## Tokens -/

/-- The token of a run of word code points. -/
def runToken (t : Text) : Token := if t.all CodePoint.isDigit then .number t else .word t

/-- The token at the front of `c :: r`, none for a blank, and how many code points of `r` it
takes. -/
def front (c : CodePoint) (r : Text) : Option Token × Nat :=
  if isBlank c then (none, 0)
  else if isWordChar c then
    (some (runToken (c :: r.takeWhile isWordChar)), (r.takeWhile isWordChar).length)
  else if c ∈ quotes then
    match quotedBody c r with
    | some (t, n) => (some (quotedToken c t), n)
    | none => (some (.unterminated (c :: r)), r.length)
  else if c :: r.take 1 = Text.ofString "--" then
    let line := r.takeWhile (· ≠ CodePoint.ofChar '\n')
    (some (.comment (c :: line)), line.length)
  else if c :: r.take 1 = Text.ofString "/*" then
    match Text.cut? "*/" (r.drop 1) with
    | some (t, _) => (some (.comment t), t.length + 3)
    | none => (some (.unterminated (c :: r)), r.length)
  else if pairs.contains (c :: r.take 1) then (some (.mark (c :: r.take 1)), 1)
  else (some (.mark [c]), 0)

/-- The tokens of a text; `skip` counts the code points of a token that are still to be passed
over. -/
def lexFrom : Nat → Text → List Token
  | _, [] => []
  | skip + 1, _ :: r => lexFrom skip r
  | 0, c :: r => (front c r).1.toList ++ lexFrom (front c r).2 r

/-- The tokens of a statement. -/
def lex (t : Text) : List Token := lexFrom 0 t

/-- Passing over code points is dropping them. -/
theorem lexFrom_eq_lex_drop (n : Nat) (t : Text) : lexFrom n t = lex (t.drop n) := by
  induction n generalizing t with
  | zero => rfl
  | succ n ih =>
    cases t with
    | nil => rfl
    | cons c r => rw [lexFrom, ih, List.drop_succ_cons]

/-- A text has the token at its front, and then the tokens of what is behind it. -/
theorem lex_cons (c : CodePoint) (r : Text) :
    lex (c :: r) = (front c r).1.toList ++ lex (r.drop (front c r).2) := by
  rw [lex, lexFrom, lexFrom_eq_lex_drop]

example : lex "a != 'it''s' -- b" =
    [.word "a", .mark "!=", .literal "it's", .comment "-- b"] := rfl

example : lex "a = '\\'" = [.word "a", .mark "=", .unterminated "'\\'"] := rfl

/-! ## What a text may be followed by -/

/-- A text that cannot go on with a word, a number or a quoted text in front of it: it is empty, or
starts with neither a word code point nor a quote. -/
def Stops (t : Text) : Prop := ∀ c ∈ t.head?, isWordChar c = false ∧ c ∉ quotes

/-- Whether a text stops what is in front of it can be decided. -/
instance (t : Text) : Decidable (Stops t) :=
  inferInstanceAs (Decidable (∀ c ∈ t.head?, isWordChar c = false ∧ c ∉ quotes))

/-- The end of the text stops everything. -/
theorem stops_nil : Stops [] := by
  intro c hc
  simp at hc

/-- A text stops if its first part does, and is not empty. -/
theorem Stops.append_of_ne_nil {s : Text} (hs : Stops s) (hne : s ≠ []) (t : Text) :
    Stops (s ++ t) := by
  obtain ⟨c, r, rfl⟩ := List.exists_cons_of_ne_nil hne
  exact hs

/-- A text stops if both of its parts do. -/
theorem Stops.append {s t : Text} (hs : Stops s) (ht : Stops t) : Stops (s ++ t) := by
  rcases eq_or_ne s [] with rfl | hne
  · exact ht
  · exact hs.append_of_ne_nil hne t

/-- The run of word code points in front of a text that stops is all there is. -/
theorem takeWhile_append_of_stops {w rest : Text} (hw : ∀ c ∈ w, isWordChar c = true)
    (hrest : Stops rest) : (w ++ rest).takeWhile isWordChar = w := by
  rw [List.takeWhile_append_of_pos hw]
  cases rest with
  | nil => simp
  | cons c r =>
    obtain ⟨hc, -⟩ := hrest c rfl
    simp [hc]

/-- A word code point is no blank. -/
theorem isBlank_of_isWordChar {c : CodePoint} (h : isWordChar c = true) : isBlank c = false := by
  simp only [isWordChar, Identifier.isFollowing, CodePoint.isLetter, CodePoint.isDigit,
    CodePoint.within, Bool.or_eq_true, Bool.and_eq_true, decide_eq_true_eq, beq_iff_eq] at h
  simp only [isBlank, CodePoint.within, Bool.or_eq_false_iff, Bool.and_eq_false_iff,
    decide_eq_false_iff_not, beq_eq_false_iff_ne]
  omega

/-- A run of word code points in front of a text that stops is one token. -/
theorem lex_run {w rest : Text} (hne : w ≠ []) (hw : ∀ c ∈ w, isWordChar c = true)
    (hrest : Stops rest) : lex (w ++ rest) = runToken w :: lex rest := by
  obtain ⟨c, r, rfl⟩ := List.exists_cons_of_ne_nil hne
  obtain ⟨hc, hr⟩ := List.forall_mem_cons.mp hw
  have hfront : front c (r ++ rest) = (some (runToken (c :: r)), r.length) := by
    -- The run goes on as far as `r`, since the rest stops it.
    unfold front
    rw [if_neg (by simp [isBlank_of_isWordChar hc]), if_pos hc, takeWhile_append_of_stops hr hrest]
  rw [List.cons_append, lex_cons, hfront]
  simp

/-! ## Quoted tokens -/

/-- A closed quote is one token. -/
theorem lex_quoted {quote : CodePoint} (hquote : quote ∈ quotes) {r t : Text} {n : Nat}
    (hbody : quotedBody quote r = some (t, n)) :
    lex (quote :: r) = quotedToken quote t :: lex (r.drop n) := by
  have hclass : isBlank quote = false ∧ isWordChar quote = false := by
    have hall : ∀ q ∈ quotes, isBlank q = false ∧ isWordChar q = false := by decide
    exact hall quote hquote
  have hfront : front quote r = (some (quotedToken quote t), n) := by
    unfold front
    rw [if_neg (by simp [hclass.1]), if_neg (by simp [hclass.2]), if_pos hquote, hbody]
  rw [lex_cons, hfront]
  rfl

/-- A text that stops does not start with a quote. -/
theorem Stops.head?_ne {quote : CodePoint} (hquote : quote ∈ quotes) {t : Text} (ht : Stops t) :
    t.head? ≠ some quote := by
  intro hhead
  obtain ⟨-, hnot⟩ := ht quote hhead
  exact hnot hquote

/-- A quote that is not written twice closes. -/
theorem quotedBody_close {quote : CodePoint} {rest : Text} (hrest : rest.head? ≠ some quote) :
    quotedBody quote (quote :: rest) = some ([], 1) := by
  cases rest with
  | nil => simp [quotedBody]
  | cons d r =>
    have hne : d ≠ quote := fun h => hrest (congrArg some h)
    simp [quotedBody, hne]

/-- A quote that is written twice stands for itself. -/
theorem quotedBody_twice (quote : CodePoint) (r : Text) :
    quotedBody quote (quote :: quote :: r) =
      (quotedBody quote r).map fun (t, n) => (quote :: t, n + 2) := by
  simp [quotedBody]

/-- A code point that is neither the quote nor a backslash stands for itself. -/
theorem quotedBody_cons {quote c : CodePoint} (hquote : c ≠ quote) (hslash : c ≠ backslash)
    (r : Text) :
    quotedBody quote (c :: r) = (quotedBody quote r).map fun (t, n) => (c :: t, n + 1) := by
  cases r with
  | nil => simp [quotedBody, hquote]
  | cons d r => simp [quotedBody, hquote, hslash]

/-- A backslash and the code point behind it stand for what they are an escape of. -/
theorem quotedBody_escape {quote : CodePoint} (hslash : backslash ≠ quote) (c : CodePoint)
    (r : Text) :
    quotedBody quote (backslash :: c :: r) =
      (quotedBody quote r).map fun (t, n) => (unescape c ++ t, n + 2) := by
  simp [quotedBody, hslash]

end RemoteRead.Sql
