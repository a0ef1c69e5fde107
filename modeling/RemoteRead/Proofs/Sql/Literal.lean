import RemoteRead.Matcher
import RemoteRead.Proofs.Sql.Token

/-!
# String literals read back

`readLiteral?` takes the string literal off the front of a text, as the statements of the store are
read (`lex_of_readLiteral?`). What `quoteLiteral` writes is read back to the value, and nothing
behind the literal is touched: `literals_read_back`. The only texts behind a literal that spoil this
start with a single quote, which is read together with the closing one as a quote written twice.

The escaped text of a value is read through whatever stands behind it (`quotedBody_escaped`), by
induction on the value: one escaped code point at a time is read back to itself
(`quotedBody_literalEscape`). The one pass that escapes both marks does what two replacements do,
that of all backslashes and then that of all quotes (`quoteLiteral_eq_replace`).
-/

namespace RemoteRead.Sql

/-- The string literal at the front of a text: the text that it denotes, and what is behind it. -/
def readLiteral? : Text → Option (Text × Text)
  | [] => none
  | c :: r =>
    if c = singleQuote then (quotedBody singleQuote r).map fun (t, n) => (t, r.drop n) else none

/-- A text that starts with a string literal has its token in front of those of what is behind. -/
theorem lex_of_readLiteral? {t value rest : Text} (h : readLiteral? t = some (value, rest)) :
    lex t = .literal value :: lex rest := by
  cases t with
  | nil => simp [readLiteral?] at h
  | cons c r =>
    rw [readLiteral?] at h
    split_ifs at h with hc
    obtain ⟨⟨u, n⟩, hbody, heq⟩ := Option.map_eq_some_iff.mp h
    obtain ⟨rfl, rfl⟩ := Prod.mk.inj heq
    have htoken : quotedToken singleQuote u = .literal u := if_pos rfl
    rw [hc, lex_quoted (by decide) hbody, htoken]

/-! ## Escaped texts -/

/-- Backslashes and quotes get a backslash in front. -/
theorem literalEscape_of_escaped {c : CodePoint} (h : c = backslash ∨ c = singleQuote) :
    literalEscape c = [backslash, c] := if_pos h

/-- Any other code point stands for itself. -/
theorem literalEscape_of_plain {c : CodePoint} (hslash : c ≠ backslash) (hquote : c ≠ singleQuote) :
    literalEscape c = [c] := if_neg (not_or.mpr ⟨hslash, hquote⟩)

/-- A value as a string literal: its escaped text between quotes. -/
theorem quoteLiteral_eq (value : Text) :
    quoteLiteral value = singleQuote :: (value.flatMap literalEscape ++ [singleQuote]) := rfl

/-- Escaping is two replacements, that of the backslashes first: the backslashes that come with the
quotes are not escaped again. -/
theorem quoteLiteral_eq_replace (value : Text) :
    quoteLiteral value = singleQuote ::
      (Text.replace singleQuote [backslash, singleQuote]
        (Text.replace backslash [backslash, backslash] value) ++ [singleQuote]) := by
  have hne : backslash ≠ singleQuote := by decide
  -- The second replacement touches nothing that the first one wrote.
  have hreplace : Text.replace singleQuote [backslash, singleQuote]
      (Text.replace backslash [backslash, backslash] value) = value.flatMap literalEscape := by
    unfold Text.replace
    rw [List.flatMap_assoc]
    refine List.flatMap_congr fun c _ => ?_
    by_cases hslash : c = backslash
    · subst hslash
      rw [literalEscape_of_escaped (.inl rfl)]
      simp [hne]
    · by_cases hquote : c = singleQuote
      · subst hquote
        rw [literalEscape_of_escaped (.inr rfl)]
        simp [hslash]
      · rw [literalEscape_of_plain hslash hquote]
        simp [hslash, hquote]
  rw [quoteLiteral_eq, hreplace]

/-- An escaped code point is read back to itself, whatever is behind it. -/
theorem quotedBody_literalEscape (c : CodePoint) (r : Text) :
    quotedBody singleQuote (literalEscape c ++ r) =
      (quotedBody singleQuote r).map fun (t, n) => (c :: t, (literalEscape c).length + n) := by
  by_cases hescape : c = backslash ∨ c = singleQuote
  · -- A backslash in front of either of the two takes it as it is.
    have hself : unescape c = [c] := by
      rcases hescape with rfl | rfl <;> decide
    have hread := quotedBody_escape (by decide : backslash ≠ singleQuote) c r
    rw [literalEscape_of_escaped hescape, List.cons_append, List.singleton_append, hread, hself]
    simp [Nat.add_comm]
  · -- Any other code point closes nothing and escapes nothing.
    obtain ⟨hslash, hquote⟩ := not_or.mp hescape
    rw [literalEscape_of_plain hslash hquote, List.singleton_append,
      quotedBody_cons hquote hslash]
    simp [Nat.add_comm]

/-- The escaped text of a value is read back to the value, whatever is behind it. -/
theorem quotedBody_escaped (value r : Text) :
    quotedBody singleQuote (value.flatMap literalEscape ++ r) =
      (quotedBody singleQuote r).map fun (t, n) =>
        (value ++ t, (value.flatMap literalEscape).length + n) := by
  induction value with
  | nil => simp
  | cons c value ih =>
    rw [List.flatMap_cons, List.append_assoc, quotedBody_literalEscape, ih, Option.map_map]
    refine congrArg (Option.map · _) (funext fun (t, n) => ?_)
    simp [Nat.add_assoc]

/-- The escaped text of a value, closed by a quote, stands for the value. -/
theorem quotedBody_literal (value : Text) {rest : Text} (hrest : rest.head? ≠ some singleQuote) :
    quotedBody singleQuote (value.flatMap literalEscape ++ singleQuote :: rest) =
      some (value, (value.flatMap literalEscape).length + 1) := by
  rw [quotedBody_escaped, quotedBody_close hrest]
  simp

/-! ## Literals in front of other text -/

/-- A literal is read as its value up to its closing quote, unless another quote is behind it. -/
theorem readLiteral?_quoteLiteral (value : Text) {rest : Text}
    (hrest : rest.head? ≠ some singleQuote) :
    readLiteral? (quoteLiteral value ++ rest) = some (value, rest) := by
  have hbody := quotedBody_literal value hrest
  have htext : quoteLiteral value ++ rest =
      singleQuote :: (value.flatMap literalEscape ++ singleQuote :: rest) := by
    simp [quoteLiteral_eq]
  have hdrop : (value.flatMap literalEscape ++ singleQuote :: rest).drop
      ((value.flatMap literalEscape).length + 1) = rest := by
    rw [List.drop_append, List.drop_eq_nil_of_le (by omega)]
    simp
  rw [htext, readLiteral?, if_pos rfl, hbody]
  simp only [Option.map_some, hdrop]

/-- With a quote behind it the literal is not closed where it ends: what is left behind the one that
is read is shorter, if one is read at all. -/
theorem length_of_readLiteral?_quote {value rest t left : Text}
    (h : readLiteral? (quoteLiteral value ++ singleQuote :: rest) = some (t, left)) :
    left.length ≤ rest.length := by
  have htext : quoteLiteral value ++ singleQuote :: rest =
      singleQuote :: (value.flatMap literalEscape ++ singleQuote :: singleQuote :: rest) := by
    simp [quoteLiteral_eq]
  rw [htext, readLiteral?, if_pos rfl, quotedBody_escaped, quotedBody_twice, Option.map_map,
    Option.map_map] at h
  obtain ⟨⟨u, n⟩, -, hread⟩ := Option.map_eq_some_iff.mp h
  obtain ⟨-, rfl⟩ := Prod.mk.inj hread
  simp only [List.length_drop, List.length_append, List.length_cons]
  omega

/-- A value as a string literal is read back to the value with exactly the text behind the literal
left over, if and only if that text does not start with a single quote; so no two values have the
same literal. -/
theorem literals_read_back :
    (∀ value rest : Text, readLiteral? (quoteLiteral value ++ rest) = some (value, rest) ↔
      rest.head? ≠ some singleQuote) ∧
    Function.Injective quoteLiteral := by
  constructor
  · intro value rest
    constructor
    · intro hread hhead
      obtain ⟨c, r, rfl⟩ : ∃ c r, rest = c :: r := by
        cases rest with
        | nil => simp at hhead
        | cons c r => exact ⟨c, r, rfl⟩
      obtain rfl : c = singleQuote := Option.some.inj hhead
      -- Read together with a doubled quote, the literal would be longer than it is.
      have hlength := length_of_readLiteral?_quote hread
      simp only [List.length_cons] at hlength
      omega
    · exact readLiteral?_quoteLiteral value
  · intro value value' h
    have hnil : ([] : Text).head? ≠ some singleQuote := by simp
    -- The text that reads back is the value, so equal literals have equal values.
    have hread := readLiteral?_quoteLiteral value hnil
    have hread' := readLiteral?_quoteLiteral value' hnil
    rw [h] at hread
    obtain ⟨hvalue, -⟩ := Prod.mk.inj (Option.some.inj (hread.symm.trans hread'))
    exact hvalue

example : readLiteral? (quoteLiteral "a" ++ "'b' AND") = some (("a'b" : Text), (" AND" : Text)) :=
  rfl

end RemoteRead.Sql
