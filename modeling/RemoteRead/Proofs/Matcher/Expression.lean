import RemoteRead.Matcher.Expression
import RemoteRead.Proofs.Text.Trim

/-!
# What matcher expressions denote

An expression consists of a name, an operator and a rest (`Parts`). The name ends at the first sign
that belongs to operators, and the operator is the longest one there; the conditions determine the
parts, so that reading an expression is taking its parts (`ofExpression?_eq_some_iff`).

An expression is accepted exactly if it can be taken apart at all, with whatever operator
(`exists_ofExpression_iff`), since the longest operator leaves a shorter rest. A value in double
quotes is read as it is, whatever it starts or ends with (`ofExpression?_quoted`): the quote keeps
its first sign from the operator, and its blanks from being trimmed.
-/

namespace RemoteRead.LabelMatcher

variable {name rest value t : Text} {c d : Comparison} {m : LabelMatcher}

/-- The signs that operators are made of. -/
def operatorSigns : Text := "=!~"

/-- The double quote that may stand around a value. -/
def doubleQuote : CodePoint := CodePoint.ofChar '"'

/-- The end of a line, which no value may hold. -/
def lineFeed : CodePoint := CodePoint.ofChar '\n'

/-! ## Operators -/

/-- Comparisons have different symbols. -/
theorem symbol_injective (h : c.symbol = d.symbol) : c = d := by
  revert h
  cases c <;> cases d <;> decide

/-- An operator starts with one of its signs. -/
theorem exists_symbol_eq_cons (c : Comparison) :
    ∃ sign signs, c.symbol = sign :: signs ∧ sign ∈ operatorSigns := by
  cases c <;> exact ⟨_, _, rfl, by decide⟩

/-- No operator in front of a text is longer than this one. -/
def IsLongest (c : Comparison) (t : Text) : Prop :=
  ∀ d : Comparison, d.symbol <+: t → d.symbol.length ≤ c.symbol.length

/-- The operator that is taken is in front, and it is the longest one there. -/
theorem spec_of_takeOperator? (h : takeOperator? t = some (c, rest)) :
    t = c.symbol ++ rest ∧ IsLongest c t := by
  have hsorted : [Comparison.matchesPattern, .failsPattern, .notEqual, .equal].Pairwise
      fun d e => e.symbol.length ≤ d.symbol.length := by decide
  have hall (e : Comparison) : e ∈ [Comparison.matchesPattern, .failsPattern, .notEqual, .equal] :=
    by cases e <;> decide
  obtain ⟨before, d, after, hlist, hd, hbefore⟩ := List.findSome?_eq_some_iff.mp h
  rw [hlist] at hsorted hall
  obtain ⟨hstart, heq⟩ := Option.ite_none_right_eq_some.mp hd
  obtain ⟨rfl, rfl⟩ := Prod.mk.inj (Option.some.inj heq)
  refine ⟨(List.prefix_iff_eq_append.mp (List.isPrefixOf_iff_prefix.mp hstart)).symm, ?_⟩
  -- Operators that are tried earlier are not in front, and those that are tried later are shorter.
  intro e he
  rcases List.mem_append.mp (hall e) with hearly | hlate
  · have hnone : ¬ e.symbol.isPrefixOf t = true := by simpa using hbefore e hearly
    exact absurd (List.isPrefixOf_iff_prefix.mpr he) hnone
  · rcases List.mem_cons.mp hlate with rfl | hlate
    · exact le_rfl
    · have hlater := (List.pairwise_append.mp hsorted).2.1
      exact List.rel_of_pairwise_cons hlater hlate

/-- In front of an operator and a rest, some operator is taken. -/
theorem exists_takeOperator? (c : Comparison) (rest : Text) :
    ∃ d rest', takeOperator? (c.symbol ++ rest) = some (d, rest') := by
  cases htake : takeOperator? (c.symbol ++ rest) with
  | some taken => exact ⟨taken.1, taken.2, rfl⟩
  | none =>
    have hnone := List.findSome?_eq_none_iff.mp htake c (by cases c <;> decide)
    simp at hnone

/-- A text is taken apart into an operator and a rest exactly if the operator is the longest one in
front. -/
theorem takeOperator?_eq_some_iff :
    takeOperator? t = some (c, rest) ↔ t = c.symbol ++ rest ∧ IsLongest c t := by
  refine ⟨spec_of_takeOperator?, fun ⟨heq, hlongest⟩ => ?_⟩
  obtain ⟨d, rest', htake⟩ := exists_takeOperator? c rest
  rw [← heq] at htake
  obtain ⟨heq', hlongest'⟩ := spec_of_takeOperator? htake
  -- Two longest operators in front of a text are as long as each other, and so the same.
  have hlength : c.symbol.length = d.symbol.length :=
    Nat.le_antisymm (hlongest' c ⟨rest, heq.symm⟩) (hlongest d ⟨rest', heq'.symm⟩)
  obtain ⟨hsymbol, rfl⟩ := List.append_inj (heq.symm.trans heq') hlength
  rw [htake, symbol_injective hsymbol]

/-! ## The parts of an expression -/

/-- The parts of an expression, which is trimmed: a name without signs of operators, the longest
operator behind it, and a rest that does not go beyond the line. -/
structure Parts (t name : Text) (c : Comparison) (rest : Text) : Prop where
  /-- The parts make up the expression. -/
  trimmed : t.trimBlanks = name ++ (c.symbol ++ rest)
  /-- There is a name. -/
  named : name ≠ []
  /-- The name ends at the first sign of an operator. -/
  clear : ∀ x ∈ name, x ∉ operatorSigns
  /-- The operator is the longest one there. -/
  longest : IsLongest c (c.symbol ++ rest)
  /-- The rest stays on one line. -/
  oneLine : lineFeed ∉ rest

/-- The signs of operators are those that are listed. -/
theorem isOperatorChar_iff {x : CodePoint} : isOperatorChar x = true ↔ x ∈ operatorSigns :=
  List.contains_iff_mem

/-- A name without signs of operators ends where an operator stands. -/
theorem takeWhile_name (hclear : ∀ x ∈ name, x ∉ operatorSigns) (c : Comparison) (rest : Text) :
    (name ++ (c.symbol ++ rest)).takeWhile (fun x => !isOperatorChar x) = name := by
  refine (Text.span_append (fun x hx => ?_) fun x hx => ?_).1
  · have hx' := hclear x hx
    rw [← isOperatorChar_iff] at hx'
    simpa using hx'
  · obtain ⟨sign, signs, hsymbol, hsign⟩ := exists_symbol_eq_cons c
    rw [hsymbol, List.cons_append, List.head?_cons, Option.mem_some_iff] at hx
    subst hx
    simpa using isOperatorChar_iff.mpr hsign

/-- An expression denotes the matcher of its parts: the name and the rest without white space
around them, and the rest without double quotes around it. -/
theorem ofExpression?_eq_some_iff :
    ofExpression? t = some m ↔ ∃ name c rest, Parts t name c rest ∧
      m = ⟨c.number, name.trimBlanks, unquoted rest.trimBlanks⟩ := by
  constructor
  · intro h
    simp only [ofExpression?] at h
    split at h
    · cases h
    · rename_i c rest htake
      split_ifs at h with hrefused
      -- The name runs up to the first character of an operator, and the longest operator follows.
      obtain ⟨heq, hlongest⟩ := spec_of_takeOperator? htake
      simp only [Bool.or_eq_true, List.isEmpty_iff, List.contains_iff_mem, not_or] at hrefused
      have hsplit := List.prefix_iff_eq_append.mp
        (List.takeWhile_prefix (l := t.trimBlanks) fun x => !isOperatorChar x)
      rw [heq] at hsplit hlongest
      refine ⟨_, c, rest, ⟨hsplit.symm, hrefused.1, fun x hx => ?_, hlongest, hrefused.2⟩,
        (Option.some.inj h).symm⟩
      have hx' := List.mem_takeWhile_imp hx
      rw [← isOperatorChar_iff]
      simpa using hx'
  · rintro ⟨name, c, rest, hparts, rfl⟩
    have htake : takeOperator? (c.symbol ++ rest) = some (c, rest) :=
      takeOperator?_eq_some_iff.mpr ⟨rfl, hparts.longest⟩
    have haccepted : ¬ (name.isEmpty || List.contains rest lineFeed) = true := by
      simp only [Bool.or_eq_true, List.isEmpty_iff, List.contains_iff_mem, not_or]
      exact ⟨hparts.named, hparts.oneLine⟩
    simp only [ofExpression?]
    rw [hparts.trimmed, takeWhile_name hparts.clear, List.drop_left, htake]
    exact if_neg haccepted

/-- An expression is accepted exactly if, trimmed, it is a name without signs of operators, some
operator, and a rest on one line. -/
theorem exists_ofExpression_iff :
    (∃ m, ofExpression? t = some m) ↔ ∃ (name : Text) (c : Comparison) (rest : Text),
      t.trimBlanks = name ++ (c.symbol ++ rest) ∧ name ≠ [] ∧ (∀ x ∈ name, x ∉ operatorSigns) ∧
      lineFeed ∉ rest := by
  simp only [ofExpression?_eq_some_iff]
  constructor
  · rintro ⟨m, name, c, rest, h, -⟩
    exact ⟨name, c, rest, h.trimmed, h.named, h.clear, h.oneLine⟩
  · rintro ⟨name, c, rest, htrimmed, hnamed, hclear, hline⟩
    -- The longest operator leaves an end of what is left by this one.
    obtain ⟨d, rest', htake⟩ := exists_takeOperator? c rest
    obtain ⟨heq, hlongest⟩ := spec_of_takeOperator? htake
    have hshorter : c.symbol.length ≤ d.symbol.length := hlongest c ⟨rest, rfl⟩
    have hlength := congrArg List.length heq
    rw [List.length_append, List.length_append] at hlength
    have hend' : rest' <:+ c.symbol ++ rest := ⟨d.symbol, heq.symm⟩
    have hend : rest' <:+ rest :=
      List.suffix_of_suffix_length_le hend' (List.suffix_append _ _) (by omega)
    refine ⟨_, name, d, rest', ⟨?_, hnamed, hclear, ?_, fun hmem => hline (hend.mem hmem)⟩, rfl⟩
    · rw [htrimmed, heq]
    · rw [← heq]
      exact hlongest

/-! ## Values in double quotes -/

/-- A text in double quotes. -/
def inQuotes (value : Text) : Text := doubleQuote :: value ++ [doubleQuote]

/-- Taking the quotes off a quoted value leaves the value. -/
theorem unquoted_inQuotes (value : Text) : unquoted (inQuotes value) = value := by
  simp [unquoted, inQuotes, doubleQuote]

/-- A quoted value ends with a quote. -/
theorem getLast?_inQuotes (value : Text) : (inQuotes value).getLast? = some doubleQuote :=
  List.getLast?_concat

/-- A quote is no white space. -/
theorem isBlank_doubleQuote : doubleQuote.isBlank = false := by decide

/-- A quoted value has no blanks around it. -/
theorem trimBlanks_inQuotes (value : Text) : (inQuotes value).trimBlanks = inQuotes value := by
  refine Text.trim_eq_self (fun x hx => ?_) fun x hx => ?_
  · obtain rfl := Option.some.inj hx
    exact isBlank_doubleQuote
  · rw [getLast?_inQuotes] at hx
    obtain rfl := Option.some.inj hx
    exact isBlank_doubleQuote

/-- No operator goes on with a quote. -/
theorem isLongest_inQuotes (c : Comparison) (value : Text) :
    IsLongest c (c.symbol ++ inQuotes value) := by
  intro d hd
  by_contra hlonger
  obtain ⟨signs, hsigns⟩ : c.symbol <+: d.symbol :=
    List.prefix_of_prefix_length_le (List.prefix_append _ _) hd (by omega)
  cases signs with
  | nil =>
    rw [List.append_nil] at hsigns
    rw [hsigns] at hlonger
    exact hlonger le_rfl
  | cons sign signs =>
    rw [← hsigns, List.prefix_append_right_inj] at hd
    obtain ⟨rfl, -⟩ := List.cons_prefix_cons.mp hd
    have hquote : doubleQuote ∈ d.symbol := by
      rw [← hsigns]
      exact List.mem_append_right _ List.mem_cons_self
    revert hquote
    cases d <;> decide

/-- A name, an operator and a value in double quotes are read as they are written. -/
theorem ofExpression?_inQuotes (c : Comparison) (hnamed : name ≠ [])
    (hclear : ∀ x ∈ name, x ∉ operatorSigns) (hhead : ∀ x ∈ name.head?, x.isBlank = false)
    (hlast : ∀ x ∈ name.getLast?, x.isBlank = false) (hline : lineFeed ∉ value) :
    ofExpression? (name ++ (c.symbol ++ inQuotes value)) = some ⟨c.number, name, value⟩ := by
  -- The blanks of the value are inside its quotes, so trimming leaves the text alone.
  have htrimmed : Text.trimBlanks (name ++ (c.symbol ++ inQuotes value)) =
      name ++ (c.symbol ++ inQuotes value) := by
    refine Text.trim_eq_self (fun x hx => ?_) fun x hx => ?_
    · obtain ⟨y, ys, rfl⟩ := List.exists_cons_of_ne_nil hnamed
      exact hhead x hx
    · rw [List.getLast?_append, List.getLast?_append, getLast?_inQuotes, Option.some_or,
        Option.some_or] at hx
      obtain rfl := Option.some.inj hx
      exact isBlank_doubleQuote
  have honeLine : lineFeed ∉ inQuotes value := by
    have hdiffer : lineFeed ≠ doubleQuote := by decide
    simp [inQuotes, hdiffer, hline]
  refine ofExpression?_eq_some_iff.mpr ⟨name, c, inQuotes value,
    ⟨htrimmed, hnamed, hclear, isLongest_inQuotes c value, honeLine⟩, ?_⟩
  have hname : Text.trimBlanks name = name := Text.trim_eq_self hhead hlast
  rw [hname, trimBlanks_inQuotes, unquoted_inQuotes]

/-! ## The grammar -/

/-- An expression is accepted exactly if it is spelled as the grammar says, and then it denotes the
matcher of its parts, which are determined by the longest operator. Any name without signs of
operators and any value on one line, in double quotes, come back as they were written. -/
theorem expressions_denote_their_parts :
    (∀ t, (∃ m, ofExpression? t = some m) ↔ ∃ (name : Text) (c : Comparison) (rest : Text),
      t.trimBlanks = name ++ (c.symbol ++ rest) ∧ name ≠ [] ∧ (∀ x ∈ name, x ∉ operatorSigns) ∧
      lineFeed ∉ rest) ∧
    (∀ t m, ofExpression? t = some m ↔ ∃ name c rest, Parts t name c rest ∧
      m = ⟨c.number, name.trimBlanks, unquoted rest.trimBlanks⟩) ∧
    (∀ (name : Text) (c : Comparison) (value : Text), name ≠ [] →
      (∀ x ∈ name, x ∉ operatorSigns) → (∀ x ∈ name.head?, x.isBlank = false) →
      (∀ x ∈ name.getLast?, x.isBlank = false) → lineFeed ∉ value →
        ofExpression? (name ++ (c.symbol ++ inQuotes value)) = some ⟨c.number, name, value⟩) :=
  ⟨fun _ => exists_ofExpression_iff, fun _ _ => ofExpression?_eq_some_iff,
    fun _ c _ hnamed hclear hhead hlast hline =>
      ofExpression?_inQuotes c hnamed hclear hhead hlast hline⟩

/-- A name with a blank and a line feed inside it. -/
def spacedName : Text := "my pod\nname"

/-- A value that goes on like an operator, with blanks at its ends and a quote inside it. -/
def awkwardValue : Text := "~=\"!~ "

/-- The operator is not taken for the longer one that the value would make of it, and neither the
blank nor the quote of the value is lost. -/
theorem expressions_denote_their_parts_awkward :
    spacedName ≠ [] ∧ (∀ x ∈ spacedName, x ∉ operatorSigns) ∧
    (∀ x ∈ spacedName.head?, x.isBlank = false) ∧
    (∀ x ∈ spacedName.getLast?, x.isBlank = false) ∧ lineFeed ∉ awkwardValue ∧
    ofExpression? (spacedName ++ (Comparison.equal.symbol ++ inQuotes awkwardValue)) =
      some ⟨0, "my pod\nname", "~=\"!~ "⟩ := by
  obtain ⟨-, -, hquoted⟩ := expressions_denote_their_parts
  have hnamed : spacedName ≠ [] := by decide
  have hclear : ∀ x ∈ spacedName, x ∉ operatorSigns := by decide
  have hhead : ∀ x ∈ spacedName.head?, x.isBlank = false := by decide
  have hlast : ∀ x ∈ spacedName.getLast?, x.isBlank = false := by decide
  have hline : lineFeed ∉ awkwardValue := by decide
  exact ⟨hnamed, hclear, hhead, hlast, hline,
    hquoted spacedName .equal awkwardValue hnamed hclear hhead hlast hline⟩

end RemoteRead.LabelMatcher
