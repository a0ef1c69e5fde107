import RemoteRead.Json.Reader

/-!
# The grammar of JSON

What a document looks like, without a reader. `ValueAt depth t v rest` says that a value `v` is
spelled at the front of `t` with `rest` behind it, and that it opens at most `depth` levels of
arrays and objects; `IsDocument` adds the blanks around it. The parts come first: strings with their
escapes (`StringAt`) and numerals (`NumeralAt`), which go on as far as they can.

A reader has two limits that the grammar of texts does not have: the levels that may be open at
once, which are up to the host and to what the document is for, and the digits of a whole number.
`LimitAt depth t e` says that a text is well formed up to a place where one of them is exceeded: a
bracket for which no level is left, or a whole number that is too long. What stands behind that
place is open, so such a text may be malformed as well.
-/

namespace RemoteRead.Json

/-- Blanks only. -/
def IsBlank (w : Text) : Prop := ∀ c ∈ w, isSpace c = true

/-- No digit stands at the front. -/
def NoDigit (t : Text) : Prop := ∀ c ∈ t.head?, c.isDigit = false

/-- Digits only, and at least one. -/
def IsDigits (ds : Text) : Prop := ds ≠ [] ∧ ∀ c ∈ ds, c.isDigit = true

/-- The brace that opens an object. -/
def openBrace : CodePoint := CodePoint.ofNat 0x7b

/-- The brace that closes an object. -/
def closeBrace : CodePoint := CodePoint.ofNat 0x7d

/-! ## Strings -/

/-- The escape of a trailing surrogate stands at the front, and `m` is its number. -/
def TrailingAt (t : Text) (m : Nat) (rest : Text) : Prop :=
  ∃ u, t = CodePoint.ofChar '\\' :: CodePoint.ofChar 'u' :: u ∧ hex4 u = some m ∧
    (CodePoint.ofNat m).isTrailingSurrogate = true ∧ rest = u.drop 4

/-- `StringAt t s rest`: behind an opening quote, `t` spells the text `s` up to the closing quote,
and goes on with `rest`. -/
inductive StringAt : Text → Text → Text → Prop where
  /-- The closing quote. -/
  | close (rest : Text) : StringAt (CodePoint.ofChar '"' :: rest) [] rest
  /-- A code point that stands for itself: no quote, no backslash, no control. -/
  | plain {c : CodePoint} {t s rest : Text} (hquote : c ≠ CodePoint.ofChar '"')
    (hslash : c ≠ CodePoint.ofChar '\\') (hcontrol : 0x20 ≤ c.val) (h : StringAt t s rest) :
    StringAt (c :: t) (c :: s) rest
  /-- An escape of one letter. -/
  | short {e c : CodePoint} {t s rest : Text} (he : shortEscape e = some c)
    (h : StringAt t s rest) : StringAt (CodePoint.ofChar '\\' :: e :: t) (c :: s) rest
  /-- The escapes of two surrogates that are joined. -/
  | pair {n m : Nat} {t u s rest : Text} (hn : hex4 t = some n)
    (hleading : (CodePoint.ofNat n).isLeadingSurrogate = true) (hm : TrailingAt (t.drop 4) m u)
    (h : StringAt u s rest) :
    StringAt (CodePoint.ofChar '\\' :: CodePoint.ofChar 'u' :: t)
      (CodePoint.ofNat (0x10000 + (n - 0xd800) * 0x400 + (m - 0xdc00)) :: s) rest
  /-- The escape of one code point by its number. -/
  | number {n : Nat} {t s rest : Text} (hn : hex4 t = some n)
    (hsingle : (CodePoint.ofNat n).isLeadingSurrogate = true → ∀ m u, ¬ TrailingAt (t.drop 4) m u)
    (h : StringAt (t.drop 4) s rest) :
    StringAt (CodePoint.ofChar '\\' :: CodePoint.ofChar 'u' :: t) (CodePoint.ofNat n :: s) rest

/-! ## Numerals -/

/-- The sign of a numeral: a minus, or nothing. -/
inductive SignAt : Text → Bool → Text → Prop where
  /-- A minus. -/
  | minus (t : Text) : SignAt (CodePoint.ofChar '-' :: t) true t
  /-- No sign. -/
  | absent {t : Text} (h : t.head? ≠ some (CodePoint.ofChar '-')) : SignAt t false t

/-- The whole part of a numeral: a zero, or digits that start with none. -/
inductive WholeAt : Text → Text → Text → Prop where
  /-- A zero. -/
  | zero (t : Text) : WholeAt (CodePoint.ofChar '0' :: t) [CodePoint.ofChar '0'] t
  /-- Digits, as far as they go. -/
  | digits {ds t : Text} (hds : IsDigits ds) (hzero : ds.head? ≠ some (CodePoint.ofChar '0'))
    (ht : NoDigit t) : WholeAt (ds ++ t) ds t

/-- A fraction stands at the front: a point and digits, as far as they go. -/
def PointAt (t ds rest : Text) : Prop :=
  t = CodePoint.ofChar '.' :: (ds ++ rest) ∧ IsDigits ds ∧ NoDigit rest

/-- The fraction of a numeral, empty for none. -/
inductive FractionAt : Text → Text → Text → Prop where
  /-- A fraction. -/
  | point {t ds rest : Text} (h : PointAt t ds rest) : FractionAt t ds rest
  /-- No fraction. -/
  | absent {t : Text} (h : ∀ ds rest, ¬ PointAt t ds rest) : FractionAt t [] t

/-- The whole number that a sign and digits denote. -/
def wholeNumber (negative : Bool) (ds : Text) : Int :=
  if negative then -(Number.digitsVal ds : Int) else Number.digitsVal ds

/-- An exponent of the given value stands at the front: a letter, a sign or none, and digits as far
as they go. -/
def PowerAt (t : Text) (e : Int) (rest : Text) : Prop :=
  ∃ c u negative ds, t = c :: u ∧ (c = CodePoint.ofChar 'e' ∨ c = CodePoint.ofChar 'E') ∧
    Number.takeSign u = (negative, ds ++ rest) ∧ IsDigits ds ∧ NoDigit rest ∧
    e = wholeNumber negative ds

/-- The exponent of a numeral, if it has one. -/
inductive ExponentAt : Text → Option Int → Text → Prop where
  /-- An exponent. -/
  | power {t : Text} {e : Int} {rest : Text} (h : PowerAt t e rest) : ExponentAt t (some e) rest
  /-- No exponent. -/
  | absent {t : Text} (h : ∀ e rest, ¬ PowerAt t e rest) : ExponentAt t none t

/-- A numeral stands at the front: its sign, the digits of its whole part and its fraction, and its
exponent. -/
def NumeralAt (t : Text) (negative : Bool) (whole fraction : Text) (exponent : Option Int)
    (rest : Text) : Prop :=
  ∃ t₁ t₂ t₃, SignAt t negative t₁ ∧ WholeAt t₁ whole t₂ ∧ FractionAt t₂ fraction t₃ ∧
    ExponentAt t₃ exponent rest

/-- The double that the parts of a numeral denote. -/
def decimalNumber (negative : Bool) (whole fraction : Text) (exponent : Option Int) : Binary64 :=
  Binary64.ofDecimal negative (Number.digitsVal (whole ++ fraction))
    (exponent.getD 0 - fraction.length)

/-! ## Values -/

/-- The key of a member with the colon behind it. -/
def KeyAt (t key rest : Text) : Prop :=
  ∃ u w w', t = CodePoint.ofChar '"' :: u ∧
    StringAt u key (w ++ CodePoint.ofChar ':' :: (w' ++ rest)) ∧ IsBlank w ∧ IsBlank w'

/-- The object with the given members: a repeated key keeps its first place and its last value. -/
def objectOf (members : List (Text × Value)) : Value :=
  Value.ofEntries (members.map fun (key, v) => (.text key, v))

mutual

/-- `ValueAt depth t v rest`: at the front of `t` a value `v` is spelled, which opens at most
`depth` levels, and `rest` stands behind it. -/
inductive ValueAt : Nat → Text → Value → Text → Prop where
  /-- A word that stands for a value. -/
  | word {depth : Nat} {w rest : Text} {v : Value} (h : (w, v) ∈ words) :
    ValueAt depth (w ++ rest) v rest
  /-- A text between quotes. -/
  | string {depth : Nat} {t s rest : Text} (h : StringAt t s rest) :
    ValueAt depth (CodePoint.ofChar '"' :: t) (.text s) rest
  /-- A numeral without fraction and exponent is a whole number. -/
  | whole {depth : Nat} {t whole rest : Text} {negative : Bool}
    (h : NumeralAt t negative whole [] none rest) (hlength : whole.length ≤ Number.maxDigits) :
    ValueAt depth t (.int (wholeNumber negative whole)) rest
  /-- Any other numeral is a double. -/
  | decimal {depth : Nat} {t whole fraction rest : Text} {negative : Bool} {exponent : Option Int}
    (h : NumeralAt t negative whole fraction exponent rest)
    (hne : fraction ≠ [] ∨ exponent ≠ none) :
    ValueAt depth t (.float (decimalNumber negative whole fraction exponent)) rest
  /-- An array without items. -/
  | emptyList {depth : Nat} {w rest : Text} (hw : IsBlank w) :
    ValueAt (depth + 1) (CodePoint.ofChar '[' :: (w ++ CodePoint.ofChar ']' :: rest)) (.list [])
      rest
  /-- An array of items. -/
  | list {depth : Nat} {w t rest : Text} {vs : List Value} (hw : IsBlank w)
    (h : ItemsAt depth t vs rest) :
    ValueAt (depth + 1) (CodePoint.ofChar '[' :: (w ++ t)) (.list vs) rest
  /-- An object without members. -/
  | emptyObject {depth : Nat} {w rest : Text} (hw : IsBlank w) :
    ValueAt (depth + 1) (openBrace :: (w ++ closeBrace :: rest)) (objectOf []) rest
  /-- An object of members. -/
  | object {depth : Nat} {w t rest : Text} {members : List (Text × Value)} (hw : IsBlank w)
    (h : MembersAt depth t members rest) :
    ValueAt (depth + 1) (openBrace :: (w ++ t)) (objectOf members) rest

/-- The items of an array up to the closing bracket. -/
inductive ItemsAt : Nat → Text → List Value → Text → Prop where
  /-- The last item. -/
  | last {depth : Nat} {t w rest : Text} {v : Value} (hw : IsBlank w)
    (h : ValueAt depth t v (w ++ CodePoint.ofChar ']' :: rest)) : ItemsAt depth t [v] rest
  /-- An item with others behind it. -/
  | more {depth : Nat} {t w w' u rest : Text} {v : Value} {vs : List Value} (hw : IsBlank w)
    (hw' : IsBlank w') (h : ValueAt depth t v (w ++ CodePoint.ofChar ',' :: (w' ++ u)))
    (hrest : ItemsAt depth u vs rest) : ItemsAt depth t (v :: vs) rest

/-- The members of an object up to the closing brace. -/
inductive MembersAt : Nat → Text → List (Text × Value) → Text → Prop where
  /-- The last member. -/
  | last {depth : Nat} {t key u w rest : Text} {v : Value} (hkey : KeyAt t key u) (hw : IsBlank w)
    (h : ValueAt depth u v (w ++ closeBrace :: rest)) : MembersAt depth t [(key, v)] rest
  /-- A member with others behind it. -/
  | more {depth : Nat} {t key u w w' t' rest : Text} {v : Value} {members : List (Text × Value)}
    (hkey : KeyAt t key u) (hw : IsBlank w) (hw' : IsBlank w')
    (h : ValueAt depth u v (w ++ CodePoint.ofChar ',' :: (w' ++ t')))
    (hrest : MembersAt depth t' members rest) : MembersAt depth t ((key, v) :: members) rest

end

/-- A text is the document of a value, which opens at most `depth` levels: the value with blanks
around it. -/
def IsDocument (depth : Nat) (t : Text) (v : Value) : Prop :=
  ∃ w u w', t = w ++ u ∧ IsBlank w ∧ ValueAt depth u v w' ∧ IsBlank w'

/-! ## Limits -/

mutual

/-- `LimitAt depth t e`: at the front of `t` stands what would be a value, well formed up to a
place where the limit is exceeded that `e` names. -/
inductive LimitAt : Nat → Text → ReadError → Prop where
  /-- A whole number with too many digits. -/
  | long {depth : Nat} {t whole rest : Text} {negative : Bool}
    (h : NumeralAt t negative whole [] none rest) (hlength : Number.maxDigits < whole.length) :
    LimitAt depth t (.tooLong whole.length)
  /-- An array where no level is left. -/
  | list (rest : Text) : LimitAt 0 (CodePoint.ofChar '[' :: rest) (.tooDeep false)
  /-- An object where no level is left. -/
  | object (rest : Text) : LimitAt 0 (openBrace :: rest) (.tooDeep true)
  /-- The limit is exceeded among the items of an array. -/
  | items {depth : Nat} {w t : Text} {e : ReadError} (hw : IsBlank w)
    (h : ItemsLimitAt depth t e) : LimitAt (depth + 1) (CodePoint.ofChar '[' :: (w ++ t)) e
  /-- The limit is exceeded among the members of an object. -/
  | members {depth : Nat} {w t : Text} {e : ReadError} (hw : IsBlank w)
    (h : MembersLimitAt depth t e) : LimitAt (depth + 1) (openBrace :: (w ++ t)) e

/-- Items of an array that are well formed up to a place where a limit is exceeded. -/
inductive ItemsLimitAt : Nat → Text → ReadError → Prop where
  /-- The place is in the first item. -/
  | here {depth : Nat} {t : Text} {e : ReadError} (h : LimitAt depth t e) : ItemsLimitAt depth t e
  /-- The place is behind the first item. -/
  | later {depth : Nat} {t w w' u : Text} {v : Value} {e : ReadError} (hw : IsBlank w)
    (hw' : IsBlank w') (h : ValueAt depth t v (w ++ CodePoint.ofChar ',' :: (w' ++ u)))
    (hrest : ItemsLimitAt depth u e) : ItemsLimitAt depth t e

/-- Members of an object that are well formed up to a place where a limit is exceeded. -/
inductive MembersLimitAt : Nat → Text → ReadError → Prop where
  /-- The place is in the value of the first member. -/
  | here {depth : Nat} {t key u : Text} {e : ReadError} (hkey : KeyAt t key u)
    (h : LimitAt depth u e) : MembersLimitAt depth t e
  /-- The place is behind the first member. -/
  | later {depth : Nat} {t key u w w' t' : Text} {v : Value} {e : ReadError}
    (hkey : KeyAt t key u) (hw : IsBlank w) (hw' : IsBlank w')
    (h : ValueAt depth u v (w ++ CodePoint.ofChar ',' :: (w' ++ t')))
    (hrest : MembersLimitAt depth t' e) : MembersLimitAt depth t e

end

/-- A text is well formed up to a place where a limit is exceeded, with `depth` levels to open. -/
def ExceedsLimit (depth : Nat) (t : Text) (e : ReadError) : Prop :=
  ∃ w u, t = w ++ u ∧ IsBlank w ∧ LimitAt depth u e

end RemoteRead.Json
