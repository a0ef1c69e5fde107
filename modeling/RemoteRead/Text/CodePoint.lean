/-!
# Code points and text

Text that comes out of a tag map or a store answer may hold a lone surrogate, which `Char` excludes.
A `Text` is therefore a list of `CodePoint`s, any number below `0x110000`; string and character
literals coerce to it. `CodePoint.isScalar` singles out the values that have an encoded form.
-/

namespace RemoteRead

/-- A code point, lone surrogates included. -/
structure CodePoint where
  /-- The number of the code point. -/
  val : Nat
  /-- Code points end below `0x110000`. -/
  val_lt : val < 0x110000 := by decide
deriving DecidableEq

/-- A text is a list of code points. -/
abbrev Text := List CodePoint

namespace CodePoint

/-- The code point of a character. -/
def ofChar (c : Char) : CodePoint where
  val := c.val.toNat
  val_lt := by
    rcases c.valid with h | h
    · have h' : c.val.toNat < 0xd800 := h
      omega
    · exact h.2

/-- A character is a code point. -/
instance : Coe Char CodePoint := ⟨ofChar⟩

/-- The code point with a given number, or the replacement character beyond the last one. -/
def ofNat (n : Nat) : CodePoint :=
  if h : n < 0x110000 then ⟨n, h⟩ else ⟨0xfffd, by decide⟩

/-- The first code point, where one is needed but none is there. -/
instance : Inhabited CodePoint := ⟨⟨0, by decide⟩⟩

/-- Surrogates are the halves of sixteen-bit pairs. -/
def isSurrogate (c : CodePoint) : Bool := 0xd800 ≤ c.val && c.val < 0xe000

/-- Every code point but a surrogate is a scalar value and has an encoded form. -/
def isScalar (c : CodePoint) : Bool := !c.isSurrogate

/-- The first half of a surrogate pair. -/
def isLeadingSurrogate (c : CodePoint) : Bool := 0xd800 ≤ c.val && c.val < 0xdc00

/-- The second half of a surrogate pair. -/
def isTrailingSurrogate (c : CodePoint) : Bool := 0xdc00 ≤ c.val && c.val < 0xe000

/-- Whether the number lies in a closed range. -/
def within (c : CodePoint) (lo hi : Nat) : Bool := lo ≤ c.val && c.val ≤ hi

/-- A decimal digit `0` to `9`. -/
def isDigit (c : CodePoint) : Bool := c.within 0x30 0x39

/-- The value of a decimal digit. -/
def digitVal (c : CodePoint) : Nat := c.val - 0x30

/-- A letter `A` to `Z` or `a` to `z`. -/
def isLetter (c : CodePoint) : Bool := c.within 0x41 0x5a || c.within 0x61 0x7a

/-- A hexadecimal digit in either case. -/
def isHexDigit (c : CodePoint) : Bool := c.isDigit || c.within 0x41 0x46 || c.within 0x61 0x66

/-- The value of a hexadecimal digit. -/
def hexVal (c : CodePoint) : Nat :=
  if c.isDigit then c.val - 0x30 else if c.val < 0x61 then c.val - 0x37 else c.val - 0x57

/-- The digit sign of a number below sixteen, in lower case. -/
def hexDigit (n : Nat) : CodePoint := if n < 10 then ofNat (0x30 + n) else ofNat (0x57 + n)

end CodePoint

namespace Text

/-- The text of a string literal. -/
def ofString (s : String) : Text := s.toList.map CodePoint.ofChar

/-- A literal is a text. -/
instance : Coe String Text := ⟨ofString⟩

/-- A literal in front of a text. -/
instance : HAppend String Text Text := ⟨fun s t => ofString s ++ t⟩

/-- A literal behind a text. -/
instance : HAppend Text String Text := ⟨fun t s => t ++ ofString s⟩

/-- A string literal before a text stands for its code points. -/
@[simp]
theorem string_append (s : String) (t : Text) : s ++ t = ofString s ++ t := rfl

/-- A string literal after a text stands for its code points. -/
@[simp]
theorem append_string (t : Text) (s : String) : t ++ s = t ++ ofString s := rfl

/-- The text as a string, a lone surrogate becoming the replacement character. -/
def toString (t : Text) : String :=
  String.ofList (t.map fun c => if c.isScalar then Char.ofNat c.val else Char.ofNat 0xfffd)

/-- The lower-case hexadecimal form of a number, with at least `width` digits. -/
def hex (width n : Nat) : Text :=
  let digits := (Nat.toDigits 16 n).map CodePoint.ofChar
  List.replicate (width - digits.length) (CodePoint.ofChar '0') ++ digits

/-- The decimal form of a natural number. -/
def ofNat (n : Nat) : Text := (Nat.toDigits 10 n).map CodePoint.ofChar

/-- The decimal form of an integer, with a minus sign below zero. -/
def ofInt (n : Int) : Text :=
  if n < 0 then CodePoint.ofChar '-' :: ofNat n.natAbs else ofNat n.natAbs

/-- A natural number in decimal with at least `width` digits. -/
def padded (width n : Nat) : Text :=
  let digits := ofNat n
  List.replicate (width - digits.length) (CodePoint.ofChar '0') ++ digits

end Text

end RemoteRead
