import RemoteRead.Text.Basic

/-!
# White space

Two classes: `isBlank` is what trimming removes, and `isNumeralBlank`, without the four information
separators, is what a numeral may be surrounded by.
-/

namespace RemoteRead.CodePoint

/-- Blanks beyond ASCII: the separators of Unicode and the next-line control. -/
def isWideBlank (c : CodePoint) : Bool :=
  c.val == 0x85 || c.val == 0xa0 || c.val == 0x1680 || c.within 0x2000 0x200a ||
    c.within 0x2028 0x2029 || c.val == 0x202f || c.val == 0x205f || c.val == 0x3000

/-- White space, information separators included. -/
def isBlank (c : CodePoint) : Bool :=
  c.within 0x09 0x0d || c.within 0x1c 0x20 || c.isWideBlank

/-- White space that may surround a numeral. -/
def isNumeralBlank (c : CodePoint) : Bool :=
  c.within 0x09 0x0d || c.val == 0x20 || c.isWideBlank

end RemoteRead.CodePoint

namespace RemoteRead.Text

/-- The text without white space at either end. -/
def trimBlanks (t : Text) : Text := trim CodePoint.isBlank t

end RemoteRead.Text
