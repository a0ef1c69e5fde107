import RemoteRead.Text.CodePoint

/-!
# Plain identifiers

Names that may be spliced into a statement: a letter or underscore, then letters, digits and
underscores. The accepting functions also take a name with one line feed after it.
-/

namespace RemoteRead.Identifier

/-- A letter or an underscore. -/
def isInitial (c : CodePoint) : Bool := c.isLetter || c.val == 0x5f

/-- A letter, a digit or an underscore. -/
def isFollowing (c : CodePoint) : Bool := c.isLetter || c.isDigit || c.val == 0x5f

/-- A letter or underscore, then letters, digits and underscores. -/
def isPlain : Text → Bool
  | [] => false
  | c :: r => isInitial c && r.all isFollowing

/-- One or more letters, digits and underscores. -/
def isWord (t : Text) : Bool := !t.isEmpty && t.all isFollowing

/-- The text without one line feed at its end. -/
def dropLineFeed (t : Text) : Text :=
  if t.getLast? = some (CodePoint.ofChar '\n') then t.dropLast else t

/-- Whether a text is accepted as an identifier. -/
def accepts (t : Text) : Bool := isPlain (dropLineFeed t)

/-- Whether a text is accepted as a word. -/
def acceptsWord (t : Text) : Bool := isWord (dropLineFeed t)

end RemoteRead.Identifier
