import RemoteRead.Error
import RemoteRead.Text.Basic

/-!
# Places in a YAML text

A `Cursor` is the rest of a text together with where it begins: how many code points, lines and
columns came before. Lines end with a line feed, a next-line control, or one of the two separators
of Unicode; carriage returns have been replaced before.
-/

namespace RemoteRead.Yaml

/-- Why a text is no document. -/
inductive Flaw where
  /-- The text breaks the rules of the format. -/
  | malformed
  /-- A scalar has no value, for a reason outside the format. -/
  | fault (f : Fault)

/-- The end of a line. -/
def isBreak (c : CodePoint) : Bool :=
  c.val == 0x0a || c.val == 0x85 || c.val == 0x2028 || c.val == 0x2029

/-- A blank or a tab. -/
def isBlank (c : CodePoint) : Bool := c.val == 0x20 || c.val == 0x09

/-- A blank. -/
def isSpace (c : CodePoint) : Bool := c.val == 0x20

/-- Whether a code point is one of those of a string. -/
def oneOf (s : String) (c : CodePoint) : Bool := List.contains (Text.ofString s) c

/-- A place in a text. -/
structure Cursor where
  /-- The text from the place on. -/
  rest : Text
  /-- How many code points come before. -/
  index : Nat
  /-- How many lines end before. -/
  line : Nat
  /-- How many code points of the line come before; a mark for the octet order does not count. -/
  column : Nat

namespace Cursor

/-- The start of a text. -/
def start (t : Text) : Cursor := ⟨t, 0, 0, 0⟩

/-- The place after the next code point. -/
def next (c : Cursor) : Cursor :=
  match c.rest with
  | [] => c
  | d :: r =>
    if isBreak d then ⟨r, c.index + 1, c.line + 1, 0⟩
    else ⟨r, c.index + 1, c.line, if d.val = 0xfeff then c.column else c.column + 1⟩

/-- The place after the next `n` code points. -/
def advance : Nat → Cursor → Cursor
  | 0, c => c
  | n + 1, c => advance n c.next

/-- The code point at a distance, if the text reaches so far. -/
def peek (c : Cursor) (n : Nat) : Option CodePoint := (c.rest.drop n).head?

/-- Whether the code point at a distance is in a class. -/
def sees (c : Cursor) (n : Nat) (p : CodePoint → Bool) : Bool := (c.peek n).any p

/-- Whether the text at a distance is at its end or in a class. -/
def endsOr (c : Cursor) (n : Nat) (p : CodePoint → Bool) : Bool := (c.peek n).all p

/-- Whether a blank, the end of a line or the end of the text is at a distance. -/
def isFree (c : Cursor) (n : Nat) : Bool := c.endsOr n fun d => isBlank d || isBreak d

/-- Whether a blank but no tab, the end of a line or the end of the text is next. -/
def isClosed (c : Cursor) : Bool := c.endsOr 0 fun d => isSpace d || isBreak d

/-- Whether the line or the text ends here. -/
def isLineEnd (c : Cursor) : Bool := c.endsOr 0 isBreak

/-- The place after the code points of a class. -/
def skipWhile (p : CodePoint → Bool) (c : Cursor) : Cursor :=
  c.advance (c.rest.takeWhile p).length

/-- The text of the code points of a class, and the place after it. -/
def takeWhile (p : CodePoint → Bool) (c : Cursor) : Text × Cursor :=
  (c.rest.takeWhile p, c.skipWhile p)

/-- The place after a comment, if one begins here. -/
def skipComment (c : Cursor) : Cursor :=
  if c.sees 0 (oneOf "#") then c.skipWhile fun d => !isBreak d else c

/-- The end of a line as text, and the place after it. The separators of Unicode stay as they are,
all others become line feeds. -/
def lineBreak? (c : Cursor) : Option (Text × Cursor) :=
  match c.rest with
  | [] => none
  | d :: _ =>
    if isBreak d then some (if d.val < 0x100 then "\n" else [d], c.next) else none

/-- Whether one of the marks between documents is here. -/
def isSeparator (c : Cursor) : Bool :=
  ((Text.ofString "---").isPrefixOf c.rest || (Text.ofString "...").isPrefixOf c.rest) && c.isFree 3

/-- The place after what may stand on a line behind its content, blanks and a comment. -/
def skipLineRest (c : Cursor) : Except Flaw Cursor :=
  let c := (c.skipWhile isSpace).skipComment
  if c.isLineEnd then .ok ((c.lineBreak?.map (·.2)).getD c) else .error .malformed

end Cursor

end RemoteRead.Yaml
