import RemoteRead.Text.Printable

/-!
# Quoted text

The form in which messages show a text: in single quotes, or in double quotes when the text holds a
single quote and no double one. A backslash and the quote in use are written with a backslash, and
so are the usual controls; what is not printable is written as a hexadecimal escape of two, four or
eight digits.
-/

namespace RemoteRead.Text

/-- The quote that surrounds a text: single unless only single ones occur in it. -/
def quoteFor (t : Text) : CodePoint :=
  let has (c : Char) : Bool := List.contains t (CodePoint.ofChar c)
  if has '\'' && !has '"' then '"' else '\''

/-- One code point inside the given quote. -/
def escape (quote c : CodePoint) : Text :=
  if c = quote ∨ c = CodePoint.ofChar '\\' then ['\\', c]
  else if c = CodePoint.ofChar '\t' then "\\t"
  else if c = CodePoint.ofChar '\n' then "\\n"
  else if c = CodePoint.ofChar '\r' then "\\r"
  else if c.isPrintable then [c]
  else if c.val < 0x100 then "\\x" ++ hex 2 c.val
  else if c.val < 0x10000 then "\\u" ++ hex 4 c.val
  else "\\U" ++ hex 8 c.val

/-- The text as messages quote it. -/
def quoted (t : Text) : Text :=
  let quote := quoteFor t
  quote :: t.flatMap (escape quote) ++ [quote]

end RemoteRead.Text
