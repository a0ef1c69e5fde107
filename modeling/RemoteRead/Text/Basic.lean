import RemoteRead.Text.CodePoint

/-!
# Searching, splitting and trimming text

Splitting takes the leftmost occurrences that do not overlap; `join` puts a separator back.
-/

namespace RemoteRead.Text

/-- The texts in order with a separator between neighbours. -/
def join (sep : Text) : List Text → Text
  | [] => []
  | [t] => t
  | t :: u :: r => t ++ sep ++ join sep (u :: r)

/-- Whether `needle` occurs in the text. -/
def contains (needle : Text) : Text → Bool
  | [] => needle.isEmpty
  | c :: r => needle.isPrefixOf (c :: r) || contains needle r

/-- The pieces between the leftmost, non-overlapping occurrences of a separator of the given length;
`skip` counts the code points of an occurrence that are still to be passed over. -/
def splitAux (sep : Text) (piece : Text) : Nat → Text → List Text
  | _, [] => [piece.reverse]
  | skip + 1, _ :: r => splitAux sep piece skip r
  | 0, c :: r =>
    if sep.isPrefixOf (c :: r) then piece.reverse :: splitAux sep [] (sep.length - 1) r
    else splitAux sep (c :: piece) 0 r

/-- The pieces between the occurrences of a non-empty separator. -/
def splitOn (sep : Text) (t : Text) : List Text := splitAux sep [] 0 t

/-- The text before the first occurrence of `sep` and the text after it. -/
def cut? (sep : Text) : Text → Option (Text × Text)
  | [] => if sep.isEmpty then some ([], []) else none
  | c :: r =>
    if sep.isPrefixOf (c :: r) then some ([], (c :: r).drop sep.length)
    else (cut? sep r).map fun (before, after) => (c :: before, after)

/-- The text without the code points of a class at its end. -/
def trimRight (p : CodePoint → Bool) (t : Text) : Text := (t.reverse.dropWhile p).reverse

/-- The text without the code points of a class at either end. -/
def trim (p : CodePoint → Bool) (t : Text) : Text := trimRight p (t.dropWhile p)

/-- The text with every occurrence of one code point replaced by a text. -/
def replace (c : CodePoint) (substitute : Text) (t : Text) : Text :=
  t.flatMap fun d => if d = c then substitute else [d]

/-- Whether a text ends in another. -/
def endsWith (ending t : Text) : Bool := ending.isSuffixOf t

/-- The text with a line feed in place of every carriage return, alone or before a line feed. -/
def unifyLines : Text → Text
  | [] => []
  | c :: r =>
    if c = CodePoint.ofChar '\r' then
      match r with
      | d :: s => '\n' :: (if d = CodePoint.ofChar '\n' then unifyLines s else unifyLines (d :: s))
      | [] => ['\n']
    else c :: unifyLines r

/-- The order of texts by code point, a proper beginning first. -/
def le : Text → Text → Bool
  | [], _ => true
  | _ :: _, [] => false
  | c :: r, d :: s => c.val < d.val || (c.val == d.val && le r s)

end RemoteRead.Text
