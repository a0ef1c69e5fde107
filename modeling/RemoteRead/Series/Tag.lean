import RemoteRead.Json.Reader
import RemoteRead.Message.Basic

/-!
# Tags as labels

A column name becomes a label name by having the marks `.`, `-` and `/` replaced. A tag blob is a
flat JSON object of texts; any other document yields no labels.
-/

namespace RemoteRead.Tag

/-- The marks that label names have no room for. -/
def isMark (c : CodePoint) : Bool :=
  c = CodePoint.ofChar '.' ∨ c = CodePoint.ofChar '-' ∨ c = CodePoint.ofChar '/'

/-- The label name of a column name. -/
def labelName (column : Text) : Text :=
  column.map fun c => if isMark c then CodePoint.ofChar '_' else c

/-- The pairs of texts that a document consists of, if it is a flat object of texts. -/
def flatPairs? : Value → Option (List (Text × Text))
  | .mapping entries =>
    entries.mapM fun (k, v) =>
      match k, v with
      | .text key, .text value => some (key, value)
      | _, _ => none
  | _ => none

/-- The labels of a tag blob. A blob that is no document has none; numbers with too many digits and
nesting that is too deep are faults, and so is a text without an encoded form. -/
def blobLabels [Host] (blob : Text) : Except Fault (List Label) :=
  match Json.read blob .tags with
  | .error (.malformed _ _) => .ok []
  | .error e@(.tooLong _) => .error (.badValue (e.message blob))
  | .error e@(.tooDeep _) => .error (.tooDeep (e.message blob))
  | .ok v =>
    match flatPairs? v with
    | none => .ok []
    | some pairs => pairs.mapM fun (name, value) => Label.checked name value

end RemoteRead.Tag
