import RemoteRead.Value.Basic

/-!
# Writing JSON

A `Style` fixes the separators, and whether text beyond ASCII is escaped. Texts are quoted with the
short escapes and `\u` for other controls; a code point above `0xffff` is escaped as a surrogate
pair. Keys that are no texts are written as texts where they are numbers, truth values or nothing.
-/

namespace RemoteRead.Json

/-- How a document is laid out. -/
structure Style where
  /-- What stands between items. -/
  itemSeparator : Text
  /-- What stands between a key and its value. -/
  keySeparator : Text
  /-- Whether everything beyond ASCII is escaped. -/
  ascii : Bool

/-- No blanks, text as it is. -/
def compact : Style := ⟨",", ":", false⟩

/-- A blank after each separator, text beyond ASCII escaped. -/
def spaced : Style := ⟨", ", ": ", true⟩

/-- No blanks, text beyond ASCII escaped. -/
def compactAscii : Style := ⟨",", ":", true⟩

/-- A four-digit escape. -/
def unicodeEscape (n : Nat) : Text := "\\u" ++ Text.hex 4 n

/-- One code point inside quotes. -/
def escape (ascii : Bool) (c : CodePoint) : Text :=
  if c = CodePoint.ofChar '"' then "\\\""
  else if c = CodePoint.ofChar '\\' then "\\\\"
  else if c.val = 0x08 then "\\b"
  else if c.val = 0x09 then "\\t"
  else if c.val = 0x0a then "\\n"
  else if c.val = 0x0c then "\\f"
  else if c.val = 0x0d then "\\r"
  else if c.val < 0x20 then unicodeEscape c.val
  else if ascii ∧ 0x7e < c.val then
    if c.val < 0x10000 then unicodeEscape c.val
    else
      unicodeEscape (0xd800 + (c.val - 0x10000) / 0x400) ++
        unicodeEscape (0xdc00 + (c.val - 0x10000) % 0x400)
  else [c]

/-- A text as a JSON string. -/
def quote (ascii : Bool) (t : Text) : Text :=
  CodePoint.ofChar '"' :: t.flatMap (escape ascii) ++ [CodePoint.ofChar '"']

/-- What a document has no form for. -/
inductive Unwritable where
  /-- A value of a kind without a form, by the name of the kind. -/
  | value (kind : Text)
  /-- A key of a kind without a form. -/
  | key (kind : Text)

/-- The text that a key is written as. -/
def keyText : Value → Except Unwritable Text
  | .text t => .ok t
  | .null => .ok "null"
  | .bool b => .ok (if b then "true" else "false")
  | .int n => .ok (Text.ofInt n)
  | .float x => .ok (Number.jsonNotation.render x)
  | v => .error (.key v.plainKindName)

mutual

/-- The document of a value. -/
def write (style : Style) : Value → Except Unwritable Text
  | .null => .ok "null"
  | .bool b => .ok (if b then "true" else "false")
  | .int n => .ok (Text.ofInt n)
  | .float x => .ok (Number.jsonNotation.render x)
  | .text t => .ok (quote style.ascii t)
  | .list xs => do
    return "[" ++ Text.join style.itemSeparator (← writeAll style xs) ++ "]"
  | .tuple xs => do
    return "[" ++ Text.join style.itemSeparator (← writeAll style xs) ++ "]"
  | .mapping es => do
    return "\x7b" ++ Text.join style.itemSeparator (← writeEntries style es) ++ "\x7d"
  | v => .error (.value v.plainKindName)

/-- The documents of values in order. -/
def writeAll (style : Style) : List Value → Except Unwritable (List Text)
  | [] => .ok []
  | x :: xs => do
    let d ← write style x
    return d :: (← writeAll style xs)

/-- The keys with the documents of their values. -/
def writeEntries (style : Style) : List (Value × Value) → Except Unwritable (List Text)
  | [] => .ok []
  | (k, v) :: es => do
    let key ← keyText k
    let d ← write style v
    return (quote style.ascii key ++ style.keySeparator ++ d) :: (← writeEntries style es)

end

end RemoteRead.Json
