import RemoteRead.Text.Blank
import RemoteRead.Value.Basic

/-!
# Files of assignments

A file of assignments gives variables values, one to a line: `name=value`, after the word `export`
if need be, with quotes around the name or the value if need be, and with comments after `#`. A
value may name a variable, as `$` and a name in braces, also with a text that stands in for a
missing one. A line that is no assignment is passed over.
-/

namespace RemoteRead.Settings

/-- A name with its value, if the line has one. -/
abbrev Assignment := Text × Option Text

namespace Assignment

/-- Whether a code point ends a line. -/
def isLineEnd (c : CodePoint) : Bool := c == CodePoint.ofChar '\n' || c == CodePoint.ofChar '\r'

/-- White space within a line. -/
def isInlineBlank (c : CodePoint) : Bool := c.isBlank && !isLineEnd c

/-- The text after the white space at its start. -/
def skipBlanks (t : Text) : Text := t.dropWhile isInlineBlank

/-- The text after a comment, if one starts here after white space. -/
def skipComment (t : Text) : Text :=
  match skipBlanks t with
  | c :: r => if c = CodePoint.ofChar '#' then r.dropWhile fun d => !isLineEnd d else t
  | [] => t

/-- The text after the end of the line, if nothing but white space is before it. -/
def endLine? (t : Text) : Option Text :=
  match skipBlanks t with
  | [] => some []
  | c :: r => if isLineEnd c then some r else none

/-- The text after what is left of the line. -/
def skipLine (t : Text) : Text := (t.dropWhile fun c => !isLineEnd c).drop 1

/-- The text up to a closing quote and the text after it; a quote after a backslash closes only if
no other one does. -/
def closeQuote? (quote : CodePoint) : Text → Option (Text × Text)
  | [] => none
  | c :: r =>
    if c = quote then some ([], r)
    else
      match r with
      | d :: s =>
        if c = CodePoint.ofChar '\\' ∧ d = quote then
          match closeQuote? quote s with
          | some (inner, rest) => some (c :: d :: inner, rest)
          | none => some ([c], s)
        else (closeQuote? quote (d :: s)).map fun (inner, rest) => (c :: inner, rest)
      | [] => none

/-- The control character that a letter stands for after a backslash. -/
def escaped? (letters : List (Char × Nat)) (c : CodePoint) : Option CodePoint :=
  (letters.find? fun (l, _) => CodePoint.ofChar l = c).map fun (_, n) => CodePoint.ofNat n

/-- The letters that a backslash gives a meaning in single quotes. -/
def singleEscapes : List (Char × Nat) := [('\\', 0x5c), ('\'', 0x27)]

/-- The letters that a backslash gives a meaning in double quotes. -/
def doubleEscapes : List (Char × Nat) :=
  [('\\', 0x5c), ('\'', 0x27), ('"', 0x22), ('a', 7), ('b', 8), ('f', 12), ('n', 10), ('r', 13),
    ('t', 9), ('v', 11)]

/-- The text with its escapes resolved. -/
def unescape (letters : List (Char × Nat)) : Text → Text
  | [] => []
  | [c] => [c]
  | c :: d :: r =>
    if c = CodePoint.ofChar '\\' then
      match escaped? letters d with
      | some e => e :: unescape letters r
      | none => c :: unescape letters (d :: r)
    else c :: unescape letters (d :: r)

/-- The part of a bare value before a comment. -/
def beforeComment : Text → Text
  | [] => []
  | c :: r =>
    if c.isBlank then
      match r.dropWhile CodePoint.isBlank with
      | d :: _ => if d = CodePoint.ofChar '#' then [] else c :: beforeComment r
      | [] => c :: beforeComment r
    else c :: beforeComment r

/-- The value at the start of a text, and the text after it. -/
def readValue? (t : Text) : Option (Text × Text) :=
  match t with
  | [] => some ([], [])
  | c :: r =>
    if c = CodePoint.ofChar '\'' then
      (closeQuote? c r).map fun (v, rest) => (unescape singleEscapes v, rest)
    else if c = CodePoint.ofChar '"' then
      (closeQuote? c r).map fun (v, rest) => (unescape doubleEscapes v, rest)
    else
      let line := t.takeWhile fun d => !isLineEnd d
      some (Text.trimRight CodePoint.isBlank (beforeComment line), t.drop line.length)

/-- The text after the word that may introduce an assignment. -/
def skipExport (t : Text) : Text :=
  let word : Text := "export"
  if word.isPrefixOf t then
    let r := t.drop word.length
    if r.head?.any isInlineBlank then skipBlanks r else t
  else t

/-- Whether a code point may be in a bare name. -/
def isNameChar (c : CodePoint) : Bool :=
  !c.isBlank && c != CodePoint.ofChar '=' && c != CodePoint.ofChar '#'

/-- The name at the start of a text, nothing before a comment, and the text after it. -/
def readName? (t : Text) : Option (Option Text × Text) :=
  match t with
  | [] => none
  | c :: r =>
    if c = CodePoint.ofChar '#' then some (none, t)
    else if c = CodePoint.ofChar '\'' then
      let name := r.takeWhile (· != c)
      if name.isEmpty || (r.drop name.length).isEmpty then none
      else some (some name, r.drop (name.length + 1))
    else
      let name := t.takeWhile isNameChar
      if name.isEmpty then none else some (some name, t.drop name.length)

/-- The assignment that a line makes, if it makes one, and the text of the lines after it. -/
def readLine (t : Text) : Option Assignment × Text :=
  let start := skipExport t
  match readName? start with
  | none => (none, skipLine start)
  | some (name, r) =>
    let r := skipBlanks r
    let (value, rest) : Option Text × Option Text :=
      match r with
      | c :: s =>
        if c = CodePoint.ofChar '=' then
          match readValue? (skipBlanks s) with
          | some (v, rest) => (some v, some rest)
          | none => (none, none)
        else (none, some r)
      | [] => (none, some [])
    match rest with
    | none => (none, skipLine (skipBlanks (r.drop 1)))
    | some rest =>
      let rest := skipComment rest
      match endLine? rest with
      | some rest => (name.map fun n => (n, value), rest)
      | none => (none, skipLine rest)

/-- The assignments of a text in order; there are at most as many lines as code points. -/
def readLines : Nat → Text → List Assignment
  | 0, _ => []
  | fuel + 1, t =>
    match t.dropWhile CodePoint.isBlank with
    | [] => []
    | c :: r =>
      let (a, rest) := readLine (c :: r)
      a.toList ++ readLines fuel rest

/-- What stands in braces after a dollar sign: the name of a variable and the text for a missing
one, and the text after the braces. -/
def readReference? (t : Text) : Option (Text × Text × Text) :=
  let close := CodePoint.ofNat 0x7d
  let name := t.takeWhile fun c => c != close && c != CodePoint.ofChar ':'
  match t.drop name.length with
  | [] => none
  | c :: r =>
    if c = close then some (name, [], r)
    else
      match r with
      | d :: s =>
        let standIn := s.takeWhile (· != close)
        if d = CodePoint.ofChar '-' ∧ (s.drop standIn.length) ≠ [] then
          some (name, standIn, s.drop (standIn.length + 1))
        else none
      | [] => none

/-- The text with the values of variables in place of their names. -/
def expand (value : Text → Option (Option Text)) : Nat → Text → Text
  | 0, t => t
  | _, [] => []
  | fuel + 1, c :: r =>
    match r with
    | d :: s =>
      if c = CodePoint.ofChar '$' ∧ d = CodePoint.ofNat 0x7b then
        match readReference? s with
        | some (name, standIn, rest) =>
          ((value name).getD (some standIn)).getD [] ++ expand value fuel rest
        | none => c :: expand value fuel r
      else c :: expand value fuel r
    | [] => [c]

/-- The last value of a name. -/
def last? (as : List Assignment) (name : Text) : Option (Option Text) :=
  (as.reverse.find? fun (n, _) => n = name).map (·.2)

/-- The assignments with the variables in their values resolved: by the assignments before, or by
the variables that are set outside. -/
def resolve (outside : List (Text × Text)) (as : List Assignment) : List Assignment :=
  as.foldl (fun done (name, value) =>
    let known (n : Text) : Option (Option Text) :=
      (last? done n).orElse fun _ => (outside.reverse.lookup n).map some
    done ++ [(name, value.map fun v => expand known v.length v)]) []

/-- The assignments that a file makes. -/
def ofText (outside : List (Text × Text)) (t : Text) : List Assignment :=
  resolve outside (readLines t.length t)

end Assignment

end RemoteRead.Settings
