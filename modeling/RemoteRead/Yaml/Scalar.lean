import RemoteRead.Yaml.Cursor

/-!
# Scalars of a YAML text

The text of a scalar in each of its styles: in quotes, as a block whose lines are kept or folded,
and plain. Inside quotes and in plain scalars a line break becomes a blank, and empty lines become
line feeds.
-/

namespace RemoteRead.Yaml

open Cursor

/-- The text that a line break inside a scalar is folded to, with the empty lines after it. -/
def folded (lineBreak : Text) (empty : List Text) : Text :=
  (if lineBreak ≠ Text.ofString "\n" then lineBreak
   else if empty.isEmpty then Text.ofString " " else []) ++ empty.flatten

/-! ## In quotes -/

/-- The escapes of one code point. -/
def shortEscapes : List (Char × Nat) :=
  [('0', 0x00), ('a', 0x07), ('b', 0x08), ('t', 0x09), ('\t', 0x09), ('n', 0x0a), ('v', 0x0b),
    ('f', 0x0c), ('r', 0x0d), ('e', 0x1b), (' ', 0x20), ('"', 0x22), ('\\', 0x5c), ('/', 0x2f),
    ('N', 0x85), ('_', 0xa0), ('L', 0x2028), ('P', 0x2029)]

/-- How many hexadecimal digits an escape has. -/
def escapeLength? (c : CodePoint) : Option Nat :=
  if c = CodePoint.ofChar 'x' then some 2
  else if c = CodePoint.ofChar 'u' then some 4
  else if c = CodePoint.ofChar 'U' then some 8
  else none

/-- The code point of a number. -/
def codePointOf (n : Nat) : Except Flaw CodePoint :=
  if h : n < 0x110000 then .ok ⟨n, h⟩
  else if n < 0x80000000 then .error (.fault (.badValue "chr() arg not in range(0x110000)"))
  else .error (.fault (.overflow "Python int too large to convert to C int"))

/-- The empty lines in front, with the blanks around them passed over; a mark between documents must
not stand in quotes. -/
def quotedBreaks : Nat → Cursor → Except Flaw (List Text × Cursor)
  | 0, c => .ok ([], c)
  | fuel + 1, c =>
    if c.isSeparator then .error .malformed
    else
      let c := c.skipWhile isBlank
      match c.lineBreak? with
      | none => .ok ([], c)
      | some (b, c) => do
        let (bs, c) ← quotedBreaks fuel c
        return (b :: bs, c)

/-- Blanks in quotes, or a folded line break. -/
def quotedBlanks (c : Cursor) : Except Flaw (Text × Cursor) := do
  let (blanks, c) := c.takeWhile isBlank
  match c.lineBreak? with
  | some (b, c) =>
    let (bs, c) ← quotedBreaks (c.rest.length + 1) c
    return (folded b bs, c)
  | none => if c.rest.isEmpty then .error .malformed else .ok (blanks, c)

/-- What an escape stands for, from behind its backslash. -/
def escaped (c : Cursor) : Except Flaw (Text × Cursor) :=
  match c.rest with
  | [] => .error .malformed
  | d :: r =>
    match shortEscapes.find? fun (e, _) => CodePoint.ofChar e = d, escapeLength? d with
    | some (_, n), _ => .ok ([CodePoint.ofNat n], c.next)
    | none, some n => do
      let digits := r.take n
      if digits.length = n ∧ digits.all CodePoint.isHexDigit then
        let e ← codePointOf (digits.foldl (fun v x => 16 * v + x.hexVal) 0)
        return ([e], c.advance (n + 1))
      else .error .malformed
    | none, none =>
      match c.lineBreak? with
      | some (_, c) => do
        let (bs, c) ← quotedBreaks (c.rest.length + 1) c
        return (bs.flatten, c)
      | none => .error .malformed

/-- The text up to the closing quote, and the place after that. Each step takes a code point, so
that more fuel than code points is never used up. -/
def quotedScalar (double : Bool) : Nat → Cursor → Except Flaw (Text × Cursor)
  | 0, _ => .error .malformed
  | fuel + 1, c =>
    match c.rest with
    | [] => .error .malformed
    | d :: r =>
      if isBlank d || isBreak d then do
        let (blanks, c) ← quotedBlanks c
        let (t, c) ← quotedScalar double fuel c
        return (blanks ++ t, c)
      else if double then
        if d = CodePoint.ofChar '"' then .ok ([], c.next)
        else if d = CodePoint.ofChar '\\' then do
          let (e, c) ← escaped c.next
          let (t, c) ← quotedScalar double fuel c
          return (e ++ t, c)
        else do
          let (t, c) ← quotedScalar double fuel c.next
          return (d :: t, c)
      else if d = CodePoint.ofChar '\'' then
        if r.head? = some (CodePoint.ofChar '\'') then do
          let (t, c) ← quotedScalar double fuel (c.advance 2)
          return (d :: t, c)
        else .ok ([], c.next)
      else do
        let (t, c) ← quotedScalar double fuel c.next
        return (d :: t, c)

/-! ## Blocks -/

/-- What happens to the line breaks at the end of a block. -/
inductive Chomping where
  /-- One is kept. -/
  | clip
  /-- None is kept. -/
  | strip
  /-- All are kept. -/
  | keep
deriving DecidableEq

/-- The chomping that a sign stands for. -/
def chomping? (c : Cursor) : Option Chomping :=
  if c.sees 0 (oneOf "+") then some .keep else if c.sees 0 (oneOf "-") then some .strip else none

/-- The chomping and the indentation that the head of a block gives, in either order. -/
def blockHead (c : Cursor) : Except Flaw (Chomping × Option Nat × Cursor) := do
  let digit? (c : Cursor) : Option Nat := (c.peek 0).bind fun d =>
    if d.isDigit then some d.digitVal else none
  let (chomping, c) := ((chomping? c).map fun k => (some k, c.next)).getD (none, c)
  let (digit, c) := ((digit? c).map fun n => (some n, c.next)).getD (none, c)
  let (chomping, c) :=
    match chomping, digit, chomping? c with
    | none, some _, some k => (some k, c.next)
    | _, _, _ => (chomping, c)
  if digit = some 0 then throw .malformed
  if !c.isClosed then throw .malformed
  return (chomping.getD .clip, digit, ← c.skipLineRest)

/-- The empty lines in front and the greatest column that their blanks and those of the first line
reach. -/
def blockIndentation : Nat → Cursor → Nat → List Text × Nat × Cursor
  | 0, c, widest => ([], widest, c)
  | fuel + 1, c, widest =>
    if c.sees 0 isSpace then
      blockIndentation fuel c.next (max widest c.next.column)
    else
      match c.lineBreak? with
      | none => ([], widest, c)
      | some (b, c) =>
        let (bs, widest, c) := blockIndentation fuel c widest
        (b :: bs, widest, c)

/-- The place after the blanks in front, up to a column. -/
def skipIndentation (indent : Nat) (c : Cursor) : Cursor :=
  c.advance (min (indent - c.column) (c.rest.takeWhile isSpace).length)

/-- The empty lines in front, each with the blanks up to a column passed over. -/
def blockBreaks (indent : Nat) : Nat → Cursor → List Text × Cursor
  | 0, c => ([], c)
  | fuel + 1, c =>
    let c := skipIndentation indent c
    match c.lineBreak? with
    | none => ([], c)
    | some (b, c) =>
      let (bs, c) := blockBreaks indent fuel c
      (b :: bs, c)

/-- The lines of a block that stand at a column: their text, the last line break and the empty lines
after it, and the place after them. In a folded block the break between two lines that begin with no
blank is folded. -/
def blockLines (isFolded : Bool) (indent : Nat) :
    Nat → Cursor → List Text → Text × Text × List Text × Cursor
  | 0, c, breaks => ([], [], breaks, c)
  | fuel + 1, c, breaks =>
    if c.column = indent ∧ c.rest ≠ [] then
      let (line, c') := c.takeWhile fun d => !isBreak d
      let (lineBreak, c') := c'.lineBreak?.getD ([], c')
      let (empty, c') := blockBreaks indent (c'.rest.length + 1) c'
      if c'.column = indent ∧ c'.rest ≠ [] then
        let between :=
          if isFolded && lineBreak == Text.ofString "\n" && !c.sees 0 isBlank && !c'.sees 0 isBlank
          then if empty.isEmpty then Text.ofString " " else []
          else lineBreak
        let (t, tail) := blockLines isFolded indent fuel c' empty
        (breaks.flatten ++ line ++ between ++ t, tail)
      else (breaks.flatten ++ line, lineBreak, empty, c')
    else ([], [], breaks, c)

/-- The text of a block from behind its sign, inside an indentation, and the place after it. -/
def blockScalar (isFolded : Bool) (outer : Int) (c : Cursor) : Except Flaw (Text × Cursor) := do
  let (chomping, given, c) ← blockHead c
  let least : Nat := max (outer + 1).toNat 1
  let (empty, indent, c) : List Text × Nat × Cursor :=
    match given with
    | none =>
      let (empty, widest, c) := blockIndentation (c.rest.length + 1) c 0
      (empty, max least widest, c)
    | some n =>
      let indent := least + n - 1
      let (empty, c) := blockBreaks indent (c.rest.length + 1) c
      (empty, indent, c)
  let (t, lineBreak, empty, c) := blockLines isFolded indent (c.rest.length + 1) c empty
  match chomping with
  | .strip => return (t, c)
  | .clip => return (t ++ lineBreak, c)
  | .keep => return (t ++ lineBreak ++ empty.flatten, c)

/-! ## Plain -/

/-- How many code points in front belong to a plain scalar. -/
def plainLength (inFlow : Bool) : Text → Nat
  | [] => 0
  | d :: r =>
    if isBlank d || isBreak d then 0
    else if d = CodePoint.ofChar ':' ∧
        r.head?.all (fun e => isBlank e || isBreak e || (inFlow && oneOf ",[]\x7b\x7d" e)) then 0
    else if inFlow && oneOf ",?[]\x7b\x7d" d then 0
    else plainLength inFlow r + 1

/-- The empty lines in front, with the blanks around them passed over, or nothing if a mark between
documents is among them. -/
def plainBreaks : Nat → Cursor → Option (List Text) × Cursor
  | 0, c => (some [], c)
  | fuel + 1, c =>
    if c.isSeparator && c.column == 0 then (none, c)
    else
      let c := c.skipWhile isSpace
      match c.lineBreak? with
      | none => (some [], c)
      | some (b, c) =>
        let (bs, c) := plainBreaks fuel c
        (bs.map (b :: ·), c)

/-- The blanks after a piece of a plain scalar, or a folded line break; the flag says which. -/
def plainBlanks (c : Cursor) : Text × Bool × Cursor :=
  let (blanks, c) := c.takeWhile isSpace
  match c.lineBreak? with
  | none => (blanks, false, c)
  | some (b, c) =>
    let (bs, c) := plainBreaks (c.rest.length + 1) c
    ((bs.map (folded b)).getD [], true, c)

/-- The text of a plain scalar inside an indentation, whether a line break follows it, and the place
after it. -/
def plainScalar (inFlow : Bool) (outer : Int) :
    Nat → Cursor → Text → Bool → Text × Bool × Cursor
  | 0, c, _, broken => ([], broken, c)
  | fuel + 1, c, blanks, broken =>
    let n := plainLength inFlow c.rest
    if n = 0 ∨ c.sees 0 (oneOf "#") then ([], broken, c)
    else
      let piece := c.rest.take n
      let (next, broken, c) := plainBlanks (c.advance n)
      if next.isEmpty || (!inFlow && (c.column : Int) < outer + 1) then (blanks ++ piece, broken, c)
      else
        let (t, broken, c) := plainScalar inFlow outer fuel c next broken
        (blanks ++ piece ++ t, broken, c)

end RemoteRead.Yaml
