import RemoteRead.Host
import RemoteRead.Number.Numeral
import RemoteRead.Value.Basic

/-!
# Reading JSON

The reader keeps the position in code points, for its messages. It also takes `NaN`, `Infinity` and
`-Infinity`, and lone surrogates in escapes; an escaped pair of surrogates is joined. Whole numbers
have any size up to the digits that a numeral may have, all others become doubles. A repeated key
keeps its first place and its last value. How deeply arrays and objects may be nested is up to the
host and to what the document is for.
-/

namespace RemoteRead.Json

/-- What is wrong with a document. -/
inductive ReadError where
  /-- The text is malformed at a position, for the reason that the message gives. -/
  | malformed (reason : Text) (position : Nat)
  /-- A whole number has too many digits. -/
  | tooLong (digits : Nat)
  /-- Arrays or objects are nested too deeply; the flag says that an object was met. -/
  | tooDeep (object : Bool)
deriving DecidableEq

/-- The blanks between tokens. -/
def isSpace (c : CodePoint) : Bool :=
  c.val == 0x20 || c.val == 0x09 || c.val == 0x0a || c.val == 0x0d

/-- The position and the text after blanks. -/
def skipSpace (pos : Nat) (t : Text) : Nat × Text :=
  (pos + (t.takeWhile isSpace).length, t.dropWhile isSpace)

/-- The number that exactly four hexadecimal digits at the front denote. -/
def hex4 (t : Text) : Option Nat :=
  let ds := t.take 4
  if ds.length = 4 ∧ ds.all CodePoint.isHexDigit then
    some (ds.foldl (fun v c => 16 * v + c.hexVal) 0)
  else none

/-- The code point of a one-letter escape. -/
def shortEscape (c : CodePoint) : Option CodePoint :=
  if c = CodePoint.ofChar '"' ∨ c = CodePoint.ofChar '\\' ∨ c = CodePoint.ofChar '/' then some c
  else if c = CodePoint.ofChar 'b' then some (CodePoint.ofNat 0x08)
  else if c = CodePoint.ofChar 'f' then some (CodePoint.ofNat 0x0c)
  else if c = CodePoint.ofChar 'n' then some (CodePoint.ofNat 0x0a)
  else if c = CodePoint.ofChar 'r' then some (CodePoint.ofNat 0x0d)
  else if c = CodePoint.ofChar 't' then some (CodePoint.ofNat 0x09)
  else none

/-- Where a string without an end starts. -/
def unterminated (start : Nat) : ReadError := .malformed "Unterminated string starting at" start

/-- The rest of a string after its opening quote, which stands at `start`. A `\u` escape needs a
code point behind it; the second of a pair of escapes is read only if one stands behind that too. -/
def stringRest (start pos : Nat) : Text → Except ReadError (Text × Nat × Text)
  | [] => .error (unterminated start)
  | c :: r =>
    if c = CodePoint.ofChar '"' then .ok ([], pos + 1, r)
    else if c = CodePoint.ofChar '\\' then
      match r with
      | [] => .error (unterminated start)
      | e :: s =>
        if e = CodePoint.ofChar 'u' then
          if s.length ≤ 4 then .error (.malformed "Invalid \\uXXXX escape" (pos + 1))
          else
            match hex4 s with
            | none => .error (.malformed "Invalid \\uXXXX escape" (pos + 1))
            | some n =>
              let first := CodePoint.ofNat n
              if first.isLeadingSurrogate && 10 < s.length &&
                  (s.drop 4).take 2 == Text.ofString "\\u" then
                match hex4 (s.drop 6) with
                | none => .error (.malformed "Invalid \\uXXXX escape" (pos + 7))
                | some m =>
                  -- the second escape is read again by itself where it does not belong to the first
                  if (CodePoint.ofNat m).isTrailingSurrogate then do
                    let (t, p, rest) ← stringRest start (pos + 12) (s.drop 10)
                    return (CodePoint.ofNat (0x10000 + (n - 0xd800) * 0x400 + (m - 0xdc00)) :: t,
                      p, rest)
                  else do
                    let (t, p, rest) ← stringRest start (pos + 6) (s.drop 4)
                    return (first :: t, p, rest)
              else do
                let (t, p, rest) ← stringRest start (pos + 6) (s.drop 4)
                return (first :: t, p, rest)
        else
          match shortEscape e with
          | none => .error (.malformed "Invalid \\escape" pos)
          | some d => do
            let (t, p, rest) ← stringRest start (pos + 2) s
            return (d :: t, p, rest)
    else if c.val < 0x20 then .error (.malformed "Invalid control character at" pos)
    else do
      let (t, p, rest) ← stringRest start (pos + 1) r
      return (c :: t, p, rest)
termination_by t => t.length
decreasing_by all_goals simp only [List.length_cons, List.length_drop]; omega

/-- The words that stand for a value. -/
def words : List (Text × Value) :=
  [("null", .null), ("true", .bool true), ("false", .bool false), ("NaN", .float Binary64.nan),
    ("Infinity", .float (Binary64.infinity false)),
    ("-Infinity", .float (Binary64.infinity true))]

/-- The fraction of a number, a point and at least one digit, and the rest. -/
def fractionPart (t : Text) : Text × Text :=
  match t with
  | c :: r =>
    let ds := r.takeWhile CodePoint.isDigit
    if c = CodePoint.ofChar '.' ∧ !ds.isEmpty then (ds, r.dropWhile CodePoint.isDigit) else ([], t)
  | [] => ([], t)

/-- The exponent of a number and how many code points it takes. -/
def exponentPart (t : Text) : Option (Int × Nat) :=
  match t with
  | c :: r =>
    if c = CodePoint.ofChar 'e' ∨ c = CodePoint.ofChar 'E' then
      let (negative, body) := Number.takeSign r
      let ds := body.takeWhile CodePoint.isDigit
      if ds.isEmpty then none
      else
        let n : Int := Number.digitsVal ds
        some (if negative then -n else n, 1 + (r.length - body.length) + ds.length)
    else none
  | [] => none

/-- A number at the front of a text: a sign, digits without a leading zero, a fraction, an
exponent. -/
def number (pos : Nat) (t : Text) : Except ReadError (Value × Nat × Text) :=
  let (negative, body) := match t with
    | c :: r => if c = CodePoint.ofChar '-' then (true, r) else (false, t)
    | [] => (false, t)
  let whole := match body with
    | c :: _ => if c = CodePoint.ofChar '0' then [c] else body.takeWhile CodePoint.isDigit
    | [] => []
  if whole.isEmpty then .error (.malformed "Expecting value" pos)
  else
    let (fraction, rest) := fractionPart (body.drop whole.length)
    -- neither fraction nor exponent: a whole number, whose digits are counted
    match fraction, exponentPart rest with
    | [], none =>
      if Number.maxDigits < whole.length then .error (.tooLong whole.length)
      else
        let n : Int := Number.digitsVal whole
        .ok (.int (if negative then -n else n), pos + (t.length - rest.length), rest)
    | _, e =>
      let (exponent, width) := e.getD (0, 0)
      let x := Binary64.ofDecimal negative (Number.digitsVal (whole ++ fraction))
        (exponent - fraction.length)
      let rest := rest.drop width
      .ok (.float x, pos + (t.length - rest.length), rest)

mutual

/-- A value at the front of a text that starts with no blank. Every call passes over a code point,
so that more fuel than code points is never used up; `depth` is how many levels may still be opened.
-/
def value : Nat → Nat → Nat → Text → Except ReadError (Value × Nat × Text)
  | 0, _, pos, _ => .error (.malformed "Expecting value" pos)
  | fuel + 1, depth, pos, t =>
    match t with
    | [] => .error (.malformed "Expecting value" pos)
    | c :: r =>
      if c = CodePoint.ofChar '"' then do
        let (s, p, rest) ← stringRest pos (pos + 1) r
        return (.text s, p, rest)
      else if c.val = 0x7b then
        match depth with
        | 0 => .error (.tooDeep true)
        | depth + 1 =>
          -- an object without members may have blanks in it
          let (p, s) := skipSpace (pos + 1) r
          match s with
          | d :: s' =>
            if d.val = 0x7d then .ok (.mapping [], p + 1, s') else members fuel depth p s []
          | [] => members fuel depth p s []
      else if c = CodePoint.ofChar '[' then
        match depth with
        | 0 => .error (.tooDeep false)
        | depth + 1 =>
          let (p, s) := skipSpace (pos + 1) r
          match s with
          | d :: s' =>
            if d = CodePoint.ofChar ']' then .ok (.list [], p + 1, s') else items fuel depth p s []
          | [] => items fuel depth p s []
      else
        -- `-Infinity` is tried before numbers, since it starts like one
        match words.find? fun (w, _) => w.isPrefixOf t with
        | some (w, v) => .ok (v, pos + w.length, t.drop w.length)
        | none => number pos t

/-- The items of an array up to its end; `done` holds those already read, the last first. -/
def items : Nat → Nat → Nat → Text → List Value → Except ReadError (Value × Nat × Text)
  | 0, _, pos, _, _ => .error (.malformed "Expecting value" pos)
  | fuel + 1, depth, pos, t, done => do
    let (v, p, r) ← value fuel depth pos t
    let (p, r) := skipSpace p r
    match r with
    | [] => .error (.malformed "Expecting ',' delimiter" p)
    | c :: s =>
      if c = CodePoint.ofChar ']' then return (.list (v :: done).reverse, p + 1, s)
      else if c = CodePoint.ofChar ',' then
        let (p, s) := skipSpace (p + 1) s
        items fuel depth p s (v :: done)
      else .error (.malformed "Expecting ',' delimiter" p)

/-- The members of an object up to its end; `done` holds those already read. -/
def members : Nat → Nat → Nat → Text → List (Value × Value) → Except ReadError (Value × Nat × Text)
  | 0, _, pos, _, _ => .error (.malformed "Expecting value" pos)
  | fuel + 1, depth, pos, t, done => do
    match t with
    | [] => .error (.malformed "Expecting property name enclosed in double quotes" pos)
    | q :: r =>
      if q ≠ CodePoint.ofChar '"' then
        .error (.malformed "Expecting property name enclosed in double quotes" pos)
      else
        let (key, p, r) ← stringRest pos (pos + 1) r
        let (p, r) := skipSpace p r
        match r with
        | [] => .error (.malformed "Expecting ':' delimiter" p)
        | c :: r =>
          if c ≠ CodePoint.ofChar ':' then .error (.malformed "Expecting ':' delimiter" p)
          else
            let (p, r) := skipSpace (p + 1) r
            let (v, p, r) ← value fuel depth p r
            let done := Value.put done (.text key) v
            let (p, r) := skipSpace p r
            match r with
            | [] => .error (.malformed "Expecting ',' delimiter" p)
            | c :: s =>
              if c.val = 0x7d then return (.mapping done, p + 1, s)
              else if c = CodePoint.ofChar ',' then
                let (p, s) := skipSpace (p + 1) s
                members fuel depth p s done
              else .error (.malformed "Expecting ',' delimiter" p)

end

/-- The value of a document, which is the answer of a store unless it is said to be for something
else. A mark for the byte order in front is refused. -/
def read [Host] (t : Text) (use : DocumentUse := .answer) : Except ReadError Value :=
  if (t.head?.map CodePoint.val) = some 0xfeff then
    .error (.malformed "Unexpected UTF-8 BOM (decode using utf-8-sig)" 0)
  else do
    let (pos, s) := skipSpace 0 t
    let (v, p, r) ← value (2 * t.length + 2) (Host.depth use) pos s
    let (p, r) := skipSpace p r
    if r.isEmpty then return v else .error (.malformed "Extra data" p)

/-- The line and the column of a position, both from 1. -/
def lineColumn (t : Text) (pos : Nat) : Nat × Nat :=
  let before := t.take pos
  let lastLine := before.reverse.takeWhile fun c => c.val != 0x0a
  (before.countP (fun c => c.val == 0x0a) + 1, lastLine.length + 1)

/-- The message about an error in a document. -/
def ReadError.message (t : Text) : ReadError → Text
  | .malformed reason pos =>
    let (line, column) := lineColumn t pos
    reason ++ ": line " ++ Text.ofNat line ++ " column " ++ Text.ofNat column ++ " (char " ++
      Text.ofNat pos ++ ")"
  | .tooLong n =>
    "Exceeds the limit (4300 digits) for integer string conversion: value has " ++ Text.ofNat n ++
      " digits; use sys.set_int_max_str_digits() to increase the limit"
  | .tooDeep object =>
    "maximum recursion depth exceeded while decoding a JSON " ++
      (if object then "object" else "array") ++ " from a unicode string"

end RemoteRead.Json
