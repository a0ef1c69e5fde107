import RemoteRead.Number.Binary64
import RemoteRead.Text.Blank
import RemoteRead.Text.Digit

/-!
# Reading numerals

The numerals that a text cell, a sample value or a setting may hold. Digits of any script count,
single underscores may stand between digits, and blanks around the numeral are passed over. An
integer numeral has at most `maxDigits` digits.
-/

namespace RemoteRead.Number

/-- The most digits that an integer numeral may have. -/
def maxDigits : Nat := 4300

/-- The code points with digits of any script made ASCII ones. -/
def asciiDigits (t : Text) : Text :=
  t.map fun c => match c.decimalVal? with
    | some n => CodePoint.ofNat (0x30 + n)
    | none => c

/-- The number that a list of digits denotes. -/
def digitsVal (ds : Text) : Nat := ds.foldl (fun n c => 10 * n + c.digitVal) 0

/-- The digits of a run in which single underscores may stand between digits, and the text after
it. Fails where an underscore is not followed by a digit. -/
def digitRun : Text → Option (Text × Text)
  | [] => some ([], [])
  | c :: r =>
    if c.isDigit then
      match r with
      | u :: d :: s =>
        if u = CodePoint.ofChar '_' then
          if d.isDigit then (digitRun (d :: s)).map fun (ds, rest) => (c :: ds, rest) else none
        else (digitRun (u :: d :: s)).map fun (ds, rest) => (c :: ds, rest)
      | [u] => if u = CodePoint.ofChar '_' then none
               else (digitRun [u]).map fun (ds, rest) => (c :: ds, rest)
      | [] => some ([c], [])
    else some ([], c :: r)

/-- The sign of a numeral and the rest of it. -/
def takeSign : Text → Bool × Text
  | [] => (false, [])
  | c :: r => if c = CodePoint.ofChar '-' then (true, r)
              else if c = CodePoint.ofChar '+' then (false, r) else (false, c :: r)

/-- Why a text is no integer numeral. -/
inductive NumeralError where
  /-- The text is not of the form. -/
  | malformed
  /-- The numeral has too many digits. -/
  | tooLong (digits : Nat)
deriving DecidableEq

/-- The integer that a numeral denotes. -/
def readInt (t : Text) : Except NumeralError Int :=
  let (negative, body) := takeSign (Text.trim CodePoint.isNumeralBlank (asciiDigits t))
  match digitRun body with
  | some (d :: ds, []) =>
    if maxDigits < (d :: ds).length then .error (.tooLong (d :: ds).length)
    else
      let n : Int := digitsVal (d :: ds)
      .ok (if negative then -n else n)
  | _ => .error .malformed

/-- The words for infinity and NaN, in any case. -/
def readSpecial (negative : Bool) (t : Text) : Option Binary64 :=
  let word := t.map fun c => if c.within 0x41 0x5a then CodePoint.ofNat (c.val + 0x20) else c
  if word = Text.ofString "inf" ∨ word = Text.ofString "infinity" then
    some (Binary64.infinity negative)
  else if word = Text.ofString "nan" then
    some (if negative then Binary64.neg Binary64.nan else Binary64.nan)
  else none

/-- The exponent part of a numeral: nothing, or an `e`, a sign and digits up to the end. -/
def readExponent : Text → Option Int
  | [] => some 0
  | c :: r =>
    if c = CodePoint.ofChar 'e' ∨ c = CodePoint.ofChar 'E' then
      let (negative, body) := takeSign r
      match digitRun body with
      | some (d :: ds, []) =>
        let n : Int := digitsVal (d :: ds)
        some (if negative then -n else n)
      | _ => none
    else none

/-- The double nearest to what a numeral denotes: digits with an optional point and exponent, or a
word for infinity or NaN. -/
def readFloat (t : Text) : Option Binary64 :=
  let (negative, body) := takeSign (Text.trim CodePoint.isNumeralBlank (asciiDigits t))
  match readSpecial negative body with
  | some x => some x
  | none => do
    let (whole, rest) ← digitRun body
    let (fraction, rest) ← match rest with
      | c :: r => if c = CodePoint.ofChar '.' then digitRun r else some ([], c :: r)
      | [] => some ([], [])
    if whole.isEmpty && fraction.isEmpty then none
    else
      let exponent ← readExponent rest
      some (Binary64.ofDecimal negative (digitsVal (whole ++ fraction))
        (exponent - fraction.length))

end RemoteRead.Number
