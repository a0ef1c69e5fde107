import RemoteRead.Calendar.Moment
import RemoteRead.Yaml.Cursor

/-!
# Plain scalars

Which tag a plain scalar has by its form: nothing, a truth value, a number, a date or moment, one of
the marks for merging and defaults, or else text. Whole numbers may be binary, octal with a leading
zero, decimal, hexadecimal or in base sixty, with underscores in between; a float needs a point, and
its exponent a sign.
-/

namespace RemoteRead.Yaml

/-- The tags that the format defines. -/
def standardTag (name : Text) : Text := "tag:yaml.org,2002:" ++ name

namespace Plain

/-- A digit or an underscore. -/
def isDigitPart (c : CodePoint) : Bool := c.isDigit || oneOf "_" c

/-- The text without a sign in front. -/
def dropSign (t : Text) : Text := if t.head?.any (oneOf "+-") then t.drop 1 else t

/-- A text of at least one code point, all of a class. -/
def isRun (p : CodePoint → Bool) (t : Text) : Bool := !t.isEmpty && t.all p

/-- A digit, then digits and underscores. -/
def isDigits (t : Text) : Bool := t.head?.any CodePoint.isDigit && t.all isDigitPart

/-- One or two digits below sixty. -/
def isSixtieth (t : Text) : Bool :=
  match t with
  | [a] => a.isDigit
  | [a, b] => oneOf "012345" a && b.isDigit
  | _ => false

/-- The word for a truth value. -/
def isTruthValue (t : Text) : Bool :=
  (["yes", "Yes", "YES", "no", "No", "NO", "true", "True", "TRUE", "false", "False", "FALSE", "on",
    "On", "ON", "off", "Off", "OFF"] : List String).any fun w => Text.ofString w == t

/-- The text after a marker at its front. -/
def after? (marker : String) (t : Text) : Option Text :=
  if (Text.ofString marker).isPrefixOf t then some (t.drop marker.length) else none

/-- A whole number. -/
def isInteger (t : Text) : Bool :=
  let u := dropSign t
  (after? "0b" u).any (isRun (oneOf "01_")) || (after? "0" u).any (isRun (oneOf "01234567_")) ||
    u == Text.ofString "0" ||
    (after? "0x" u).any (isRun fun c => c.isHexDigit || oneOf "_" c) ||
    (!u.head?.any (oneOf "0") &&
      match Text.splitOn ":" u with
      | first :: rest => isDigits first && rest.all isSixtieth
      | [] => false)

/-- An exponent, which has a sign, or nothing. -/
def isExponent : Text → Bool
  | [] => true
  | e :: s :: ds => oneOf "eE" e && oneOf "+-" s && isRun CodePoint.isDigit ds
  | _ => false

/-- Digits and underscores, then an exponent or nothing. -/
def isFraction (t : Text) : Bool := isExponent (t.dropWhile isDigitPart)

/-- Digits in base sixty with a colon at least. -/
def isSexagesimal (t : Text) : Bool :=
  match Text.splitOn ":" t with
  | first :: second :: rest => isDigits first && (second :: rest).all isSixtieth
  | _ => false

/-- A float. -/
def isFloat (t : Text) : Bool :=
  let u := dropSign t
  match Text.cut? "." u with
  | none => false
  | some (whole, fraction) =>
    (isDigits whole && isFraction fraction) ||
      (isSexagesimal whole && fraction.all isDigitPart) ||
      (whole.isEmpty &&
        ((["inf", "Inf", "INF"] : List String).any fun w => Text.ofString w == fraction)) ||
      (t.head? == some (CodePoint.ofChar '.') &&
        ((fraction.head?.any CodePoint.isDigit && isFraction fraction) ||
          ((["nan", "NaN", "NAN"] : List String).any fun w => Text.ofString w == fraction)))

/-! ## Dates and moments -/

/-- The fields of a date or moment. -/
structure DateFields where
  /-- The year. -/
  year : Nat
  /-- The month. -/
  month : Nat
  /-- The day. -/
  day : Nat
  /-- Whether month and day have two digits each. -/
  full : Bool
  /-- Hour, minute, second, the digits of the fraction, and the offset in minutes, if any. -/
  clock : Option (Nat × Nat × Nat × Text × Option Int)

/-- Between `least` and `most` digits in front, as many as there are, and the rest. -/
def digits? (least most : Nat) (t : Text) : Option (Nat × Nat × Text) :=
  let ds := (t.take most).takeWhile CodePoint.isDigit
  if least ≤ ds.length then
    some (ds.foldl (fun v d => 10 * v + d.digitVal) 0, ds.length, t.drop ds.length)
  else none

/-- The offset at the end of a moment, in minutes. -/
def offset? (t : Text) : Option (Option Int) :=
  match t.dropWhile isBlank with
  | [] => if t.isEmpty then some none else none
  | c :: r =>
    if c = CodePoint.ofChar 'Z' then if r.isEmpty then some (some 0) else none
    else if oneOf "+-" c then do
      let (hours, _, r) ← digits? 1 2 r
      let minutes ← match r with
        | [] => some 0
        | _ => do
          let (minutes, _, r) ← digits? 2 2 (← after? ":" r)
          if r.isEmpty then some minutes else none
      let total : Int := (hours * 60 + minutes : Nat)
      some (some (if c = CodePoint.ofChar '-' then -total else total))
    else none

/-- The time of a moment, with what is between it and the date. -/
def clock? (t : Text) : Option (Nat × Nat × Nat × Text × Option Int) := do
  let t ← match t with
    | [] => none
    | c :: r =>
      if oneOf "Tt" c then some r
      else if isBlank c then some (r.dropWhile isBlank)
      else none
  let (hour, _, t) ← digits? 1 2 t
  let (minute, _, t) ← digits? 2 2 (← after? ":" t)
  let (second, _, t) ← digits? 2 2 (← after? ":" t)
  let (fraction, t) := match after? "." t with
    | some r => (r.takeWhile CodePoint.isDigit, r.dropWhile CodePoint.isDigit)
    | none => ([], t)
  return (hour, minute, second, fraction, ← offset? t)

/-- The fields of a date or moment, if the text is one. -/
def dateFields? (t : Text) : Option DateFields := do
  let (year, _, t) ← digits? 4 4 t
  let (month, monthLength, t) ← digits? 1 2 (← after? "-" t)
  let (day, dayLength, t) ← digits? 1 2 (← after? "-" t)
  let clock ← if t.isEmpty then some none else (clock? t).map some
  return { year, month, day, full := monthLength == 2 && dayLength == 2, clock }

/-- A date with all its digits, or a moment. -/
def isTimestamp (t : Text) : Bool := (dateFields? t).any fun f => f.full || f.clock.isSome

/-! ## Tags -/

/-- The tag of a plain scalar. -/
def tag (t : Text) : Text :=
  standardTag <|
    if t.isEmpty then "null"
    else if isTruthValue t then "bool"
    else if isFloat t then "float"
    else if isInteger t then "int"
    else if t = Text.ofString "<<" then "merge"
    else if (["~", "null", "Null", "NULL"] : List String).any (fun w => Text.ofString w == t) then
      "null"
    else if isTimestamp t then "timestamp"
    else if t = Text.ofString "=" then "value"
    else if (["!", "&", "*"] : List String).any (fun w => Text.ofString w == t) then "yaml"
    else "str"

end Plain

end RemoteRead.Yaml
