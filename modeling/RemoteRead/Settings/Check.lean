import RemoteRead.Environment
import RemoteRead.Number.Numeral
import RemoteRead.Settings.Flaw
import RemoteRead.Text.Utf8

/-!
# Checking the values of settings

A check turns a value of unknown shape into one of the type that a setting has, or says what is
wrong with it. Checks are lenient: a numeral in a text counts as its number, and a truth value as
zero or one.
-/

namespace RemoteRead.Settings

/-- A checked value, or all flaws that were found. -/
abbrev Checked (α : Type) := Except (List Flaw) α

namespace Checked

/-- The value is refused. -/
def refuse {α : Type} (given : Value) (o : Objection) : Checked α := .error [⟨[], o, given⟩]

/-- The check of a part, with flaws placed inside the whole. -/
def inside {α : Type} (part : Text) (c : Checked α) : Checked α :=
  c.mapError fun flaws => flaws.map fun f => { f with location := part :: f.location }

/-- Two checks together: the flaws of both are reported. -/
def both {α β γ : Type} (f : α → β → γ) (a : Checked α) (b : Checked β) : Checked γ :=
  match a, b with
  | .ok x, .ok y => .ok (f x y)
  | .error e, .error e' => .error (e ++ e')
  | .error e, .ok _ => .error e
  | .ok _, .error e => .error e

/-- A further argument that is checked too. -/
def apply {α β : Type} (f : Checked (α → β)) (a : Checked α) : Checked β :=
  both (fun g x => g x) f a

/-- The checks of all items together. -/
def all {α : Type} : List (Checked α) → Checked (List α)
  | [] => .ok []
  | c :: cs => both (· :: ·) c (all cs)

end Checked

open Checked

/-- A text; octets count as the text that they encode. -/
def checkText (v : Value) : Checked Text :=
  match v with
  | .text t => if t.all CodePoint.isScalar then .ok t else refuse v .notEncodable
  | .octets bs =>
    match Text.Utf8.decode bs with
    | .ok t => .ok t
    | .error _ => refuse v .notEncodable
  | _ => refuse v .notText

/-- The whole number that a numeral denotes: digits with single underscores between them, and zeros
behind a point. -/
def intNumeral? (t : Text) : Option Int := do
  let (negative, body) := Number.takeSign (Text.trim CodePoint.isNumeralBlank t)
  let (digits, rest) ← Number.digitRun body
  let noFraction := match rest with
    | [] => true
    | c :: zeros => c = CodePoint.ofChar '.' && zeros.all fun d => d = CodePoint.ofChar '0'
  if digits.isEmpty || !noFraction then none
  else
    let n : Int := Number.digitsVal digits
    return if negative then -n else n

/-- The whole number in a text. -/
def checkIntText (v : Value) (t : Text) : Checked Int :=
  if Number.maxDigits < t.length then refuse v .longNumeral
  else (intNumeral? t).elim (refuse v .noIntNumeral) .ok

/-- A whole number. -/
def checkAnyInt (v : Value) : Checked Int :=
  match v with
  | .bool b => .ok (if b then 1 else 0)
  | .int n => .ok n
  | .float x =>
    if !x.isFinite then refuse v .notFinite
    else x.toInt?.elim (refuse v .fractional) .ok
  | .text t => checkIntText v t
  | .octets bs =>
    match Text.Utf8.decode bs with
    | .ok t => checkIntText v t
    | .error _ => refuse v .noIntNumeral
  | _ => refuse v .notInt

/-- A whole number of at least `least` and, if given, at most `most`. -/
def checkInt (least : Int) (most : Option Int) (v : Value) : Checked Int :=
  (checkAnyInt v).bind fun n =>
    if most.any (· < n) then refuse v (.above (most.getD 0))
    else if n < least then refuse v (.below least)
    else .ok n

/-- The double in a text. -/
def checkFloatText (v : Value) (t : Text) : Checked Binary64 :=
  if (Text.trim CodePoint.isNumeralBlank t).any fun c => 0x80 ≤ c.val then refuse v .noNumeral
  else (Number.readFloat t).elim (refuse v .noNumeral) .ok

/-- A double. -/
def checkFloat (v : Value) : Checked Binary64 :=
  match v with
  | .bool b => .ok (Binary64.ofInt (if b then 1 else 0))
  | .int n =>
    let x := Binary64.ofInt n
    if x.isFinite then .ok x else refuse v .notNumber
  | .float x => .ok x
  | .text t => checkFloatText v t
  | .octets bs =>
    match Text.Utf8.decode bs with
    | .ok t => checkFloatText v t
    | .error _ => refuse v .noNumeral
  | _ => refuse v .notNumber

/-- A double above zero; what is no number is let through. -/
def checkPositive (v : Value) : Checked Binary64 :=
  (checkFloat v).bind fun x =>
    if x.isNaN || (!x.isNegative && !x.isZero) then .ok x else refuse v (.notAbove 0)

/-- One of the given words. -/
def checkWord (words : List Text) (v : Value) : Checked Text :=
  match v with
  | .text t => if words.contains t then .ok t else refuse v (.notAmong words)
  | _ => refuse v (.notAmong words)

/-- A list of texts. -/
def checkTexts (v : Value) : Checked (List Text) :=
  let items (xs : List Value) : Checked (List Text) :=
    all (xs.zipIdx.map fun (x, i) => (checkText x).inside (Text.ofNat i))
  match v with
  | .list xs => items xs
  | .tuple xs => items xs
  | .set xs => items xs
  | _ => refuse v .notList

/-- A key as a part of a location. -/
def keyPart : Value → Text
  | .bool b => if b then "1" else "0"
  | .text t => t
  | k => k.shown

/-- The list under a text put into a mapping, in place of the one that is there. -/
def putTexts (m : List (Text × List Text)) (key : Text) (ts : List Text) :
    List (Text × List Text) :=
  if m.any (·.1 = key) then m.map fun e => if e.1 = key then (key, ts) else e else m ++ [(key, ts)]

/-- A mapping from texts to lists of texts; octets may be the same key as a text. -/
def checkRegistry (v : Value) : Checked (List (Text × List Text)) :=
  match v with
  | .mapping es =>
    (all (es.map fun (k, w) =>
      both Prod.mk (((checkText k).inside "[key]").inside (keyPart k))
        ((checkTexts w).inside (keyPart k)))).map fun entries =>
          entries.foldl (fun m (key, ts) => putTexts m key ts) []
  | _ => refuse v .notMapping

/-- The address of a store: it has a known scheme and does not end in a slash. -/
def checkAddress (v : Value) : Checked Text :=
  (checkText v).bind fun t =>
    if (Text.ofString "http://").isPrefixOf t || (Text.ofString "https://").isPrefixOf t then
      .ok (Text.trimRight (· == CodePoint.ofChar '/') t)
    else refuse v (.rule "ClickHouse URL must use http or https")

/-- The code points that would end the name of a namespace. -/
def namespaceBreakers : Text := " \x60'\";."

/-- The name of a namespace: it is not empty and stays one name inside a statement. -/
def checkNamespace (v : Value) : Checked Text :=
  (checkText v).bind fun t =>
    if t.isEmpty || t.any fun c => List.contains namespaceBreakers c then
      refuse v (.rule ("Invalid database name: " ++ t.quoted))
    else .ok t

/-- A path or nothing. A relative path is made absolute; one that starts with the tilde of another
user stands for nothing that is known. -/
def checkPath (e : Environment) (v : Value) : Except Fault (Checked (Option Path)) :=
  match v with
  | .null => .ok (.ok none)
  | _ =>
    match checkText v with
    | .error _ => .ok (refuse v .notPath)
    | .ok t =>
      let p := Path.ofText t
      if p.isAbsolute then .ok (.ok (some p))
      else
        match e.expandHome? p with
        | none => .error (.other "RuntimeError" "Could not determine home directory.")
        | some q =>
          if t.any fun c => c.val = 0 then .ok (refuse v (.rule "embedded null byte"))
          else .ok (.ok (some (q.resolved e.workingDirectory)))

end RemoteRead.Settings
