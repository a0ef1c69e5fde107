import RemoteRead.Error
import RemoteRead.Text.Blank
import RemoteRead.Text.Lower

/-!
# Censoring

What is logged must not show credentials. A value under a key that names a secret is replaced, and
in every other text the part of an address between `://` and `@` is. Only texts directly under a key
are searched.
-/

namespace RemoteRead.Log

/-- What stands for something secret. -/
def redacted : Text := "***REDACTED***"

/-- Keys that hold one of these words, in lower case, are secret. -/
def secretWords : List Text := ["password", "secret", "token", "authorization"]

/-- Whether a key names a secret. -/
def isSecretKey (key : Text) : Bool := secretWords.any fun w => Text.contains w key.lower

/-- The letters that a scheme may start with: those of ASCII, and the four others whose other case
is one of them. -/
def isSchemeLetter (c : CodePoint) : Bool :=
  c.isLetter || c.val == 0x130 || c.val == 0x131 || c.val == 0x17f || c.val == 0x212a

/-- What may follow in a scheme. -/
def isSchemeRest (c : CodePoint) : Bool :=
  isSchemeLetter c || c.isDigit || c == CodePoint.ofChar '+' || c == CodePoint.ofChar '.' ||
    c == CodePoint.ofChar '-'

/-- What credentials consist of. -/
def isCredential (c : CodePoint) : Bool :=
  !(c == CodePoint.ofChar '/' || c == CodePoint.ofChar '@' || c.isBlank)

/-- What stands between a scheme and the rest of an address. -/
def schemeEnd : Text := "://"

/-- At a text that starts with the scheme of an address with credentials: the scheme, and how many
code points it takes with the credentials and the sign after them. -/
def addressAt? (t : Text) : Option (Text × Nat) :=
  match t with
  | [] => none
  | c :: _ =>
    if isSchemeLetter c then
      let scheme := t.takeWhile isSchemeRest
      let rest := t.drop scheme.length
      if schemeEnd.isPrefixOf rest then
        let rest := rest.drop schemeEnd.length
        let credentials := rest.takeWhile isCredential
        let next := (rest.drop credentials.length).head?
        if !credentials.isEmpty && next = some (CodePoint.ofChar '@')
        then some (scheme, scheme.length + schemeEnd.length + credentials.length + 1)
        else none
      else none
    else none

/-- The text from a place on with credentials replaced; `skip` code points are already done with. -/
def censorFrom : Nat → Text → Text
  | _, [] => []
  | skip + 1, _ :: r => censorFrom skip r
  | 0, c :: r =>
    match addressAt? (c :: r) with
    | some (scheme, taken) =>
      scheme ++ schemeEnd ++ redacted ++ "@" ++ censorFrom (taken - 1) r
    | none => c :: censorFrom 0 r

/-- The text with the credentials of every address replaced. -/
def censorText (t : Text) : Text := censorFrom 0 t

/-- What is logged for a value under a key. -/
def censorValue (key : Text) (v : Value) : Value :=
  if isSecretKey key then .text redacted
  else
    match v with
    | .text t => .text (censorText t)
    | v => v

/-- An event with everything secret replaced; keys must be texts. -/
def censor (event : List (Value × Value)) : Except Fault (List (Value × Value)) :=
  event.mapM fun (k, v) =>
    match k with
    | .text t => .ok (k, censorValue t v)
    | k => .error (.missingOperation ("'" ++ k.kindName ++ "' object has no attribute 'lower'"))

end RemoteRead.Log
