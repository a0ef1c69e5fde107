import RemoteRead.Error

/-!
# Flaws of settings

A flaw says which setting is not acceptable, why, and what was given. All flaws of the settings are
reported together, in the order of the settings.
-/

namespace RemoteRead.Settings

/-- Why the value of a setting is not acceptable. -/
inductive Objection where
  /-- The value is no text. -/
  | notText
  /-- The value is a text without an encoded form. -/
  | notEncodable
  /-- The value is no whole number. -/
  | notInt
  /-- The text is no numeral of a whole number. -/
  | noIntNumeral
  /-- The numeral is too long. -/
  | longNumeral
  /-- The number has a fraction. -/
  | fractional
  /-- The number is infinite or none at all. -/
  | notFinite
  /-- The value is no number. -/
  | notNumber
  /-- The text is no numeral. -/
  | noNumeral
  /-- The number is not above a bound. -/
  | notAbove (bound : Int)
  /-- The number is below a bound. -/
  | below (bound : Int)
  /-- The number is above a bound. -/
  | above (bound : Int)
  /-- The value is none of the given words. -/
  | notAmong (words : List Text)
  /-- The value is no list. -/
  | notList
  /-- The value is no mapping. -/
  | notMapping
  /-- The value is no path. -/
  | notPath
  /-- The value breaks a rule of its own, which the message states. -/
  | rule (message : Text)
deriving DecidableEq

namespace Objection

/-- The name of an objection. -/
def name : Objection → Text
  | notText => "string_type"
  | notEncodable => "string_unicode"
  | notInt => "int_type"
  | noIntNumeral => "int_parsing"
  | longNumeral => "int_parsing_size"
  | fractional => "int_from_float"
  | notFinite => "finite_number"
  | notNumber => "float_type"
  | noNumeral => "float_parsing"
  | notAbove _ => "greater_than"
  | below _ => "greater_than_equal"
  | above _ => "less_than_equal"
  | notAmong _ => "literal_error"
  | notList => "list_type"
  | notMapping => "dict_type"
  | notPath => "path_type"
  | rule _ => "value_error"

/-- Words in quotes, with commas between them and an "or" before the last. -/
def alternatives : List Text → Text
  | [] => []
  | [w] => w.quoted
  | [v, w] => v.quoted ++ " or " ++ w.quoted
  | v :: ws => v.quoted ++ ", " ++ alternatives ws

/-- What an objection says. -/
def message : Objection → Text
  | notText => "Input should be a valid string"
  | notEncodable =>
    "Input should be a valid string, unable to parse raw data as a unicode string"
  | notInt => "Input should be a valid integer"
  | noIntNumeral => "Input should be a valid integer, unable to parse string as an integer"
  | longNumeral => "Unable to parse input string as an integer, exceeded maximum size"
  | fractional => "Input should be a valid integer, got a number with a fractional part"
  | notFinite => "Input should be a finite number"
  | notNumber => "Input should be a valid number"
  | noNumeral => "Input should be a valid number, unable to parse string as a number"
  | notAbove b => "Input should be greater than " ++ Text.ofInt b
  | below b => "Input should be greater than or equal to " ++ Text.ofInt b
  | above b => "Input should be less than or equal to " ++ Text.ofInt b
  | notAmong ws => "Input should be " ++ alternatives ws
  | notList => "Input should be a valid list"
  | notMapping => "Input should be a valid dictionary"
  | notPath => "Input is not a valid path for <class 'pathlib.Path'>"
  | rule m => "Value error, " ++ m

end Objection

/-- An objection to the value at a place. -/
structure Flaw where
  /-- The setting, and the way to the value inside it. -/
  location : List Text
  /-- Why the value is not acceptable. -/
  objection : Objection
  /-- The value. -/
  given : Value

namespace Flaw

/-- The place of a flaw. -/
def place (f : Flaw) : Text := Text.join "." f.location

/-- A value as reports show it: the middle of a long one is left out. -/
def shownInput (v : Value) : Text :=
  let t := v.shown
  if t.length ≤ 50 then t else t.take 25 ++ "..." ++ t.drop (t.length - 24)

/-- The lines about a flaw in a report. -/
def report (f : Flaw) : Text :=
  "\n" ++ f.place ++ "\n  " ++ f.objection.message ++ " [type=" ++ f.objection.name ++
    ", input_value=" ++ shownInput f.given ++ ", input_type=" ++ f.given.plainKindName ++
    "]\n    For further information visit https://"

end Flaw

/-- Why there are no settings. -/
inductive LoadError where
  /-- Settings are not acceptable. -/
  | invalid (flaws : List Flaw)
  /-- A source gives a text for a setting that holds none of its values. -/
  | unreadable (setting source : Text)
  /-- Anything else. -/
  | fault (f : Fault)

namespace LoadError

/-- The name of the error's class. -/
def name : LoadError → Text
  | invalid _ => "ValidationError"
  | unreadable _ _ => "SettingsError"
  | fault f => f.name

/-- What the error says. -/
def message : LoadError → Text
  | invalid flaws =>
    Text.ofNat flaws.length ++ " validation error" ++
      (if flaws.length = 1 then [] else "s") ++ " for Settings" ++ flaws.flatMap Flaw.report
  | unreadable setting source =>
    "error parsing value for field \"" ++ setting ++ "\" from source \"" ++ source ++ "\""
  | fault f => f.message

end LoadError

end RemoteRead.Settings
