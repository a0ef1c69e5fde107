import RemoteRead.Calendar.Iso
import RemoteRead.Error
import RemoteRead.Host
import RemoteRead.Json.Writer
import RemoteRead.Number.Numeral

/-!
# Columns and cells

A column has a `ColumnKind`, derived from the store's type name; `Cell.make` turns a raw value into
the cell that the kind calls for. A cell can be read as a label, a sample value, or a time.
-/

namespace RemoteRead

open Calendar (Moment)

/-- What the cells of a column hold. -/
inductive ColumnKind where
  /-- Whole numbers. -/
  | int
  /-- Floating-point numbers. -/
  | float
  /-- Floating-point numbers that may be absent. -/
  | nullableFloat
  /-- Moments. -/
  | moment
  /-- Texts. -/
  | text
deriving DecidableEq

namespace ColumnKind

/-- The name of a kind. -/
def name : ColumnKind → Text
  | int => "Int"
  | float => "Float64"
  | nullableFloat => "NullableFloat64"
  | moment => "DateTime"
  | text => "String"

/-- Every kind. -/
def all : List ColumnKind := [int, float, nullableFloat, moment, text]

/-- The kind with a given name. -/
def ofName? (n : Text) : Option ColumnKind := all.find? fun k => k.name == n

/-- The text inside a wrapper such as `Nullable(`…`)`, if the text is wrapped so. -/
def unwrap? (wrapper t : Text) : Option Text :=
  if wrapper.isPrefixOf t ∧ Text.endsWith ")" t then
    some ((t.drop wrapper.length).take (t.length - wrapper.length - 1))
  else none

/-- The kind of a store's column type. A low-cardinality wrapper is ignored; of the nullable types
only floats keep their kind. -/
def ofTypeName (typeName : Text) : ColumnKind :=
  let t := typeName.trimBlanks
  let t := (unwrap? "LowCardinality(" t).getD t
  match unwrap? "Nullable(" t with
  | some inner => if (Text.ofString "Float").isPrefixOf inner then nullableFloat else text
  | none =>
    if (Text.ofString "Int").isPrefixOf t ∨ (Text.ofString "UInt").isPrefixOf t then int
    else if (Text.ofString "Float").isPrefixOf t then float
    else if (Text.ofString "DateTime").isPrefixOf t then moment
    else text

end ColumnKind

/-- A typed value of a result set. -/
inductive Cell where
  /-- A whole number. -/
  | int (n : Int)
  /-- A floating-point number. -/
  | float (x : Binary64)
  /-- A text. -/
  | text (t : Text)
  /-- A moment. -/
  | moment (m : Moment)
  /-- A floating-point number or nothing. -/
  | nullableFloat (x : Option Binary64)
deriving DecidableEq

/-- Whole numbers beyond the doubles have no float. -/
def Fault.tooLargeForFloat : Fault := .overflow "int too large to convert to float"

/-- The message about a numeral that is cut off after 200 code points. -/
def Fault.noInteger (shown : Text) : Fault :=
  .badValue ("invalid literal for int() with base 10: " ++ shown.take 200)

/-- The fault of writing out a whole number that is too long for that. -/
def Value.overlong : Fault :=
  .badValue ("Exceeds the limit (4300 digits) for integer string conversion; " ++
    "use sys.set_int_max_str_digits() to increase the limit")

namespace Cell

/-- The name that error messages give to a variant. -/
def kindName : Cell → Text
  | int _ => "IntCell"
  | float _ => "FloatCell"
  | text _ => "StringCell"
  | moment _ => "TimestampCell"
  | nullableFloat _ => "NullableFloatCell"

/-- The raw value of a cell. -/
def value : Cell → Value
  | int n => .int n
  | float x => .float x
  | text t => .text t
  | moment m => .moment m
  | nullableFloat x => (x.map Value.float).getD .null

/-- A cell as error messages show it. -/
def shown (c : Cell) : Text := c.kindName ++ "(value=" ++ c.value.shown ++ ")"

/-- The kind of column that a cell belongs to. -/
def columnKind : Cell → ColumnKind
  | int _ => .int
  | float _ => .float
  | text _ => .text
  | moment _ => .moment
  | nullableFloat _ => .nullableFloat

/-! ## From raw values -/

/-- The whole number of a numeral. -/
def intOfText (shown t : Text) : Except Fault Int :=
  match Number.readInt t with
  | .ok n => .ok n
  | .error .malformed => .error (Fault.noInteger shown)
  | .error (.tooLong n) =>
    .error (.badValue ("Exceeds the limit (4300 digits) for integer string conversion: " ++
      "value has " ++ Text.ofNat n ++
      " digits; use sys.set_int_max_str_digits() to increase the limit"))

/-- The integer part of a double. -/
def intOfFloat (x : Binary64) : Except Fault Int :=
  if x.isNaN then .error (.badValue "cannot convert float NaN to integer")
  else if x.isInfinite then .error (.overflow "cannot convert float infinity to integer")
  else .ok x.truncate

/-- The text whose code points are the given octets. -/
def textOfOctets (bs : List UInt8) : Text := bs.map fun b => CodePoint.ofNat b.toNat

/-- The whole number of a raw value. -/
def intOf (v : Value) : Except Fault Int :=
  match v with
  | .bool b => .ok (if b then 1 else 0)
  | .int n => .ok n
  | .float x => intOfFloat x
  | .text t => intOfText t.quoted t
  | .octets bs => intOfText v.shown (textOfOctets bs)
  | _ => .error (.wrongKind ("int() argument must be a string, a bytes-like object or a real number"
      ++ ", not '" ++ v.kindName ++ "'"))

/-- The double nearest to a whole number. -/
def floatOfInt (n : Int) : Except Fault Binary64 :=
  let x := Binary64.ofInt n
  if x.isFinite then .ok x else .error .tooLargeForFloat

/-- The double of a numeral. -/
def floatOfText (shown t : Text) : Except Fault Binary64 :=
  match Number.readFloat t with
  | some x => .ok x
  | none => .error (.badValue ("could not convert string to float: " ++ shown))

/-- The double of a raw value. -/
def floatOf (v : Value) : Except Fault Binary64 :=
  match v with
  | .bool b => .ok (Binary64.ofInt (if b then 1 else 0))
  | .int n => floatOfInt n
  | .float x => .ok x
  | .text t => floatOfText t.quoted t
  | .octets bs => floatOfText v.shown (textOfOctets bs)
  | _ => .error (.wrongKind ("float() argument must be a string or a real number, not '" ++
      v.kindName ++ "'"))

/-- The message about a field of a moment. -/
def fieldMessage : Calendar.FieldError → Text
  | .year y => "year " ++ Text.ofInt y ++ " is out of range"
  | .month => "month must be in 1..12"
  | .day => "day is out of range for month"
  | .hour => "hour must be in 0..23"
  | .minute => "minute must be in 0..59"
  | .second => "second must be in 0..59"

/-- The moment that a text denotes. -/
def momentOfText (t : Text) : Except Fault Moment :=
  match Moment.ofIso t with
  | .ok m => .ok m
  | .error .malformed => .error (.badValue ("Invalid isoformat string: " ++ t.quoted))
  | .error (.field e) => .error (.badValue (fieldMessage e))
  | .error (.offset us) =>
    .error (.badValue ("offset must be a timedelta strictly between -timedelta(hours=24) and " ++
      "timedelta(hours=24), not " ++ Calendar.spanText us ++ "."))

/-- The moment of a raw value. -/
def momentOf : Value → Except Fault Moment
  | .moment m => .ok m
  | v => momentOfText v.display

/-- The fault of a value that a document has no form for. -/
def unwritable : Json.Unwritable → Fault
  | .value kind => .wrongKind ("Object of type " ++ kind ++ " is not JSON serializable")
  | .key kind =>
    .wrongKind ("keys must be str, int, float, bool or None, not " ++ kind)

/-- The text of a raw value: nothing is empty, and mappings and lists are JSON documents. -/
def textOf (v : Value) : Except Fault Text :=
  match v with
  | .null => .ok []
  | .text t => .ok t
  | .mapping _ => (Json.write Json.compact v).mapError unwritable
  | .list _ => (Json.write Json.compact v).mapError unwritable
  | _ => .ok v.display

/-- The cell of a raw value in a column of the given kind. A float column reads nothing as a NaN. -/
def make (v : Value) : ColumnKind → Except Fault Cell
  | .int => (intOf v).map int
  | .float =>
    match v with
    | .null => .ok (float Binary64.nan)
    | _ => (floatOf v).map float
  | .nullableFloat =>
    match v with
    | .null => .ok (nullableFloat none)
    | _ => (floatOf v).map fun x => nullableFloat (some x)
  | .moment => (momentOf v).map moment
  | .text => (textOf v).map text

/-! ## Readings -/

/-- The failure to read a cell as something else. -/
def cannotRead (c : Cell) (target : Text) : Failure := .cellCoercion c.kindName c.shown target

/-- The error of a cell that is read as something else: a failure that shows it, or a fault where it
is too long to be written out. -/
def unreadable (c : Cell) (target : Text) : Error :=
  if c.value.isWritable then .failure (c.cannotRead target) else .fault Value.overlong

/-- A double as a label value: the shortest decimal, written out. -/
def floatLabel (x : Binary64) : Text := Number.labelNotation.render x

/-- The label value of a cell, however long; a nullable float has none. -/
def label (c : Cell) : Except Failure Text :=
  match c with
  | int n => .ok (Text.ofInt n)
  | float x => .ok (floatLabel x)
  | moment m => .ok (m.isoText " ")
  | text t => .ok t
  | nullableFloat _ => .error (c.cannotRead "string")

/-- A cell written out as a label value. A whole number with more digits than numerals may have is a
fault. -/
def labelText (c : Cell) : Except Error Text :=
  if c.value.isWritable then c.label.mapError Error.failure else .error (.fault Value.overlong)

/-- A cell as a sample value. An absent nullable float is a NaN; where the kind of the column is
given, the cell must be of it. -/
def sampleValue (c : Cell) (kind : Option ColumnKind) : Except Error Binary64 :=
  match kind with
  | some k => if c.columnKind = k then read else .error (c.unreadable ("float from " ++ k.name))
  | none => read
where
  /-- The reading once the kind is checked. -/
  read : Except Error Binary64 :=
    match c with
    | int n => (floatOfInt n).mapError Error.fault
    | float x => .ok x
    | nullableFloat x => .ok (x.getD Binary64.nan)
    | _ => .error (c.unreadable "float")

/-- A cell as whole seconds since the start of 1970. A moment without an offset is one of local
time, and a fault where the zone has no time for it. -/
def seconds [Host] (c : Cell) : Except Error Int :=
  match c with
  | int n => .ok n
  | float x => (intOfFloat x).mapError Error.fault
  | moment m =>
    match m.timestamp Host.zone with
    | .ok x => .ok x.truncate
    | .error e => .error (Fault.badValue (fieldMessage e))
  | _ => .error (c.unreadable "timestamp")

/-- Whether a tag cell counts as absent: empty texts, empty objects and the number zero do. -/
def isNil : Cell → Bool
  | text t => t == [] || t == Text.ofString "\x7b\x7d"
  | int n => n == 0
  | _ => false

end Cell

end RemoteRead
