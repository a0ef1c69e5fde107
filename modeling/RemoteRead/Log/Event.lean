import RemoteRead.Json.Writer
import RemoteRead.Log.Censor

/-!
# Log events

An event is a mapping from field names to values. The event of a failed operation carries what is
known about the error; a line is an event in one of two formats, JSON or plain text.
-/

namespace RemoteRead.Log

/-- How important an event is. -/
inductive Level where
  /-- For the developer. -/
  | debug
  /-- What goes on. -/
  | info
  /-- What may be wrong. -/
  | warning
  /-- What is wrong. -/
  | error
  /-- What stops everything. -/
  | critical
deriving DecidableEq

namespace Level

/-- The number that orders levels. -/
def number : Level → Nat
  | debug => 10
  | info => 20
  | warning => 30
  | error => 40
  | critical => 50

/-- The name of a level in lower case. -/
def name : Level → Text
  | debug => "debug"
  | info => "info"
  | warning => "warning"
  | error => "error"
  | critical => "critical"

/-- The name of a level in settings. -/
def label : Level → Text
  | debug => "DEBUG"
  | info => "INFO"
  | warning => "WARNING"
  | error => "ERROR"
  | critical => "CRITICAL"

/-- Every level. -/
def all : List Level := [debug, info, warning, error, critical]

/-- The level with a given name in any case. -/
def ofName? (name : Text) : Option Level := all.find? fun l => l.name == name.lower

/-- The level of the loggers that report every exchange with the store, zero for the common one. -/
def noisy (l : Level) : Nat := if l = debug then 0 else warning.number

end Level

/-- How lines of the log are written. -/
inductive Format where
  /-- As JSON. -/
  | json
  /-- As plain text. -/
  | plain
deriving DecidableEq

/-- The name of a format in settings. -/
def Format.name : Format → Text
  | .json => "json"
  | .plain => "text"

/-! ## Failed operations -/

/-- The names that no field may have. -/
def reservedNames : List Text := ["event", "self", "method_name"]

/-- The fault of a field with a reserved name. -/
def reservedFault (reserved : List Text) (fields : List (Value × Value)) : Option Fault :=
  (reserved.find? fun n => (Value.lookup (.text n) fields).isSome).map fun n =>
    .wrongKind ("got multiple values for argument " ++ n.quoted)

/-- The fields of the event of a failed operation: what is known about the error, its context, and
further fields, of which the later win. -/
def failureFields (operation : Text) (e : Error) (extra : List (Value × Value)) :
    List (Value × Value) :=
  let known : List (Value × Value) :=
    [(.text "operation", .text operation), (.text "error_type", .text e.name),
      (.text "error_message", e.messageValue)]
  (e.context ++ extra).foldl (fun m (k, v) => Value.put m k v) known

/-- The event of a failed operation. -/
def failureEvent (operation : Text) (e : Error) (extra : List (Value × Value)) :
    Except Fault (List (Value × Value)) :=
  let fields := failureFields operation e extra
  match reservedFault ("exc_info" :: reservedNames) fields with
  | some f => .error f
  | none =>
    .ok (fields ++ [(Value.text "exc_info", .bool true), (.text "event", .text "operation_failed")])

/-! ## Lines -/

/-- An event on its way to a line: bound fields, overridden by its own, with the level, and
censored. -/
def prepared (level : Level) (event : Text) (fields bound : List (Value × Value)) :
    Except Fault (List (Value × Value)) :=
  match reservedFault reservedNames fields with
  | some f => .error f
  | none =>
    let own : List (Value × Value) :=
      fields ++ [(.text "event", .text event), (.text "level", .text level.name)]
    censor (own.foldl (fun m (k, v) => Value.put m k v) bound)

mutual

/-- A value with a JSON form: what has none is shown as a text. -/
def writable : Value → Value
  | .list xs => .list (writableAll xs)
  | .tuple xs => .list (writableAll xs)
  | .mapping es => .mapping (writableEntries es)
  | .octets bs => .text (Value.shownOctets bs)
  | .day d => .text d.shown
  | .moment m => .text m.shown
  | .set xs => .text (Value.set xs).shown
  | v => v

/-- The items, each with a JSON form. -/
def writableAll : List Value → List Value
  | [] => []
  | x :: xs => writable x :: writableAll xs

/-- The entries, each value with a JSON form. -/
def writableEntries : List (Value × Value) → List (Value × Value)
  | [] => []
  | (k, v) :: es => (k, writable v) :: writableEntries es

end

/-- A line in JSON. -/
def jsonLine (fields : List (Value × Value)) : Except Json.Unwritable Text :=
  Json.write Json.spaced (writable (.mapping fields))

/-- The signs that make a text stand in quotes on a line. -/
def needsQuotes (c : CodePoint) : Bool :=
  List.contains (Text.ofString " \t=\r\n\"'") c

/-- A value on a line of plain text. -/
def plainValue : Value → Text
  | .text t => if t.any needsQuotes then t.quoted else t
  | v => v.shown

/-- The fields of a line in plain text, in the order of their names. -/
def plainFields (fields : List (Text × Value)) : List Text :=
  (fields.mergeSort fun a b => Text.le a.1 b.1).map fun (k, v) => k ++ "=" ++ plainValue v

/-- A text with blanks after it up to a width. -/
def widened (width : Nat) (t : Text) : Text :=
  t ++ List.replicate (width - t.length) (CodePoint.ofChar ' ')

/-- A line in plain text: the level, the event, the logger, and the other fields. -/
def plainLine (logger : Text) (fields : List (Value × Value)) : Text :=
  let field (key : Text) : Text := ((Value.lookup (.text key) fields).getD .null).display
  let others := fields.filterMap fun (k, v) =>
    match k with
    | .text t => if t = Text.ofString "level" ∨ t = Text.ofString "event" then none else some (t, v)
    | _ => none
  Text.join " " (("[" ++ widened 9 (field "level") ++ "]") :: widened 30 (field "event") ::
    ("[" ++ logger ++ "]") :: plainFields others)

end RemoteRead.Log
