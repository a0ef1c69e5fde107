import RemoteRead.CommandLine.Screen
import RemoteRead.Json.Writer

/-!
# Plain rendering

What a command shows, as lines of plain text: marks of style are left out, tables and panels become
lines under their title, and documents take one line.
-/

namespace RemoteRead.CommandLine

/-- The styles that lines may be marked with. -/
def styles : List Text := ["red", "yellow", "green", "blue", "bold cyan"]

/-- The marks that begin and end a style. -/
def marks : List Text := styles.flatMap fun s => ["[" ++ s ++ "]", "[/" ++ s ++ "]"]

/-- The text without marks of style; `skip` counts the code points of a mark still to be left out.
-/
def withoutMarks : Nat → Text → Text
  | _, [] => []
  | skip + 1, _ :: r => withoutMarks skip r
  | 0, c :: r =>
    match marks.find? fun m => m.isPrefixOf (c :: r) with
    | some m => withoutMarks (m.length - 1) r
    | none => c :: withoutMarks 0 r

/-- A document on one line. -/
def documentLine (v : Value) : Text :=
  match Json.write Json.compactAscii v with
  | .ok t => t
  | .error _ => v.shown

/-- What is shown as plain text; the two requests to the outside show nothing. -/
def Event.render? : Event → Option Text
  | line t => some (withoutMarks 0 t)
  | document v => some (documentLine v)
  | statement t => some t
  | table title rows =>
    some (Text.join "\n" (title :: rows.map fun (k, v) => "  " ++ k ++ ": " ++ v))
  | panel title t => some (title ++ "\n" ++ t)
  | trace => none
  | server _ => none
  | question _ => none

end RemoteRead.CommandLine
