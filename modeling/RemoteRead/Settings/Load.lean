import RemoteRead.Json.Reader
import RemoteRead.Settings.Assignment
import RemoteRead.Settings.Basic
import RemoteRead.Settings.Section
import RemoteRead.Text.Lower

/-!
# Loading settings

Four sources give settings their values. In order of strength they are arguments, variables, the
configuration file, and the file of assignments in the working directory. A `Session` remembers the
settings that were loaded first until it is told to load them again.
-/

namespace RemoteRead.Settings

/-- The value of a setting that is written as JSON, none for a null. -/
def documentValue [Host] (setting source text : Text) : Except LoadError (Option Value) :=
  match Json.read text .setting with
  | .ok .null => .ok none
  | .ok v => .ok (some v)
  | .error (.tooDeep o) => .error (.fault (.tooDeep (Json.ReadError.message text (.tooDeep o))))
  | .error _ => .error (.unreadable setting source)

/-- What variables give the settings of the same names, whatever their case: the registry and the
list of tables are written as JSON, all else as it is. -/
def ofVariables [Host] (sourceName : Text) (assigned : List (Text × Option Text)) :
    Except LoadError Source := do
  let text (name : Text) : Option Text :=
    (assigned.reverse.find? fun (k, _) => k.lower = name).bind (·.2)
  let document (name : Text) : Except LoadError (Option Value) :=
    (text name).elim (.ok none) (documentValue name sourceName)
  let databases ← document "databases"
  let edgeTables ← document "edge_tables"
  return fun name =>
    if name = Text.ofString "databases" then databases
    else if name = Text.ofString "edge_tables" then edgeTables
    else (text name).map Value.text

/-- The assignments in the working directory. -/
def assignments (e : Environment) : Except Fault (List Assignment) :=
  match e.file? (.ofText ".env") with
  | none => .ok []
  | some octets =>
    match Text.Utf8.decode octets with
    | .ok t => .ok (Assignment.ofText e.assigned t.unifyLines)
    | .error error => .error (.undecodable error.message)

/-- The source of the configuration file, which gives nothing if it has to be given up. -/
def fileSource (e : Environment) (config : Option Path) : Source :=
  .ofList ((ofFile e (config.getD (standardPath e))).getD [])

/-- The sources from the strongest to the weakest. -/
def sources [Host] (e : Environment) (config : Option Path) (arguments : List (Text × Value)) :
    Except LoadError (List Source) := do
  let assignments ← (assignments e).mapError LoadError.fault
  let assigned ← ofVariables "EnvSettingsSource" (e.assigned.map fun (k, v) => (k, some v))
  let weakest ← ofVariables "DotEnvSettingsSource" assignments
  return [.ofList arguments, assigned, fileSource e config, weakest]

/-- The settings from all sources. -/
def load [Host] (e : Environment) (config : Option Path) (arguments : List (Text × Value)) :
    Except LoadError Settings := do
  match ofSource e (.merged (← sources e config arguments)) with
  | .ok (.ok s) => return s
  | .ok (.error flaws) => throw (.invalid flaws)
  | .error f => throw (.fault f)

/-- The settings in force, if some have been loaded. -/
abbrev Session := Option Settings

namespace Session

/-- The settings in force, loaded if there are none yet or if it is asked for. Where loading fails,
those before stay in force. -/
def get [Host] (s : Session) (e : Environment) (config : Option Path) (reload : Bool) :
    Except LoadError Settings × Session :=
  match s, reload with
  | some settings, false => (.ok settings, s)
  | _, _ =>
    match load e config [] with
    | .ok settings => (.ok settings, some settings)
    | .error error => (.error error, s)

end Session

end RemoteRead.Settings
