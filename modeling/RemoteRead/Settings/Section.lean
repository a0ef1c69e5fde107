import RemoteRead.Environment
import RemoteRead.Yaml.Document

/-!
# Configuration files

A configuration file has sections, and each section keys that stand for settings; other sections and
keys are passed over. A section may be anything that can be asked for a key: a list or a text that
lacks it contributes nothing. A document that cannot be asked, or has no value to give, is given up
as a whole.
-/

namespace RemoteRead

namespace Value

/-- Whether a key, an item or a part of a text is in a value that can be asked for it. -/
def holds? (key : Text) : Value → Option Bool
  | mapping es => some (lookup (text key) es).isSome
  | list xs => some (xs.any (same (text key)))
  | tuple xs => some (xs.any (same (text key)))
  | set xs => some (xs.any (same (text key)))
  | text t => some (Text.contains key t)
  | _ => none

end Value

namespace Settings

/-- The sections of a configuration file, and the settings that their keys stand for. -/
def sections : List (String × List (String × String)) :=
  [("server", [("host", "promread_host"), ("port", "promread_port"),
      ("workers", "promread_workers")]),
    ("clickhouse", [("url", "clickhouse_url"), ("user", "clickhouse_user"),
      ("password", "clickhouse_password"), ("timeout_seconds", "clickhouse_timeout_seconds")]),
    ("prometheus", [("limit", "query_limit"), ("series_limit", "series_limit"),
      ("databases", "databases"), ("edge_tables", "edge_tables"),
      ("system_database", "system_database"), ("virtual_namespace", "virtual_namespace")]),
    ("tag_catalog", [("path", "tag_catalog_path")]),
    ("logging", [("level", "log_level"), ("format", "log_format")])]

/-- What a value has under a key: nothing if it lacks the key. The outer option is empty where the
value cannot be asked. -/
def ask (v : Value) (key : String) : Option (Option Value) := do
  if ← v.holds? key then return some (← v.field? key)
  else return none

/-- The settings that a section contributes. -/
def ofSection (keys : List (String × String)) (v : Value) : Option (List (Text × Value)) := do
  let found ← keys.mapM fun (key, setting) => do
    return (← ask v key).toList.map fun w => (Text.ofString setting, w)
  return found.flatten

/-- The settings in the value of a configuration file. -/
def ofDocument (v : Value) : Option (List (Text × Value)) :=
  if v.isTruthy then do
    let found ← sections.mapM fun (name, keys) => do
      match ← ask v name with
      | none => return []
      | some w => ofSection keys w
    return found.flatten
  else some []

/-- The settings in a configuration file, none if there is no file. The outer option is empty where
the file is given up. -/
def ofFile (e : Environment) (p : Path) : Option (List (Text × Value)) :=
  match e.entry? p with
  | none => some []
  | some .directory => none
  | some (.file octets) =>
    match Yaml.read octets with
    | .ok v => ofDocument v
    | .error _ => none

/-- Where the configuration file is when no other is named. -/
def standardPath (e : Environment) : Path :=
  e.home.under ⟨[], [".promread", "config.yaml"]⟩

end Settings

end RemoteRead
