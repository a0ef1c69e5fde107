import RemoteRead.Config
import RemoteRead.Log.Event
import RemoteRead.Settings.Check

/-!
# Settings

The settings of the bridge with their defaults. `Settings.ofSource` checks every setting that a
source gives a value, and reports all flaws together.
-/

namespace RemoteRead

/-- The settings of the bridge. -/
structure Settings where
  /-- The address that the server binds to. -/
  host : Text := "0.0.0.0"
  /-- The port of the server. -/
  port : Int := 8000
  /-- The number of worker processes. -/
  workers : Int := 1
  /-- The address of the store. -/
  storeAddress : Text := "http://localhost:8123"
  /-- The user at the store. -/
  storeUser : Text := "default"
  /-- The password at the store. -/
  storePassword : Text := []
  /-- How many seconds a statement may take. -/
  timeout : Binary64 := Binary64.ofInt 30
  /-- The cap on rows in every statement. -/
  rowLimit : Int := 10000
  /-- The cap on series in every response. -/
  seriesLimit : Int := 100
  /-- The databases that a metric name may start with. -/
  databases : Registry := defaultDatabases
  /-- The tables whose directional tags have two columns. -/
  edgeTables : List Text := defaultEdgeTables
  /-- The database that keeps all tags in one column. -/
  systemDatabase : Text := "deepflow_system"
  /-- The namespace of the views that back plain metric names. -/
  virtualNamespace : Text := "prometheus"
  /-- The file that describes the tags of tables. -/
  tagCatalogPath : Option Path := none
  /-- The least level of what is logged. -/
  logLevel : Log.Level := .info
  /-- How lines of the log are written. -/
  logFormat : Log.Format := .json

namespace Settings

/-- What a source gives each setting. -/
abbrev Source := Text → Option Value

namespace Source

/-- The source of a list of values; the last one for a setting counts. -/
def ofList (values : List (Text × Value)) : Source := fun name => List.lookup name values.reverse

mutual

/-- A value laid over another: mappings are merged key by key, all else is replaced. -/
def overValue : Value → Value → Value
  | .mapping weak, .mapping strong => .mapping (overEntries weak strong)
  | _, strong => strong

/-- Entries laid over others. -/
def overEntries (weak : List (Value × Value)) : List (Value × Value) → List (Value × Value)
  | [] => weak
  | (k, v) :: strong =>
    let under := (Value.lookup k weak).getD .null
    overEntries (Value.put weak k (overValue under v)) strong

end

/-- A source laid over a weaker one. -/
def overlaid (weak strong : Source) : Source := fun name =>
  match weak name, strong name with
  | some w, some s => some (overValue w s)
  | none, s => s
  | w, none => w

/-- Sources from the strongest to the weakest as one: each goes under what those before it give. -/
def merged (sources : List Source) : Source :=
  sources.foldl (fun strong weak => weak.overlaid strong) fun _ => none

end Source

/-- A level by its name. -/
def checkLevel (v : Value) : Checked Log.Level :=
  (checkWord (Log.Level.all.map Log.Level.label) v).map fun t =>
    (Log.Level.all.find? fun l => l.label = t).getD .info

/-- A format by its name. -/
def checkFormat (v : Value) : Checked Log.Format :=
  (checkWord [Log.Format.json.name, Log.Format.plain.name] v).map fun t =>
    if t = Log.Format.json.name then .json else .plain

/-- The settings that a source gives, with defaults for those that it does not give. -/
def ofSource (e : Environment) (source : Source) : Except Fault (Checked Settings) := do
  let d : Settings := {}
  let given {α : Type} (name : String) (default : α) (check : Value → Checked α) : Checked α :=
    (source name).elim (.ok default) fun v => (check v).inside name
  let path ← (source "tag_catalog_path").elim (.ok (.ok d.tagCatalogPath)) (checkPath e)
  return (given "promread_host" d.host checkText).map Settings.mk
    |> (Checked.apply · (given "promread_port" d.port (checkInt 1 (some 65535))))
    |> (Checked.apply · (given "promread_workers" d.workers (checkInt 1 none)))
    |> (Checked.apply · (given "clickhouse_url" d.storeAddress checkAddress))
    |> (Checked.apply · (given "clickhouse_user" d.storeUser checkText))
    |> (Checked.apply · (given "clickhouse_password" d.storePassword checkText))
    |> (Checked.apply · (given "clickhouse_timeout_seconds" d.timeout checkPositive))
    |> (Checked.apply · (given "query_limit" d.rowLimit (checkInt 1 none)))
    |> (Checked.apply · (given "series_limit" d.seriesLimit (checkInt 1 none)))
    |> (Checked.apply · (given "databases" d.databases checkRegistry))
    |> (Checked.apply · (given "edge_tables" d.edgeTables checkTexts))
    |> (Checked.apply · (given "system_database" d.systemDatabase checkNamespace))
    |> (Checked.apply · (given "virtual_namespace" d.virtualNamespace checkNamespace))
    |> (Checked.apply · (path.inside "tag_catalog_path"))
    |> (Checked.apply · (given "log_level" d.logLevel checkLevel))
    |> (Checked.apply · (given "log_format" d.logFormat checkFormat))

/-- What the compilation of requests takes from the settings. -/
def config (s : Settings) : Config where
  rowLimit := s.rowLimit
  seriesLimit := s.seriesLimit
  databases := s.databases
  edgeTables := s.edgeTables
  systemDatabase := s.systemDatabase
  virtualNamespace := s.virtualNamespace

end Settings

end RemoteRead
