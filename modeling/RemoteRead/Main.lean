import RemoteRead.CommandLine.Command
import RemoteRead.CommandLine.Render
import Std.Time.DateTime

/-!
# The program

Finds the files, the variables and the time that a command may ask for, runs it, writes the files
that it saves, and prints what it shows. Servers are neither run nor asked from here.
-/

namespace RemoteRead.Main

open CommandLine

/-- The names of the variables that settings are read from. -/
def variableNames : List String :=
  ["HOST", "PORT", "WORKERS"].map ("PROMREAD_" ++ ·) ++
    ["URL", "USER", "PASSWORD", "TIMEOUT_SECONDS"].map ("CLICKHOUSE_" ++ ·) ++
    ["QUERY_LIMIT", "SERIES_LIMIT", "DATABASES", "EDGE_TABLES", "SYSTEM_DATABASE",
      "VIRTUAL_NAMESPACE", "TAG_CATALOG_PATH", "LOG_LEVEL", "LOG_FORMAT"]

/-- The variables that are set. -/
def assigned : IO (List (Text × Text)) := do
  let found ← variableNames.mapM fun name => do
    return (← IO.getEnv name).toList.map fun v => (Text.ofString name, Text.ofString v)
  return found.flatten

/-- What stands at a path. -/
def entryAt (p : Path) : IO (Option FileEntry) := do
  let name := p.text.toString
  if ← ((← IO.currentDir) / name).isDir then return some .directory
  else
    try
      return some (.file (← IO.FS.readBinFile name).toList)
    catch _ => return none

/-- The paths that words of the command line may hold: a whole word, what stands behind an equals
sign, or what stands behind a short name. -/
def pathsIn (words : List Text) : List Path :=
  words.flatMap fun w =>
    (w :: w.drop 2 :: ((Text.cut? "=" w).map (·.2)).toList).map Path.ofText

/-- The environment with the files at the given paths, and the directories that hold them. -/
def environment (home workingDirectory : Path) (paths : List Path) : IO Environment := do
  let absolute := paths.map fun p => p.resolved workingDirectory
  let parents := absolute.map fun p => (⟨p.root, p.parts.dropLast⟩ : Path)
  let entries ← (absolute ++ parents).mapM fun p => return (p, ← entryAt p)
  return {
    home, workingDirectory, assigned := ← assigned
    files := fun p => (entries.find? fun (q, _) => q = p).bind (·.2) }

/-- The catalogs that the settings of any of the given configuration files name. -/
def catalogsOf (e : Environment) (configs : List Path) : List Path :=
  (none :: configs.map some).filterMap fun config =>
    (Settings.load e config []).toOption.bind (·.tagCatalogPath)

/-- What a command finds outside. -/
def outside (words : List Text) : IO Outside := do
  let home := Path.ofText (Text.ofString ((← IO.getEnv "HOME").getD "/"))
  let workingDirectory := Path.ofText (Text.ofString (← IO.currentDir).toString)
  let standard := home.under (Path.ofText ".promread/config.yaml")
  let paths := standard :: Path.ofText ".env" :: pathsIn words
  let e ← environment home workingDirectory paths
  let e ← environment home workingDirectory (catalogsOf e (pathsIn words) ++ paths)
  let now ← Std.Time.Timestamp.now
  return {
    environment := e
    now := Binary64.ofRatio false now.toMillisecondsSinceUnixEpoch.val.toNat 1000
    version := "0.1.0"
    runtime := "none"
    serve := fun _ => .failed "no server can be run from here"
    ask := fun _ => .refused }

/-- Runs a command with the given words, and gives its exit code. -/
def runWords (words : List Text) : IO Nat := do
  let run := CommandLine.run (← outside words) words
  for (p, octets) in run.record.written do
    IO.FS.writeBinFile p.text.toString ⟨octets.toArray⟩
  for event in run.record.events do
    match event.render? with
    | some t => IO.println t.toString
    | none => pure ()
  return run.exitCode

end RemoteRead.Main

/-- Runs the command that the words of the command line ask for. -/
def main (args : List String) : IO UInt32 := do
  return UInt32.ofNat (← RemoteRead.Main.runWords (args.map RemoteRead.Text.ofString))
