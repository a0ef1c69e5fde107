import RemoteRead.CommandLine.Option
import RemoteRead.CommandLine.Screen
import RemoteRead.Matcher.Expression
import RemoteRead.Message.Document
import RemoteRead.Service
import RemoteRead.Settings.Load
import RemoteRead.TagCatalog.File

/-!
# The commands

`translate` shows the statement that a request is compiled to, `decode` shows what a captured body
holds, `api serve` runs the server, and `api status` asks a server whether it is ready. Settings are
loaded before a command's own words are read.
-/

namespace RemoteRead.CommandLine

/-- How a server comes to its end. -/
inductive ServerEnd where
  /-- It has been stopped. -/
  | stopped
  /-- The user has interrupted it. -/
  | interrupted
  /-- It has failed. -/
  | failed (message : Text)

/-- What comes back when a server is asked. -/
inductive ServerReply where
  /-- An answer with its status and its document. -/
  | answered (status : Int) (document : Value)
  /-- There is no connection. -/
  | refused
  /-- It takes too long. -/
  | timedOut
  /-- The user has interrupted it. -/
  | interrupted
  /-- Something else went wrong. -/
  | failed (message : Text)

/-- What a command finds outside. -/
structure Outside where
  /-- Files and variables. -/
  environment : Environment
  /-- The seconds since the epoch. -/
  now : Binary64
  /-- The version of the program. -/
  version : Text
  /-- The version of what the program runs on. -/
  runtime : Text
  /-- What comes of running a server. -/
  serve : ServerOptions → ServerEnd
  /-- What comes of asking a server. -/
  ask : Text → ServerReply

/-- The program itself runs on a host in universal time. -/
instance : Host := Host.utc

open Act

/-! ## Values of options -/

/-- The option that asks for help. -/
def helpOption : Text := "--help"

/-- The words of a command, which has the option for help as well. -/
def words (known : List KnownOption) (mixed : Bool) (args : List Text) : Act Words :=
  match readWords ({ name := helpOption, takesValue := false } :: known) mixed none args with
  | some w => pure w
  | none => throw .usage

/-- The whole number of an option. -/
def numberOption (w : Words) (name : Text) : Act (Option Int) :=
  match w.value? name with
  | none => pure none
  | some t =>
    match Number.readInt t with
    | .ok n => pure (some n)
    | .error _ => throw .usage

/-- The path of a file that is there. -/
def existingFile (e : Environment) (t : Text) : Act Path :=
  if t.isEmpty || (e.file? (.ofText t)).isNone then throw .usage else pure (.ofText t)

/-- The file of an option, which has to be there. -/
def fileOption (e : Environment) (w : Words) (name : Text) : Act (Option Path) :=
  (w.value? name).mapM (existingFile e)

/-- The path of an option under which a file can be written: no directory. -/
def targetOption (e : Environment) (w : Words) (name : Text) : Act (Option Path) :=
  match w.value? name with
  | none => pure none
  | some t =>
    if !t.isEmpty && (e.entry? (.ofText t) matches some .directory) then throw .usage
    else pure (some (.ofText t))

/-! ## Requests and statements -/

/-- The start of the range when it is not given: an hour before its end. -/
def defaultWindow : Int := 3600 * 1000

/-- The request in a file. -/
def loadRequest (e : Environment) (p : Path) : Act ReadRequest :=
  orFailure (Wire.readRequestBody ((e.file? p).getD []))

/-- The request that a metric name and options describe. -/
def describedRequest (o : Outside) (w : Words) (start stop : Option Int) : Act ReadRequest :=
  match w.arguments with
  | [] => throw .usage
  | name :: _ => do
    let stop := stop.getD (o.now.times 1000).truncate
    let start := start.getD (stop - defaultWindow)
    let matchers ← (w.values "--matcher").mapM fun t =>
      match LabelMatcher.ofExpression? t with
      | some m => pure m
      | none => throw .usage
    let given := matchers.map fun m => (m.type, m.name, m.value)
    let all := (0, metricNameLabel, name) :: given
    orError ((ReadRequest.single start stop all).mapError Error.fault)

/-- The text that stands for an empty one. -/
def orElseText (t standIn : Text) : Text := if t.isEmpty then standIn else t

/-- Shows a compiled query. -/
def showQuery (asDocument : Bool) (q : CompiledQuery) : Act Unit :=
  if asDocument then
    present (.document (.record [("sql", .text q.sql), ("database", .text q.database),
      ("data_source", .text q.dataSource), ("start", .int q.range.start),
      ("end", .int q.range.stop)]))
  else do
    present (.statement q.sql)
    present (.table "Compiled query" [("Database", orElseText q.database "(virtual)"),
      ("Data source", orElseText q.dataSource "-"),
      ("Time range", Text.ofInt q.range.start ++ " - " ++ Text.ofInt q.range.stop)])

/-- The options of `translate`. -/
def translateOptions : List KnownOption :=
  [{ name := "--matcher", letter := some 'm' }, { name := "--start", letter := some 's' },
    { name := "--end", letter := some 'e' }, { name := "--request", letter := some 'r' },
    { name := "--catalog" }, { name := "--save-request" }]

/-- The file system after a file is written, unless its directory is not there. -/
def save (e : Environment) (p : Path) (octets : List UInt8) : Act Environment := do
  let q := p.resolved e.workingDirectory
  let directory : Path := ⟨q.root, q.parts.dropLast⟩
  if (e.files q matches some .directory) || !(e.files directory matches some .directory) then
    throw (.trouble (.unexpected (e.unreadable p)))
  else
    write q octets
    return { e with files := fun r => if r = q then some (.file octets) else e.files r }

/-- Shows the statement that a request is compiled to. -/
def translate (o : Outside) (settings : Settings) (asDocument : Bool) (args : List Text) :
    Act Unit := do
  let e := o.environment
  let w ← words translateOptions true args
  if w.has helpOption then return
  if 1 < w.arguments.length then throw .usage
  let start ← numberOption w "--start"
  let stop ← numberOption w "--end"
  let requestFile ← fileOption e w "--request"
  let catalogFile ← fileOption e w "--catalog"
  let target ← targetOption e w "--save-request"
  let request ← match requestFile with
    | some p => loadRequest e p
    | none => describedRequest o w start stop
  let e ← match target with
    | some p => save e p (Wire.requestBody request)
    | none => pure e
  let tables ← (catalogFile <|> settings.tagCatalogPath).mapM fun p => orError (TagTables.load e p)
  let config ← orError (settings.config.checked.mapError Error.fault)
  let (query, _) ← orFailure (request.compile config (tables.map TagTables.catalog))
  showQuery asDocument query

/-! ## Captured bodies -/

/-- The lines of statistics. -/
def statisticsText (statistics : List (String × Value)) : Text :=
  Text.join "\n" (statistics.map fun (k, v) => Text.ofString k ++ ": " ++ v.display)

/-- Shows what a captured body holds. -/
def decode (o : Outside) (args : List Text) : Act Unit := do
  let e := o.environment
  let w ← words [{ name := "--response", takesValue := false },
    { name := "--stats", takesValue := false }] true args
  if w.has helpOption then return
  match w.arguments with
  | [name] => do
    let p ← existingFile e name
    let isResponse := w.has "--response"
    let (title, statistics, empty, document) : Text × List (String × Value) × Bool × Value ←
      if isResponse then do
        let m ← orFailure (Wire.readResponseBody ((e.file? p).getD []))
        let empty := m.results.all (·.timeseries.isEmpty)
        pure (Text.ofString "Response", m.statistics, empty, m.document)
      else do
        let m ← loadRequest e p
        pure (Text.ofString "Request", m.statistics, m.queries.isEmpty, m.document)
    if w.has "--stats" then present (.panel (title ++ " statistics") (statisticsText statistics))
    if empty then
      line ("[blue]\u2139[/blue] " ++ title ++ " contains no " ++
        (if isResponse then Text.ofString "series" else "queries"))
    present (.document document)
  | _ => throw .usage

/-! ## The server -/

/-- The options of `api serve`. -/
def serveOptions : List KnownOption :=
  [{ name := "--host", letter := some 'h' }, { name := "--port", letter := some 'p' },
    { name := "--workers", letter := some 'w' },
    { name := "--reload", letter := some 'r', takesValue := false },
    { name := "--log-level", letter := some 'l' },
    { name := "--access-log", takesValue := false },
    { name := "--no-access-log", takesValue := false }]

/-- The number of an option, unless it is zero or not given. -/
def numberOr (n : Option Int) (standIn : Int) : Int :=
  match n with
  | some 0 => standIn
  | some n => n
  | none => standIn

/-- Runs the server. -/
def serve (o : Outside) (settings : Settings) (args : List Text) : Act Unit := do
  let w ← words serveOptions true args
  if w.has helpOption then return
  if !w.arguments.isEmpty then throw .usage
  let port ← numberOption w "--port"
  let workers ← numberOption w "--workers"
  let host := orElseText ((w.value? "--host").getD []) settings.host
  let port := numberOr port settings.port
  let workers := numberOr workers settings.workers
  let logLevel := (orElseText ((w.value? "--log-level").getD []) settings.logLevel.label).lower
  let reload := w.has "--reload"
  -- the later of the two options counts, and without any the log is on
  let accessLog := (w.options.reverse.find? fun (n, _) =>
    n = Text.ofString "--access-log" || n = Text.ofString "--no-access-log").all fun (n, _) =>
      n = Text.ofString "--access-log"
  if reload && 1 < workers then
    line ("[yellow]Warning:[/yellow] --reload flag is ignored when workers > 1. " ++
      "Using single worker mode with reload.")
  let workers := if reload && 1 < workers then 1 else workers
  line "\n[bold cyan]Starting promread API Server[/bold cyan]\n"
  line ("  Host:        " ++ host)
  line ("  Port:        " ++ Text.ofInt port)
  line ("  Workers:     " ++ Text.ofInt workers)
  line ("  ClickHouse:  " ++ settings.storeAddress)
  line ("  Log Level:   " ++ logLevel)
  let shown : Text := if host = Text.ofString "0.0.0.0" then "localhost" else host
  let address := "http://" ++ shown ++ ":" ++ Text.ofInt port
  line ("\n  Remote read: " ++ address ++ "/api/v1/prom/read")
  line ("  Health:      " ++ address ++ "/health\n")
  -- a server that reloads is asked for without a number of workers
  let options : ServerOptions :=
    { host, port, logLevel, accessLog, workers := if reload then none else some workers }
  present (.server options)
  match o.serve options with
  | .stopped => return
  | .interrupted => line "\n[green]\u2713 Server stopped gracefully[/green]\n"
  | .failed message =>
    line ("\n[red]\u2717 Server error: " ++ message ++ "[/red]\n")
    throw (.exit 1)

/-- A value of an answer, or a word for a missing one. -/
def answerField (document : Value) (key : String) : Act Text :=
  match document with
  | .mapping _ => pure ((document.field? key).getD (.text "unknown")).display
  | v => throw (.trouble (.unexpected ("'" ++ v.kindName ++ "' object has no attribute 'get'")))

/-- Asks a server whether it is ready. -/
def status (o : Outside) (args : List Text) : Act Unit := do
  let w ← words [{ name := "--host", letter := some 'h' },
    { name := "--port", letter := some 'p' }] true args
  if w.has helpOption then return
  if !w.arguments.isEmpty then throw .usage
  let port ← numberOption w "--port"
  let url := "http://" ++ (w.value? "--host").getD "localhost" ++ ":" ++
    Text.ofInt (port.getD 8000) ++ "/health/ready"
  line ("[blue]Checking API server at " ++ url ++ "...[/blue]")
  present (.question url)
  match o.ask url with
  | .refused =>
    line ("\n[red]\u2717 Cannot connect to API server at " ++ url ++ "[/red]")
    line "[yellow]Is the server running?[/yellow]\n"
    throw (.exit 1)
  | .timedOut =>
    line ("\n[red]\u2717 Connection timeout to " ++ url ++ "[/red]\n")
    throw (.exit 1)
  | .interrupted => throw .interrupted
  | .failed message => throw (.trouble (.unexpected message))
  | .answered status document =>
    -- any other status is shown, and the command fails
    if status ≠ 200 then
      let state ← answerField document "status"
      line ("\n[yellow]\u26a0 Server responded with status " ++ Text.ofInt status ++ " (" ++
        state ++ ")[/yellow]\n")
      throw (.exit 1)
    else
      line "\n[green]\u2713 API server is ready[/green]\n"
      line ("  Status:      " ++ (← answerField document "status"))
      line ("  Version:     " ++ (← answerField document "version"))
      line ("  Timestamp:   " ++ (← answerField document "timestamp") ++ "\n")

/-! ## The program -/

/-- What a first argument selects. -/
inductive Command where
  /-- Shows the statement of a request. -/
  | translate
  /-- Shows what a body holds. -/
  | decode
  /-- Has to do with the server. -/
  | api
deriving DecidableEq

/-- The command with a given name. -/
def Command.ofName? (name : Text) : Option Command :=
  if name = Text.ofString "translate" then some .translate
  else if name = Text.ofString "decode" then some .decode
  else if name = Text.ofString "api" then some .api
  else none

/-- The commands that have to do with the server. -/
def api (o : Outside) (settings : Settings) (args : List Text) : Act Unit := do
  let w ← words [] false args
  if w.has helpOption then return
  match w.arguments with
  | [] => throw .usage
  | name :: rest =>
    if name = Text.ofString "serve" then serve o settings rest
    else if name = Text.ofString "status" then status o rest
    else throw .usage

/-- The settings that a command runs with; a verbose one logs everything. -/
def loadSettings (o : Outside) (config : Option Path) (verbose : Bool) : Act Settings :=
  match Settings.load o.environment config [] with
  | .ok s => pure (if verbose then { s with logLevel := .debug } else s)
  | .error e => throw (.trouble (.unexpected e.message))

/-- The option that asks for the version. -/
def versionOption : Text := "--version"

/-- The options before the command. -/
def programOptions : List KnownOption :=
  [{ name := versionOption, letter := some 'V', takesValue := false },
    { name := "--config", letter := some 'c' }, { name := "--output", letter := some 'o' },
    { name := "--verbose", letter := some 'v', takesValue := false }]

/-- What the words of the command line ask for. -/
def program (o : Outside) (args : List Text) : Act Unit := do
  let w ← words programOptions false args
  -- the first of the two options ends the run
  match w.options.find? fun (n, _) => n = versionOption || n = helpOption with
  | some (n, _) =>
    if n = versionOption then
      line ("promread version: " ++ o.version)
      line ("Python: " ++ o.runtime)
  | none =>
    let config ← fileOption o.environment w "--config"
    match w.arguments with
    | [] => throw .usage
    | name :: rest =>
      match Command.ofName? name with
      | none => throw .usage
      | some command =>
        let output := (w.value? "--output").getD "table"
        let asDocument := output = Text.ofString "json"
        if !asDocument && output ≠ Text.ofString "table" then
          line ("[red]Error:[/red] Invalid output format: " ++ output)
          line "Valid formats: table, json"
          throw (.exit 1)
        let verbose := w.has "--verbose"
        reporting verbose do
          let settings ← loadSettings o config verbose
          match command with
          | .translate => translate o settings asDocument rest
          | .decode => decode o rest
          | .api => api o settings rest

/-- What a run of the program with the given words comes to. -/
def run (o : Outside) (args : List Text) : Run := (program o args).run

end RemoteRead.CommandLine
