import RemoteRead.Error
import RemoteRead.Environment

/-!
# What a command shows

A command shows lines, documents, statements, tables and panels, and asks for two things outside: to
run a server, and to ask one for its state. `Act` is what a command does; it may stop early, and
what it has shown until then stays.
-/

namespace RemoteRead.CommandLine

/-- How a server is to be run. -/
structure ServerOptions where
  /-- The address to bind to. -/
  host : Text
  /-- The port. -/
  port : Int
  /-- The level of the log, in lower case. -/
  logLevel : Text
  /-- Whether requests are logged. -/
  accessLog : Bool
  /-- The number of processes, none if the server starts again whenever the program changes. -/
  workers : Option Int

/-- What is shown, or asked for outside. -/
inductive Event where
  /-- A line. -/
  | line (t : Text)
  /-- A document in JSON. -/
  | document (v : Value)
  /-- A statement. -/
  | statement (t : Text)
  /-- Names with their values under a title. -/
  | table (title : Text) (rows : List (Text × Text))
  /-- A text under a title. -/
  | panel (title t : Text)
  /-- The way to where an error arose. -/
  | trace
  /-- A server is run. -/
  | server (options : ServerOptions)
  /-- A server is asked at an address. -/
  | question (url : Text)

/-- What keeps a command from its work. -/
inductive Trouble where
  /-- A failure of the bridge. -/
  | failure (f : Failure)
  /-- Anything else, with its message. -/
  | unexpected (message : Text)

/-- An error as trouble. -/
def Trouble.ofError : Error → Trouble
  | .failure f => .failure f
  | .fault f => .unexpected f.message

/-- Why a command stops early. -/
inductive Stop where
  /-- The words are not understood. -/
  | usage
  /-- The work is done, with an exit code. -/
  | exit (code : Nat)
  /-- The user has interrupted it. -/
  | interrupted
  /-- Trouble, which is still to be shown. -/
  | trouble (t : Trouble)

/-- What has been shown and written. -/
structure Record where
  /-- What has been shown, in order. -/
  events : List Event := []
  /-- The files that have been written, in order. -/
  written : List (Path × List UInt8) := []

/-- What a command does. -/
abbrev Act := ExceptT Stop (StateM Record)

namespace Act

/-- Shows something. -/
def present (event : Event) : Act Unit := modify fun r => { r with events := r.events ++ [event] }

/-- Shows a line. -/
def line (t : Text) : Act Unit := present (.line t)

/-- Writes a file. -/
def write (p : Path) (octets : List UInt8) : Act Unit :=
  modify fun r => { r with written := r.written ++ [(p, octets)] }

/-- A value, or trouble. -/
def orFailure {α : Type} (r : Except Failure α) : Act α :=
  match r with
  | .ok x => pure x
  | .error f => throw (.trouble (.failure f))

/-- A value, or trouble. -/
def orError {α : Type} (r : Except Error α) : Act α :=
  match r with
  | .ok x => pure x
  | .error e => throw (.trouble (.ofError e))

/-- Shows trouble, with all that is known about it if asked for. -/
def showTrouble (verbose : Bool) : Trouble → Act Unit
  | .failure f => do
    line ("\n[red]Error:[/red] " ++ f.message)
    if verbose && !f.context.isEmpty then
      line "\n[yellow]Context:[/yellow]"
      for (k, v) in f.context do
        line ("  " ++ k.display ++ ": " ++ v.display)
  | .unexpected message => do
    line ("\n[red]Unexpected Error:[/red] " ++ message)
    if verbose then
      line "\n[yellow]Traceback:[/yellow]"
      present .trace

/-- Shows the trouble that something meets, and stops. -/
def reporting (verbose : Bool) (act : Act Unit) : Act Unit :=
  tryCatch act fun stop => do
    match stop with
    | .trouble t =>
      showTrouble verbose t
      throw (.exit 1)
    | _ => throw stop

end Act

/-- What a run of the command line comes to. -/
structure Run where
  /-- The exit code. -/
  exitCode : Nat
  /-- What has been shown and written. -/
  record : Record

/-- The exit code of an early stop. -/
def Stop.code : Stop → Nat
  | usage => 2
  | exit code => code
  | interrupted => 130
  | trouble _ => 1

/-- What an act comes to. -/
def Act.run (act : Act Unit) : Run :=
  match (ExceptT.run act).run {} with
  | (.ok (), record) => ⟨0, record⟩
  | (.error stop, record) => ⟨stop.code, record⟩

end RemoteRead.CommandLine
