import RemoteRead.Http.App
import RemoteRead.Settings.Load
import RemoteRead.TagCatalog.File

/-!
# Starting the application

When the application starts, its settings are loaded, and a service is made from them unless it
already has one. Settings that are not acceptable and a catalog that cannot be read keep it from
starting.
-/

namespace RemoteRead

/-- The service that settings describe, with what executes its statements. -/
def Service.ofSettings (e : Environment) (s : Settings) (executor : Executor) :
    Except Error Service := do
  let tables ← s.tagCatalogPath.mapM (TagTables.load e)
  let config ← s.config.checked.mapError Error.fault
  return ⟨config, tables.map TagTables.catalog, executor⟩

namespace Http

/-- Why the application did not start. -/
inductive StartError where
  /-- The settings could not be loaded. -/
  | settings (e : Settings.LoadError)
  /-- The service could not be made. -/
  | service (e : Error)

/-- The name of the error's class. -/
def StartError.name : StartError → Text
  | settings e => e.name
  | service e => e.name

/-- What the error says. -/
def StartError.message : StartError → Text
  | settings e => e.message
  | service e => e.message

/-- The application after its start. -/
def App.start [Host] (a : App) (e : Environment) (executor : Settings → Executor) :
    Except StartError App := do
  let settings ← (Settings.load e none []).mapError StartError.settings
  match a.reader with
  | some _ => return a
  | none =>
    let service ← (Service.ofSettings e settings (executor settings)).mapError StartError.service
    return { a with reader := some (.ofService service) }

end Http

end RemoteRead
