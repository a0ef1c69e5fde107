import RemoteRead.Environment
import RemoteRead.TagCatalog
import RemoteRead.Yaml.Document

/-!
# Catalog files

A catalog file holds a YAML mapping from databases to tables to entries. A file that cannot be read
or is no YAML is a failure of configuration; an empty document is an empty catalog.
-/

namespace RemoteRead

/-- What stands at a path that cannot be read as a file. -/
def Environment.unreadable (e : Environment) (p : Path) : Text :=
  match e.entry? p with
  | some _ => "[Errno 21] Is a directory: " ++ p.text.quoted
  | none => "[Errno 2] No such file or directory: " ++ p.text.quoted

namespace TagTables

/-- A catalog file that cannot be read. -/
def loadFailure (p : Path) (reason : Text) : Failure :=
  .grouped .configuration
    (.text ("Failed to load tag catalog from " ++ p.text ++ ": " ++ reason)) []

/-- A catalog file that holds no mapping. -/
def shapeFailure (p : Path) : Failure :=
  .grouped .configuration
    (.text ("Tag catalog " ++ p.text ++ " must be a mapping of databases")) []

/-- The catalog in the value of a file. -/
def ofDocument (p : Path) (v : Value) : Except Error TagTables :=
  if v.isTruthy then
    match v with
    | .mapping _ => ofValue v
    | _ => .error (shapeFailure p)
  else .ok ⟨[]⟩

/-- The catalog in a file. -/
def load (e : Environment) (p : Path) : Except Error TagTables :=
  match e.file? p with
  | none => .error (loadFailure p (e.unreadable p))
  | some octets =>
    match Yaml.read octets with
    | .ok v => ofDocument p v
    | .error .malformed => .error (loadFailure p "the document is malformed")
    | .error (.fault f) => .error f

end TagTables

end RemoteRead
