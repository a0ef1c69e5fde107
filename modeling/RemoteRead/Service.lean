import RemoteRead.Series.Decode
import RemoteRead.Statement
import RemoteRead.Store
import RemoteRead.Wire.Body

/-!
# The read service

A request is compiled to a statement, the statement is executed once, and its table is decoded to
time series. Whatever goes wrong on the way leaves as a failure of the bridge.
-/

namespace RemoteRead

/-- What a service answers with. -/
structure Service where
  /-- The settings of the compilation. -/
  config : Config
  /-- The catalog of tags, if there is one. -/
  catalog : Option TagCatalog
  /-- What executes statements. -/
  executor : Executor

/-- An error as a failure: faults are wrapped. -/
def Error.asFailure : Error → Failure
  | failure f => f
  | fault f => .grouped .compilation (.text ("Remote read failed: " ++ f.message)) []

/-- What a compiled query asks of the store. -/
def CompiledQuery.call (q : CompiledQuery) : StoreCall := ⟨q.sql, q.database, q.dataSource⟩

/-- An outcome of reading together with the statements that were executed for it. -/
structure Outcome (α : Type) where
  /-- The answer, or the failure that is reported. -/
  result : Except Failure α
  /-- The statements in the order of execution. -/
  calls : List StoreCall

/-- The outcome with its answer transformed. -/
def Outcome.map {α β : Type} (f : α → β) (o : Outcome α) : Outcome β := ⟨o.result.map f, o.calls⟩

namespace Service

/-- The answer to a decoded request. -/
def read [Host] (s : Service) (request : ReadRequest) : Outcome ReadResponse :=
  match request.compile s.config s.catalog with
  | .error f => ⟨.error f, []⟩
  | .ok (q, _) =>
    let response := do (← s.executor q.call).decode s.config.seriesLimit
    ⟨response.mapError Error.asFailure, [q.call]⟩

/-- The answer to a body, as a body. -/
def readBody [Host] (s : Service) (body : List UInt8) : Outcome (List UInt8) :=
  match Wire.readRequestBody body with
  | .error f => ⟨.error f, []⟩
  | .ok request => (s.read request).map Wire.responseBody

end Service

end RemoteRead
