import RemoteRead.Digest
import RemoteRead.Json.Reader
import RemoteRead.ResultSet
import RemoteRead.Text.WideUnits

/-!
# The store

The store answers a statement over HTTP with a table in compact form: the columns with their types,
and rows of positional values. `Store.request` is what is sent for a statement, and
`Reply.resultSet` is what its answer says; an answer that is no such table fails the query.
-/

namespace RemoteRead

/-- A statement to execute. -/
structure StoreCall where
  /-- The text of the statement. -/
  statement : Text
  /-- The database that it runs in, empty for the default. -/
  database : Text
  /-- The data source, empty for none. -/
  dataSource : Text
deriving DecidableEq

/-- What executes statements. -/
abbrev Executor := StoreCall → Except Error ResultSet

namespace Store

/-- An address without the slashes at its end. -/
def baseAddress (address : Text) : Text := address.trimRight (· == CodePoint.ofChar '/')

/-- The octets of a text that is sent. -/
def encoded (t : Text) : Except Fault (List UInt8) :=
  match Text.Utf8.encode? t with
  | some bs => .ok bs
  | none => .error (.unencodable (Text.Utf8.encodeMessage t))

/-- The short name of a statement in the logs: the beginning of its digest. -/
def statementName (statement : Text) : Except Fault Text := do
  let bs ← encoded statement
  return ((Digest.digest bs).take 2).flatMap fun w => Text.hex 8 w.toNat

/-- What is sent to the store. -/
structure Request where
  /-- The parameters of the address. -/
  parameters : List (Text × Text)
  /-- The body. -/
  body : Text
deriving DecidableEq

/-- The parameters that choose the form of every answer. -/
def formatParameters : List (Text × Text) :=
  [("default_format", "JSONCompact"), ("output_format_json_quote_64bit_integers", "0"),
    ("output_format_json_quote_denormals", "1")]

/-- A parameter, left out if it is empty. -/
def parameter (name value : Text) : List (Text × Text) :=
  if value.isEmpty then [] else [(name, value)]

/-- The request for a statement; the data source is sent along as a comment. -/
def request (call : StoreCall) : Except Fault Request := do
  let _ ← encoded call.statement
  let _ ← encoded call.database
  let _ ← encoded call.dataSource
  return {
    parameters := formatParameters ++ parameter "database" call.database ++
      parameter "log_comment" call.dataSource
    body := call.statement }

/-- What comes back for a request. -/
inductive Reply where
  /-- An answer with its status and body. -/
  | answered (status : Nat) (body : List UInt8)
  /-- The exchange failed. -/
  | failed (message : Text)
  /-- Something else went wrong. -/
  | faulted (f : Fault)

/-! ## Tables -/

/-- The value under a text key of a column description. -/
def describedBy (v : Value) (key : Text) : Except Fault Value :=
  match v with
  | .mapping es => (Value.lookup (.text key) es).elim (.error (.missingKey (.text key))) .ok
  | .text _ => .error (.wrongKind "string indices must be integers, not 'str'")
  | .list _ => .error (.wrongKind "list indices must be integers or slices, not str")
  | _ => .error (.wrongKind ("'" ++ v.kindName ++ "' object is not subscriptable"))

/-- The kind of column that a type names. -/
def describedKind (v : Value) : Except Fault ColumnKind :=
  match v with
  | .text t => .ok (ColumnKind.ofTypeName t)
  | _ => .error (.missingOperation ("'" ++ v.kindName ++ "' object has no attribute 'strip'"))

/-- The values that a value runs through. -/
def itemsOf (v : Value) : Except Fault (List Value) := v.items?.elim (.error v.notIterable) .ok

/-- The failure of a query. -/
def queryFailure (statement message : Text) : Error :=
  .failure (.queryExecution (.text message) (.text statement))

/-- A cell; a value that is not of the column's kind fails the query, a number that is too large is
passed on. -/
def cell (statement : Text) (v : Value) (kind : ColumnKind) : Except Error Cell :=
  match Cell.make v kind with
  | .ok c => .ok c
  | .error (.badValue m) =>
    .error (queryFailure statement ("Unexpected value in query response: " ++ m))
  | .error (.wrongKind m) =>
    .error (queryFailure statement ("Unexpected value in query response: " ++ m))
  | .error f => .error (.fault f)

/-- The cells of a row, which has a value for every column. -/
def row (statement : Text) (kinds : List ColumnKind) (v : Value) : Except Error (List Cell) :=
  match v.items? with
  | none => .error (.fault (.wrongKind ("object of type '" ++ v.kindName ++ "' has no len()")))
  | some values =>
    if values.length = kinds.length then
      (values.zip kinds).mapM fun (v, k) => cell statement v k
    else
      .error (queryFailure statement ("Row has " ++ Text.ofNat values.length ++ " values for " ++
        Text.ofNat kinds.length ++ " columns"))

/-- The table of a document; absent parts are empty. -/
def table (statement : Text) (document : Value) : Except Error ResultSet :=
  match document with
  | .mapping es => do
    let part (key : Text) : Except Error (List Value) :=
      (itemsOf ((Value.lookup (.text key) es).getD (.list []))).mapError Error.fault
    let descriptions ← part "meta"
    let columns ← (descriptions.mapM (describedBy · "name")).mapError Error.fault
    let kinds ← (descriptions.mapM fun d => do describedKind (← describedBy d "type")).mapError
      Error.fault
    let rows ← (← part "data").mapM (row statement kinds)
    return ⟨columns, kinds, rows, statement⟩
  | v =>
    .error (.fault (.missingOperation ("'" ++ v.kindName ++ "' object has no attribute 'get'")))

/-! ## Answers -/

/-- The document of a body. Nesting beyond what is read is passed on; any other flaw fails the
query. -/
def document [Host] (statement : Text) (body : List UInt8) : Except Error Value :=
  match Text.decodeDocument body with
  | .error e => .error (invalid e.message)
  | .ok t =>
    match Json.read t .answer with
    | .ok v => .ok v
    | .error (.tooDeep object) =>
      .error (.fault (.tooDeep (Json.ReadError.message t (.tooDeep object))))
    | .error e => .error (invalid (e.message t))
where
  /-- The failure of a body that is no document. -/
  invalid (message : Text) : Error :=
    queryFailure statement ("Invalid JSON in query response: " ++ message)

/-- The result set that a reply to a statement gives. -/
def Reply.resultSet [Host] (statement : Text) : Reply → Except Error ResultSet
  | failed message => .error (queryFailure statement ("Query failed: " ++ message))
  | faulted f => .error (.fault f)
  | answered status body =>
    if status = 200 then do table statement (← document statement body)
    else
      .error (queryFailure statement ("Query failed with HTTP " ++ Text.ofNat status ++ ": " ++
        (Text.Utf8.decodeLossy body).trimBlanks))

/-- The executor over an exchange of requests for replies. -/
def executor [Host] (exchange : Request → Reply) : Executor := fun call =>
  match request call with
  | .error f => .error (.fault f)
  | .ok r => (exchange r).resultSet call.statement

end Store

end RemoteRead
