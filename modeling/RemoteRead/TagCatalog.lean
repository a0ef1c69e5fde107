import RemoteRead.Metric
import RemoteRead.ResultSet
import RemoteRead.TimeRange

/-!
# Tag catalogs

A catalog says which tags a table has, each with the columns of its client and server side. A table
of descriptions comes from a nested mapping; `expandTags` turns the answer of a catalog into columns
to select.
-/

namespace RemoteRead

/-- A tag and the columns of its two sides. -/
structure TagDescription where
  /-- The name of the tag. -/
  name : Text
  /-- The column of the client side. -/
  clientName : Text
  /-- The column of the server side. -/
  serverName : Text
deriving DecidableEq

/-- A question to a catalog. -/
structure CatalogCall where
  /-- The database of the table. -/
  database : Text
  /-- The table. -/
  table : Text
  /-- The statement that would list the tags. -/
  statement : Text
  /-- The range of time in question. -/
  range : TimeRange
deriving DecidableEq

/-- A catalog answers with descriptions or fails. -/
abbrev TagCatalog := CatalogCall → Except Error (List TagDescription)

namespace Value

/-- The item of a sequence at a place, or the value of a mapping under a number. -/
def item? (v : Value) (i : Nat) : Option Value :=
  match v with
  | list xs => xs[i]?
  | tuple xs => xs[i]?
  | text t => t[i]?.map fun c => text [c]
  | octets bs => bs[i]?.map fun b => int b.toNat
  | mapping es => lookup (int i) es
  | _ => none

end Value

namespace TagDescription

/-- The description in a row of a name, a client column and a server column. -/
def ofRow? (row : Value) : Option TagDescription := do
  return ⟨(← row.item? 0).display, (← row.item? 1).display, (← row.item? 2).display⟩

/-- The failure of a catalog entry that describes no tag. -/
def invalidEntry (database table entry : Value) : Failure :=
  .grouped .configuration
    (.text ("Invalid tag entry for " ++ database.display ++ "." ++ table.display ++ ": " ++
      entry.shown))
    [(.text "database", database), (.text "table", table)]

/-- The description in a mapping with a name; a missing column is called as the tag is. -/
def ofEntries? (entries : List (Value × Value)) : Option TagDescription :=
  (Value.lookup (.text "name") entries).map fun name =>
    let column (key : Text) : Text :=
      ((Value.lookup (.text key) entries).getD (.text name.display)).display
    ⟨name.display, column "client_name", column "server_name"⟩

/-- The description in a catalog entry: a plain name, a mapping, or a row of at least three. -/
def ofEntry? : Value → Option TagDescription
  | .text t => some ⟨t, t, t⟩
  | .mapping entries => ofEntries? entries
  | .list xs => if 3 ≤ xs.length then ofRow? (.list xs) else none
  | .tuple xs => if 3 ≤ xs.length then ofRow? (.tuple xs) else none
  | _ => none

/-- The values in a catalog entry that its description is written out of. -/
def sources : Value → List Value
  | .mapping entries =>
    let keys : List Text := ["name", "client_name", "server_name"]
    keys.filterMap fun key => Value.lookup (.text key) entries
  | .list xs => xs.take 3
  | .tuple xs => xs.take 3
  | _ => []

/-- The description in an entry of a table, as far as whole numbers in it can be written out. -/
def ofEntry (database table entry : Value) : Except Error TagDescription :=
  match ofEntry? entry with
  | some d => if (sources entry).all Value.isWritable then .ok d else .error (.fault Value.overlong)
  | none =>
    if [database, table, entry].all Value.isWritable then
      .error (invalidEntry database table entry)
    else .error (.fault Value.overlong)

end TagDescription

/-- The descriptions of the tables of databases. -/
structure TagTables where
  /-- The descriptions under each database and table. -/
  entries : List ((Value × Value) × List TagDescription)

namespace TagTables

/-- The entries of a mapping or of nothing; anything else that counts as present has none. -/
def entriesOf (v : Value) : Except Fault (List (Value × Value)) :=
  match v with
  | .mapping es => .ok es
  | _ =>
    if v.isTruthy then
      .error (.missingOperation ("'" ++ v.kindName ++ "' object has no attribute 'items'"))
    else .ok []

/-- The items of a sequence or of nothing. -/
def itemsOf (v : Value) : Except Fault (List Value) :=
  if v.isTruthy then (v.items?).elim (.error v.notIterable) .ok else .ok []

/-- The descriptions of one table. -/
def tableEntries (database table entries : Value) : Except Error (List TagDescription) := do
  let items ← (itemsOf entries).mapError Error.fault
  items.mapM (TagDescription.ofEntry database table)

/-- The tables of one database. -/
def databaseTables (database tables : Value) :
    Except Error (List ((Value × Value) × List TagDescription)) := do
  let tables ← (entriesOf tables).mapError Error.fault
  tables.mapM fun (table, entries) => do
    return ((database, table), ← tableEntries database table entries)

/-- The tables of a nested mapping from databases to tables to entries. -/
def ofValue (v : Value) : Except Error TagTables := do
  let databases ← (entriesOf v).mapError Error.fault
  let entries ← databases.mapM fun (database, tables) => databaseTables database tables
  return ⟨entries.flatten⟩

/-- The descriptions of a table, none if it is not known. -/
def lookup (t : TagTables) (database table : Text) : List TagDescription :=
  ((t.entries.find? fun ((d, n), _) => d.same (.text database) && n.same (.text table)).map
    (·.2)).getD []

/-- The catalog that looks tables up. -/
def catalog (t : TagTables) : TagCatalog := fun call => .ok (t.lookup call.database call.table)

end TagTables

/-- Tags that group series instead of telling them apart. -/
def ignoredTags : List Text := ["lb_listener", "pod_ingress"]

/-- The columns of a tag: both sides where a table has them, else the tag itself. -/
def TagDescription.columns (d : TagDescription) (isEdge : Bool) : List Text :=
  if ignoredTags.contains d.name then []
  else if isEdge && d.name != d.clientName then
    [Metric.inBackticks d.clientName, Metric.inBackticks d.serverName]
  else [Metric.inBackticks d.name]

/-- The question that a catalog is asked about a metric. -/
def catalogCall (metric : Metric) (range : TimeRange) : CatalogCall :=
  ⟨metric.database, metric.table, range.showTags metric.table, range⟩

/-- The tag columns to select, and the questions that the catalog was asked. Views and the system
database have one column for all tags. Without a catalog, or when it fails, no tags are selected. -/
def expandTags (metric : Metric) (range : TimeRange) (config : Config)
    (catalog : Option TagCatalog) : List Text × List CatalogCall :=
  if !metric.isResolved || metric.database == config.systemDatabase then (["tag"], [])
  else
    match catalog with
    | none => ([], [])
    | some ask =>
      let call := catalogCall metric range
      match ask call with
      | .error _ => ([], [call])
      | .ok tags => (tags.flatMap (·.columns (config.edgeTables.contains metric.table)), [call])

end RemoteRead
