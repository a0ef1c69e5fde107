import RemoteRead.Cell

/-!
# Result sets

The answer of the store as a table: column names, the kind of each column, and rows of typed cells.
A store may name a column by something other than a text, so names are values.
-/

namespace RemoteRead

/-- A table of typed cells. -/
structure ResultSet where
  /-- The names of the columns. -/
  columns : List Value
  /-- The kinds of the columns. -/
  kinds : List ColumnKind
  /-- The rows of cells. -/
  rows : List (List Cell)
  /-- The statement that the table answers. -/
  query : Text

namespace Value

/-- The values that a value runs through: the items of a list, the code points of a text, the keys
of a mapping. -/
def items? : Value → Option (List Value)
  | list xs => some xs
  | tuple xs => some xs
  | set xs => some xs
  | text t => some (t.map fun c => text [c])
  | octets bs => some (bs.map fun b => int b.toNat)
  | mapping es => some (es.map (·.1))
  | _ => none

/-- The fault of running through a value that holds no others. -/
def notIterable (v : Value) : Fault := .wrongKind ("'" ++ v.kindName ++ "' object is not iterable")

end Value

namespace ResultSet

/-- The cells of a row, as many as there are both values and kinds. -/
def cellsOf (row : List Value) (kinds : List ColumnKind) : Except Fault (List Cell) :=
  (row.zip kinds).mapM fun (v, k) => Cell.make v k

/-- The kind that a value names. -/
def kindOf (v : Value) : Except Fault ColumnKind :=
  match v with
  | .text t => (ColumnKind.ofName? t).elim (.error (invalid v)) .ok
  | _ => .error (invalid v)
where
  /-- The fault of a value that names no kind. -/
  invalid (v : Value) : Fault := .badValue (v.shown ++ " is not a valid ValueKind")

/-- The table of raw rows. Each row is cut to the number of columns, and may be shorter. -/
def ofRows (columns kinds rows : List Value) (query : Text) : Except Fault ResultSet := do
  let kinds ← kinds.mapM kindOf
  if kinds.length ≠ columns.length then
    throw (.badValue ("Got " ++ Text.ofNat kinds.length ++ " schemas for " ++
      Text.ofNat columns.length ++ " columns"))
  let rows ← rows.mapM fun row =>
    match row.items? with
    | some values => cellsOf values kinds
    | none => .error row.notIterable
  return ⟨columns, kinds, rows, query⟩

end ResultSet

end RemoteRead
