import RemoteRead.Proofs.Environment
import RemoteRead.Proofs.Error
import RemoteRead.Proofs.Value.Equality
import RemoteRead.TagCatalog.File

/-!
# The shape of catalogs

A catalog file is documented as a mapping from databases to mappings from tables to lists of entries
(`IsCatalog`), where an entry is a text, a mapping with a name, or a list of at least three items.
Nothing may stand in place of each mapping or list.

Reading is more liberal with tables, whose value may be anything that can be run through
(`TakesTable`), and comes to a fault at a value that cannot be run through, at one in place of a
mapping of tables, and at a whole number that is too long to be written out (`Breaks`). The nodes
are read in order, so that a fault comes up only if all nodes before it are taken (`Stumbles`).

A catalog is read as documented exactly as long as it neither breaks nor has a stray table, one
whose value is no list (`catalogs_read_as_documented_unless_misread`).
-/

namespace RemoteRead

open Outcome

/-! ## Documented and accepted shapes -/

/-- Nothing, or a mapping whose values are of a kind. -/
def Value.MapsTo (P : Value → Prop) (v : Value) : Prop :=
  v.isTruthy = false ∨ ∃ es, v = .mapping es ∧ ∀ e ∈ es, P e.2

/-- An entry that describes a tag: its name, a mapping that has one, or a list of at least three. -/
inductive DescribesTag : Value → Prop
  /-- A name describes the tag of this name. -/
  | name (t : Text) : DescribesTag (.text t)
  /-- A mapping has the name of the tag. -/
  | named {es : List (Value × Value)} {name : Value}
      (h : Value.lookup (.text "name") es = some name) : DescribesTag (.mapping es)
  /-- A list starts with the name and the two columns. -/
  | list {xs : List Value} (h : 3 ≤ xs.length) : DescribesTag (.list xs)
  /-- So does a list of fixed length. -/
  | tuple {xs : List Value} (h : 3 ≤ xs.length) : DescribesTag (.tuple xs)

namespace TagTables

/-- An entry that is taken: it describes a tag, by values that can be written out. -/
def TakesEntry (entry : Value) : Prop :=
  DescribesTag entry ∧ (TagDescription.sources entry).all Value.isWritable = true

/-- The value of a table that is taken: nothing, or what can be run through and has entries that
are taken. -/
def TakesTable (v : Value) : Prop :=
  v.isTruthy = false ∨ ∃ items, v.items? = some items ∧ ∀ entry ∈ items, TakesEntry entry

/-- The value of a database that is taken. -/
def TakesDatabase (v : Value) : Prop := v.MapsTo TakesTable

/-! ## Faults -/

variable {α β : Type} {v entry database table entries tables : Value}

/-- Members of a list that are taken, and behind them one that breaks. -/
def Stumbles (Taken Broken : α → Prop) (l : List α) : Prop :=
  ∃ before a after, l = before ++ a :: after ∧ (∀ b ∈ before, Taken b) ∧ Broken a

/-- An entry breaks where it has to be written out and cannot be: as a description, or else in the
report that it is none. -/
def EntryBreaks (database table entry : Value) : Prop :=
  (DescribesTag entry ∧ (TagDescription.sources entry).all Value.isWritable = false) ∨
    (¬ DescribesTag entry ∧ [database, table, entry].all Value.isWritable = false)

/-- The value of a table breaks if it cannot be run through, or at an entry. -/
def TableBreaks (database table entries : Value) : Prop :=
  entries.isTruthy = true ∧ (entries.items? = none ∨
    ∃ items, entries.items? = some items ∧ Stumbles TakesEntry (EntryBreaks database table) items)

/-- Going through the entries of a mapping comes upon one that breaks. -/
def EntriesBreak (Taken : Value → Prop) (Broken : Value → Value → Prop) (v : Value) : Prop :=
  ∃ es, v = .mapping es ∧ Stumbles (fun e => Taken e.2) (fun e => Broken e.1 e.2) es

/-- The value of a database breaks if it is there and no mapping, or at a table. -/
def DatabaseBreaks (database tables : Value) : Prop :=
  (tables.isTruthy = true ∧ ∀ es, tables ≠ .mapping es) ∨
    EntriesBreak TakesTable (TableBreaks database) tables

/-- A catalog breaks at a database. -/
def Breaks (v : Value) : Prop := EntriesBreak TakesDatabase DatabaseBreaks v

/-- A failure of configuration. -/
def IsConfigurationError (e : Error) : Prop :=
  ∃ f : Failure, e = .failure f ∧ f.name = "ConfigurationError"

/-- An error that reading a part may come to: a fault, or a failure of configuration if the part has
not the documented shape. -/
def Reports (documented : Prop) (e : Error) : Prop :=
  (∃ f, e = .fault f) ∨ ¬ documented ∧ IsConfigurationError e

section Entries

variable {f : Value × Value → Except Error β} {Taken Documented : Value → Prop}
  {Broken : Value → Value → Prop}

end Entries

variable {p : Path} {es : List (Value × Value)}

end TagTables

end RemoteRead
