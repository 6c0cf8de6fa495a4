import ObjectCatalog.Dialect.Insert
import ObjectCatalog.Schema.Binds
import ObjectCatalog.Schema.Table

/-! # Statements for a table

The definition of a table in a dialect, the neutral insert, and the insert that passes over rows
already stored, whose binds carry the dialect's types.
-/
namespace ObjectCatalog

namespace Table

/-- Engines that have a code for an existing table get a plain definition. -/
def existsClause (d : Descriptor) : String :=
  if (d.codes .exists).isEmpty then "IF NOT EXISTS " else ""

def columnLine (d : Descriptor) (c : Column) : String :=
  "    " ++ c.name ++ " " ++ (d.columnType c.logical).keyword

def keyEntries (t : Table) (d : Descriptor) : List String :=
  t.primaryKey.attach.map fun ⟨name, mem⟩ =>
    d.keyColumn name (t.columnOf name (t.key_mem name mem)).logical

def createStatement (t : Table) (d : Descriptor) : String :=
  let lines := t.columns.map (columnLine d) ++
    ["    PRIMARY KEY (" ++ String.intercalate ", " (t.keyEntries d) ++ ")"]
  "CREATE TABLE " ++ existsClause d ++ t.name ++ " (\n" ++ String.intercalate ",\n" lines ++ "\n)"

end Table

inductive InsertError
  | noColumns
  | unknownColumn (e : UnknownColumn)
  | notAnInsert (e : Insert.NotAnInsert)
  | noBind (name : String)
  deriving DecidableEq

def InsertError.message : InsertError → String
  | .noColumns => "columns must not be empty"
  | .unknownColumn e => e.message
  | .notAnInsert e => e.message
  | .noBind name =>
    "This text() construct doesn't define a bound parameter named " ++
      Text.quote (if name == "" then "param" else name)

structure BoundStatement where
  sql : String
  binds : List (String × Option BindType)

namespace Table

def firstUnknown? (t : Table) (names : List String) : Option UnknownColumn :=
  (names.find? fun name => (t.column? name).isNone).map fun name => ⟨t.name, name⟩

/-- All columns, or the selected ones, which must be some and all known. -/
def selectColumns (t : Table) : Option (List String) → Except InsertError (List String)
  | none => .ok t.columnNames
  | some names =>
    if names.isEmpty then .error .noColumns
    else match t.firstUnknown? names with
      | some e => .error (.unknownColumn e)
      | none => .ok names

def insertText (table : String) (names : List String) : String :=
  "INSERT INTO " ++ table ++ " (" ++ String.intercalate ", " names ++ ") VALUES (" ++
    String.intercalate ", " (names.map (":" ++ ·)) ++ ")"

def insertStatement (t : Table) (columns : Option (List String)) : Except InsertError String :=
  (t.selectColumns columns).map (insertText t.name)

def bindType? (t : Table) (d : Descriptor) (names : List String) (name : String) :
    Option BindType :=
  if names.contains name then (t.column? name).map fun c => (d.columnType c.logical).bind else none

/-- The insert in a dialect. The selection is checked once more when the neutral insert is made
from it, so a table without columns cannot be inserted into. -/
def adaptedInsert (t : Table) (d : Descriptor) (columns : Option (List String)) :
    Except InsertError BoundStatement := do
  let names ← t.selectColumns columns
  let neutral ← t.insertStatement (some names)
  let sql ← (Insert.adapt d.adapter neutral).mapError .notAnInsert
  let found := Binds.names sql
  match names.find? fun name => !found.contains name with
  | some name => .error (.noBind name)
  | none => .ok ⟨sql, found.map fun name => (name, t.bindType? d names name)⟩

end Table

end ObjectCatalog
