import ObjectCatalog.Dialect.Descriptor

/-! # Tables

A table names its columns in order and the columns of its primary key. Building one checks that
the key is among the columns. A column is looked up by name, and the first of that name counts.
-/
namespace ObjectCatalog

structure Column where
  name : String
  logical : LogicalType
  deriving DecidableEq

structure Table where
  name : String
  columns : List Column
  primaryKey : List String
  key_mem : ∀ key ∈ primaryKey, ∃ c ∈ columns, c.name = key

structure TableDeclaration where
  name : String
  columns : List (String × String)
  primaryKey : List String

inductive TableError
  | unknownMember (u : UnknownMember)
  | unknownKey (table : String) (names : List String)

def TableError.message : TableError → String
  | .unknownMember u => u.message
  | .unknownKey table names =>
    table ++ ": primary key column(s) " ++ Text.quoteList names ++ " not in table"

structure UnknownColumn where
  table : String
  column : String
  deriving DecidableEq

def UnknownColumn.message (e : UnknownColumn) : String :=
  Text.quote (e.table ++ " has no column " ++ Text.quote e.column)

namespace TableDeclaration

def resolveColumns : List (String × String) → Except TableError (List Column)
  | [] => .ok []
  | (name, value) :: rest =>
    match LogicalType.ofValue? value with
    | none => .error (.unknownMember ⟨Text.quote value, "LogicalColumnType"⟩)
    | some logical => (resolveColumns rest).map (⟨name, logical⟩ :: ·)

def unknownKeys (columns : List Column) (key : List String) : List String :=
  key.filter fun name => !columns.any (·.name == name)

theorem mem_of_unknownKeys {columns : List Column} {key : List String}
    (none : unknownKeys columns key = []) : ∀ k ∈ key, ∃ c ∈ columns, c.name = k := by
  intro k hk
  have := List.filter_eq_nil_iff.mp none k hk
  simpa using this

def build (d : TableDeclaration) : Except TableError Table := do
  let columns ← resolveColumns d.columns
  if h : unknownKeys columns d.primaryKey = [] then
    .ok ⟨d.name, columns, d.primaryKey, mem_of_unknownKeys h⟩
  else .error (.unknownKey d.name (unknownKeys columns d.primaryKey))

end TableDeclaration

namespace Table

def columnNames (t : Table) : List String := t.columns.map (·.name)

def column? (t : Table) (name : String) : Option Column := t.columns.find? (·.name == name)

def column (t : Table) (name : String) : Except UnknownColumn Column :=
  match t.column? name with
  | some c => .ok c
  | none => .error ⟨t.name, name⟩

theorem column?_isSome_iff {t : Table} {name : String} :
    (t.column? name).isSome = true ↔ ∃ c ∈ t.columns, c.name = name := by
  simp [column?, List.find?_isSome]

def columnOf (t : Table) (name : String) (h : ∃ c ∈ t.columns, c.name = name) : Column :=
  (t.column? name).get (column?_isSome_iff.mpr h)

end Table

def refsTable : Table where
  name := "refs"
  columns := [⟨"repo_id", .name⟩, ⟨"ref_name", .name⟩, ⟨"pointer", .objId⟩,
    ⟨"created_at", .bigint⟩, ⟨"deleted", .bool⟩, ⟨"ext_info", .varbinary⟩, ⟨"prev_ptr", .objId⟩]
  primaryKey := ["repo_id", "ref_name"]
  key_mem := by decide

def objsTable : Table where
  name := "objs"
  columns := [⟨"repo_id", .name⟩, ⟨"obj_id", .objId⟩, ⟨"obj_type", .name⟩,
    ⟨"obj_vers", .varchar⟩, ⟨"payload", .varbinary⟩, ⟨"created_at", .bigint⟩]
  primaryKey := ["repo_id", "obj_id"]
  key_mem := by decide

def catalogTables : List Table := [refsTable, objsTable]

end ObjectCatalog
