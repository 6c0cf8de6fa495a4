import ObjectCatalog.Dialect.Descriptor

/-! # The supported dialects

One descriptor per supported family of engines. The families that speak the PostgreSQL protocol
differ in the collation of texts and in the codes they ask to retry on; the embedded engine has
no code of its own for an existing table; the MySQL family needs bounded key texts.
-/
namespace ObjectCatalog.Dialect

def byteaTypes (textKeyword : String) : LogicalType → ColumnType
  | .name => ⟨textKeyword, .varchar⟩
  | .objId => ⟨"BYTEA", .binary⟩
  | .bool => ⟨"BOOLEAN", .boolean⟩
  | .varbinary => ⟨"BYTEA", .binary⟩
  | .bigint => ⟨"BIGINT", .bigint⟩
  | .varchar => ⟨textKeyword, .varchar⟩

def blobTypes : LogicalType → ColumnType
  | .name => ⟨"VARCHAR", .varchar⟩
  | .objId => ⟨"BLOB", .varbinary⟩
  | .bool => ⟨"BOOLEAN", .boolean⟩
  | .varbinary => ⟨"BLOB", .blob⟩
  | .bigint => ⟨"BIGINT", .bigint⟩
  | .varchar => ⟨"VARCHAR", .varchar⟩

/-- A tiny blob holds any supported hash; payloads and texts have no limit of their own. -/
def longBlobTypes : LogicalType → ColumnType
  | .name => ⟨"VARCHAR(255) CHARACTER SET utf8mb4 COLLATE utf8mb4_bin", .varchar⟩
  | .objId => ⟨"TINYBLOB", .varbinary⟩
  | .bool => ⟨"BIT(1)", .bit⟩
  | .varbinary => ⟨"LONGBLOB", .blob⟩
  | .bigint => ⟨"BIGINT", .bigint⟩
  | .varchar => ⟨"LONGTEXT CHARACTER SET utf8mb4 COLLATE utf8mb4_bin", .text⟩

def postgresqlCodes : CodeSet → List String
  | .constraint => ["23505"]
  | .retry => ["40P01", "40001"]
  | .exists => ["42P07"]

def cockroachdbCodes : CodeSet → List String
  | .constraint => ["23505"]
  | .retry => ["40001"]
  | .exists => ["42P07"]

def sqliteCodes : CodeSet → List String
  | .constraint => ["SQLITE_CONSTRAINT_UNIQUE", "SQLITE_CONSTRAINT_PRIMARYKEY"]
  | .retry => ["SQLITE_BUSY", "SQLITE_BUSY_SNAPSHOT", "SQLITE_LOCKED"]
  | .exists => []

def mysqlCodes : CodeSet → List String
  | .constraint => ["23000"]
  | .retry => ["40001"]
  | .exists => ["42S01"]

/-- Compares texts by code point: a locale's collation may pass over runs of blanks. -/
def postgresql : Descriptor where
  family := .postgresql
  adapter := .onConflict
  columnType := byteaTypes "VARCHAR COLLATE ucs_basic"
  codes := postgresqlCodes
  disjoint := by intro s t ne; cases s <;> cases t <;> first | exact absurd rfl ne | decide

def cockroachdb : Descriptor where
  family := .cockroachdb
  adapter := .onConflict
  columnType := byteaTypes "VARCHAR"
  codes := cockroachdbCodes
  disjoint := by intro s t ne; cases s <;> cases t <;> first | exact absurd rfl ne | decide

def sqlite : Descriptor where
  family := .sqlite
  adapter := .onConflict
  columnType := blobTypes
  codes := sqliteCodes
  disjoint := by intro s t ne; cases s <;> cases t <;> first | exact absurd rfl ne | decide

def mysql : Descriptor where
  family := .mysql
  adapter := .insertIgnore 255
  columnType := longBlobTypes
  codes := mysqlCodes
  disjoint := by intro s t ne; cases s <;> cases t <;> first | exact absurd rfl ne | decide

def builtin : Family → Descriptor
  | .postgresql => postgresql
  | .cockroachdb => cockroachdb
  | .sqlite => sqlite
  | .mysql => mysql

end ObjectCatalog.Dialect
