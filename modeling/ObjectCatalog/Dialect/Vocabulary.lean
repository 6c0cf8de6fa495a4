/-! # Vocabulary of the dialects

The closed sets that everything else is stated in: engine families, logical column types and
the categories of failed statements. Each member has a value, by which it is chosen and
written, and a name, by which it is reported.
-/
namespace ObjectCatalog

/-- What a failed statement means to its caller. A constraint violation says that the row is
already stored, a retryable conflict that the whole transaction is to be run again, and
already-exists that somebody else created the schema object. -/
inductive Category
  | constraintViolation
  | retryableConflict
  | alreadyExists
  | unclassified
  deriving DecidableEq, Repr

inductive Family
  | postgresql
  | cockroachdb
  | sqlite
  | mysql
  deriving DecidableEq, Repr

inductive LogicalType
  | name
  | objId
  | bool
  | varbinary
  | bigint
  | varchar
  deriving DecidableEq, Repr

namespace Category

def all : List Category :=
  [.constraintViolation, .retryableConflict, .alreadyExists, .unclassified]

def value : Category → String
  | .constraintViolation => "constraint_violation"
  | .retryableConflict => "retryable_conflict"
  | .alreadyExists => "already_exists"
  | .unclassified => "unclassified"

def label : Category → String
  | .constraintViolation => "CONSTRAINT_VIOLATION"
  | .retryableConflict => "RETRYABLE_CONFLICT"
  | .alreadyExists => "ALREADY_EXISTS"
  | .unclassified => "UNCLASSIFIED"

def ofValue? (value : String) : Option Category := all.find? (·.value == value)

end Category

namespace Family

def all : List Family := [.postgresql, .cockroachdb, .sqlite, .mysql]

def value : Family → String
  | .postgresql => "postgresql"
  | .cockroachdb => "cockroachdb"
  | .sqlite => "sqlite"
  | .mysql => "mysql"

def label : Family → String
  | .postgresql => "POSTGRESQL"
  | .cockroachdb => "COCKROACHDB"
  | .sqlite => "SQLITE"
  | .mysql => "MYSQL"

def ofValue? (value : String) : Option Family := all.find? (·.value == value)

end Family

namespace LogicalType

def all : List LogicalType := [.name, .objId, .bool, .varbinary, .bigint, .varchar]

def value : LogicalType → String
  | .name => "name"
  | .objId => "obj_id"
  | .bool => "bool"
  | .varbinary => "varbinary"
  | .bigint => "bigint"
  | .varchar => "varchar"

def label : LogicalType → String
  | .name => "NAME"
  | .objId => "OBJ_ID"
  | .bool => "BOOL"
  | .varbinary => "VARBINARY"
  | .bigint => "BIGINT"
  | .varchar => "VARCHAR"

def ofValue? (value : String) : Option LogicalType := all.find? (·.value == value)

theorem mem_all (t : LogicalType) : t ∈ all := by cases t <;> decide

theorem ofValue?_value (t : LogicalType) : ofValue? t.value = some t := by cases t <;> decide

end LogicalType

theorem Category.ofValue?_value (c : Category) : Category.ofValue? c.value = some c := by
  cases c <;> decide

theorem Family.ofValue?_value (f : Family) : Family.ofValue? f.value = some f := by
  cases f <;> decide

/-- A literal looked up in one of the closed sets that has no such member. -/
structure UnknownMember where
  literal : String
  set : String
  deriving DecidableEq

/-- A member of one of the three sets, as a value of its own. -/
inductive Member
  | category (c : Category)
  | family (f : Family)
  | logicalType (t : LogicalType)
  deriving DecidableEq, Repr

namespace Member

def value : Member → String
  | .category c => c.value
  | .family f => f.value
  | .logicalType t => t.value

def label : Member → String
  | .category c => "ErrorCategory." ++ c.label
  | .family f => "DialectFamily." ++ f.label
  | .logicalType t => "LogicalColumnType." ++ t.label

def all : List Member :=
  Category.all.map .category ++ Family.all.map .family ++ LogicalType.all.map .logicalType

def ofLabel? (label : String) : Option Member := all.find? (·.label == label)

end Member

end ObjectCatalog
