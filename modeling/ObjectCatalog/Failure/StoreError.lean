import ObjectCatalog.Value.Basic

/-! # Store errors

The errors by which the store reports failures to its callers. The class of an error says what a
caller can do about it: only a retryable one is worth running the transaction again for.
-/
namespace ObjectCatalog

inductive StoreErrorClass
  | store
  | duplicateKey
  | retryTransaction
  | alreadyExists
  | unclassifiedDatabase
  | unsupportedDatabase
  | dialectDetection
  deriving DecidableEq, Repr

namespace StoreErrorClass

def all : List StoreErrorClass :=
  [.store, .duplicateKey, .retryTransaction, .alreadyExists, .unclassifiedDatabase,
    .unsupportedDatabase, .dialectDetection]

def name : StoreErrorClass → String
  | .store => "StoreError"
  | .duplicateKey => "DuplicateKeyError"
  | .retryTransaction => "RetryTransactionError"
  | .alreadyExists => "AlreadyExistsError"
  | .unclassifiedDatabase => "UnclassifiedDatabaseError"
  | .unsupportedDatabase => "UnsupportedDatabaseError"
  | .dialectDetection => "DialectDetectionError"

def ofName? (name : String) : Option StoreErrorClass := all.find? (·.name == name)

def retryable : StoreErrorClass → Bool
  | .retryTransaction => true
  | _ => false

def category : StoreErrorClass → Option Category
  | .duplicateKey => some .constraintViolation
  | .retryTransaction => some .retryableConflict
  | .alreadyExists => some .alreadyExists
  | .unclassifiedDatabase => some .unclassified
  | _ => none

def message? : StoreErrorClass → Option String
  | .duplicateKey => some "Duplicate key"
  | .retryTransaction => some "Transaction conflict, retry"
  | .alreadyExists => some "Schema object already exists"
  | .unclassifiedDatabase => some "Database error"
  | _ => none

end StoreErrorClass

/-- A vendor error code: a text, or a member of a closed set that stands for its value. -/
inductive Code
  | text (s : String)
  | member (m : Member)
  deriving DecidableEq, Repr

namespace Code

def value : Code → String
  | .text s => s
  | .member m => m.value

def toValue : Code → Value
  | .text s => .text s
  | .member m => .member m

def ofValue? : Value → Option Code
  | .text s => if s == "" then none else some (.text s)
  | .member m => some (.member m)
  | _ => none

end Code

/-- Callers may give anything for the detail, the code and the dialect; the store gives texts, or
no code and no dialect. The product is known only to an error about an unsupported one. -/
structure StoreError where
  kind : StoreErrorClass
  detail : Value
  sqlState : Value
  category : Option Category
  dialect : Value
  product : Option Value

namespace StoreError

def retryable (e : StoreError) : Bool := e.kind.retryable

def remark (label : String) (v : Value) : List String :=
  if v.isGiven then [label ++ ": " ++ v.display] else []

def remarks (e : StoreError) : List String :=
  remark "dialect" e.dialect ++ remark "code" e.sqlState ++
    (match e.category with
      | some c => ["category: " ++ c.value]
      | none => [])

def message (e : StoreError) : String :=
  if e.remarks.isEmpty then e.detail.asText?.getD e.detail.display
  else e.detail.display ++ " (" ++ String.intercalate "; " e.remarks ++ ")"

/-- Without remarks, only a detail that is a text makes a message. -/
def hasMessage (e : StoreError) : Bool := !e.remarks.isEmpty || e.detail.asText?.isSome

def payload (e : StoreError) : List (String × Value) :=
  [("detail", e.detail), ("retryable", .bool e.retryable)] ++
  (match e.category with
    | some c => [("category", .text c.value)]
    | none => []) ++
  (if e.sqlState.isGiven then [("code", e.sqlState)] else []) ++
  (if e.dialect.isGiven then [("dialect", e.dialect)] else [])

def plain (kind : StoreErrorClass) (detail : Value) : StoreError :=
  ⟨kind, detail, .null, kind.category, .null, none⟩

def detectionFailed (detail : String) : StoreError := plain .dialectDetection (.text detail)

def unsupported (product : Value) : StoreError :=
  { plain .unsupportedDatabase (.text
      ("Could not select a dialect for database product '" ++ product.display ++ "'")) with
    product := some product }

end StoreError

end ObjectCatalog
