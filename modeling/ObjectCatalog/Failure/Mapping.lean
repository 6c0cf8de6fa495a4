import ObjectCatalog.Failure.Classification

/-! # Mapping failed statements to store errors

The store error for a failed statement is made from its classification and the name of the
operation alone, so that a driver's own words never reach a caller. If the classification cannot
be reported, there is no store error, and what went wrong is raised in its place.
-/
namespace ObjectCatalog

namespace Category

def errorClass : Category → StoreErrorClass
  | .constraintViolation => .duplicateKey
  | .retryableConflict => .retryTransaction
  | .alreadyExists => .alreadyExists
  | .unclassified => .unclassifiedDatabase

def phrase : Category → String
  | .constraintViolation => "duplicate key"
  | .retryableConflict => "transaction conflict, retry the transaction"
  | .alreadyExists => "schema object already exists"
  | .unclassified => "database error"

def eventName? : Category → Option String
  | .constraintViolation => some "mapper.duplicate_key"
  | .retryableConflict => some "mapper.retryable_conflict"
  | .alreadyExists => some "mapper.already_exists"
  | .unclassified => none

end Category

def operationName (operation : Option String) : String :=
  match operation with
  | some name => if name == "" then "Database operation" else name
  | none => "Database operation"

namespace Descriptor

def storeError (d : Descriptor) (operation : Option String) (c : Classification) : StoreError :=
  { kind := c.category.errorClass
    detail := .text (operationName operation ++ ": " ++ c.category.phrase)
    sqlState := codeValue c.code
    category := some c.category
    dialect := .text d.name
    product := none }

def mapFailure (d : Descriptor) (operation : Option String) (f : Failure) :
    Except Failure StoreError :=
  (d.reportedClass f).map (d.storeError operation)

def mappingEvents (d : Descriptor) (operation : Option String) (f : Failure) : List Event :=
  let c := d.classifyFailure f
  d.classificationEvents f ++
    match c.category.eventName? with
    | none => []
    | some name =>
      [{ severity := .info, logger := Event.mapperLogger, name,
         extra := [("operation", .text (operationName operation)), ("dialect", .text d.name),
           ("sql_state", codeValue c.code)] }]

def raiseMapped (d : Descriptor) (operation : Option String) (r : Raised) : Raised :=
  match d.mapFailure operation r.failure with
  | .ok e => Raised.store e r
  | .error failure => .ofFailure failure

end Descriptor

end ObjectCatalog
