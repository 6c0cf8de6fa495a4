import ObjectCatalog.Failure.Basic

/-! # Events

What the store says about its own work: events with a name, a severity and named values, sent to
the logger of the part that reports them.
-/
namespace ObjectCatalog

inductive Severity
  | debug
  | info
  | warning
  | error
  deriving DecidableEq, Repr

def Severity.name : Severity → String
  | .debug => "DEBUG"
  | .info => "INFO"
  | .warning => "WARNING"
  | .error => "ERROR"

structure Event where
  severity : Severity
  logger : String
  name : String
  extra : List (String × Value)
  failure : Option Failure := none

namespace Event

def detectorLogger : String := "catalog_store.dialects.detector"
def classifierLogger : String := "catalog_store.exceptions.classifier"
def mapperLogger : String := "catalog_store.exceptions.mapper"
def schemaLogger : String := "catalog_store.schema.ddl"

end Event

end ObjectCatalog
