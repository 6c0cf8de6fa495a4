import ObjectCatalog.Log.Record
import ObjectCatalog.Manifest.Own
import ObjectCatalog.Value.Json

/-! # Records as lines of JSON

One record is one object on one line. Ten fields come first and cannot be replaced by extras;
the failure and the stack follow where the record has them, then the extras, in the record's
order. An extra without a JSON form is written as its display.
-/
namespace ObjectCatalog

structure JsonLine where
  environment : Value
  service : Value
  timePattern : String

namespace JsonLine

def defaultService : String := Manifest.ownName

def baseNames : List String :=
  ["timestamp", "level", "logger", "message", "pathname", "lineno", "transaction_id", "service",
    "env", "version"]

def baseFields (layout : JsonLine) (r : Record) (time message : String) :
    List (String × Value) :=
  [("timestamp", .text time),
    ("level", .text r.severity),
    ("logger", .text r.logger),
    ("message", .text message),
    ("pathname", .text r.pathname),
    ("lineno", .int r.line),
    ("transaction_id", r.transaction),
    ("service", layout.service),
    ("env", layout.environment),
    ("version", .text Manifest.ownVersion)]

def failureFields (r : Record) : List (String × Value) :=
  (match r.failure with
    | some raised => [("exc_info", .text (Record.describeRaised raised))]
    | none => []) ++
  (if r.stack == "" then [] else [("stack_info", .text r.stack)])

def isExtra (name : String) : Bool :=
  !baseNames.contains name && !Record.ownNames.contains name && !Record.isHidden name

/-- The value of an extra, or its display if it has no JSON text. -/
def written (v : Value) : Value :=
  match Json.encode none v with
  | .ok _ => v
  | .error _ => .text v.display

def extraFields (r : Record) : List (String × Value) :=
  (r.extras.filter fun (name, _) => isExtra name).map fun (name, v) => (name, written v)

def fields (layout : JsonLine) (r : Record) (time message : String) : List (String × Value) :=
  layout.baseFields r time message ++ failureFields r ++ extraFields r

def write (layout : JsonLine) (r : Record) : Except LineError String := do
  let time ← (r.timestamp layout.timePattern).mapError LineError.time
  let message ← r.message.mapError LineError.message
  (Json.encode (some Value.display) (.table (layout.fields r time message))).mapError
    LineError.unwritable

end JsonLine

end ObjectCatalog
