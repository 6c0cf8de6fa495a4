import ObjectCatalog.Failure.Basic
import ObjectCatalog.Calendar.Moment
import ObjectCatalog.Log.Template
import ObjectCatalog.Value.Json

/-! # Log records

A record is what one call to a logger leaves: where and when it was made, how severe it is, a
message template with its arguments, the failure it reports and further named attributes. Only
attributes whose names no record has of its own, and which do not start with an underscore, are
shown as extras.
-/
namespace ObjectCatalog

@[ext] structure Origin where
  fileName : String := ""
  moduleName : String := ""
  functionName : Value := .null
  sinceStart : Value := .null
  thread : Value := .null
  threadName : Value := .null
  processName : Value := .null
  process : Value := .null

@[ext] structure Record where
  logger : String
  level : Int
  severity : String
  template : Value
  arguments : Arguments
  pathname : String
  line : Int
  origin : Origin := {}
  /-- The seconds since the beginning of 1970. -/
  created : Int
  milliseconds : Int
  extras : List (String × Value)
  failure : Option Raised
  stack : String
  /-- The failure's text, once a layout has left it here. -/
  failureText : String := ""

namespace Record

/-! ## Severity -/

def levelName (level : Int) : String :=
  if level == 0 then "NOTSET" else if level == 10 then "DEBUG" else if level == 20 then "INFO"
  else if level == 30 then "WARNING" else if level == 40 then "ERROR"
  else if level == 50 then "CRITICAL" else "Level " ++ toString level

/-! ## Message -/

def message (r : Record) : Except MessageError String :=
  Template.render r.template.display r.arguments

/-! ## Attributes -/

def ownNames : List String :=
  ["name", "msg", "args", "levelname", "levelno", "pathname", "filename", "module", "exc_info",
    "exc_text", "stack_info", "lineno", "funcName", "created", "msecs", "relativeCreated",
    "thread", "threadName", "processName", "process", "message", "asctime", "taskName"]

def transactionKey : String := "transaction_id"

def noTransaction : Value := .text "-"

def attribute? (r : Record) (name : String) : Option Value := r.extras.lookup name

def transaction (r : Record) : Value := (r.attribute? transactionKey).getD noTransaction

/-- Gives an attribute a value, in its place if there is one already and at the end if not. -/
def setAttribute (name : String) (v : Value) : List (String × Value) → List (String × Value)
  | [] => [(name, v)]
  | (other, w) :: extras =>
    if other == name then (name, v) :: extras else (other, w) :: setAttribute name v extras

def furtherAttributes (r : Record) : List (String × Value) :=
  r.extras.filter fun (name, _) => !ownNames.contains name

def isHidden (name : String) : Bool := name.startsWith "_"

/-! ## Failures -/

def qualifiedName (className : String) : String :=
  if (StoreErrorClass.ofName? className).isSome then
    "catalog_store.exceptions.base." ++ className
  else if className == "CancelledError" then "asyncio.exceptions.CancelledError"
  else className

def describeFailure (f : Failure) : String :=
  let name :=
    if f.hasLayerText then "sqlalchemy.exc." ++ f.className else qualifiedName f.className
  if f.text == "" then name else name ++ ": " ++ f.text

def causeSeparator : String :=
  "\n\nThe above exception was the direct cause of the following exception:\n\n"

def describeRaised (raised : Raised) : String :=
  String.intercalate causeSeparator
    ((raised.failure :: raised.causes).reverse.map describeFailure)

/-! ## Time -/

def timestamp (r : Record) (pattern : String) : Except TimeError String := do
  let moment ← Moment.ofClock r.created
  if pattern == "" then return moment.stamp r.milliseconds
  if pattern.contains '\x00' then throw .nullInPattern
  return moment.write pattern

end Record

inductive LineError
  | time (e : TimeError)
  | message (e : MessageError)
  /-- Something in the record has no JSON text. -/
  | unwritable (e : Json.Unwritable)
  /-- A transaction identifier of a kind that cannot be set to a width. -/
  | unaligned (kind : String)
  deriving DecidableEq

def LineError.text : LineError → String
  | .time e => e.message
  | .message e => e.message
  | .unwritable e => e.message
  | .unaligned kind => "unsupported format string passed to " ++ kind ++ ".__format__"

end ObjectCatalog
