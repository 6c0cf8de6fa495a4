import ObjectCatalog.Log.Record
import ObjectCatalog.Log.Redaction

/-! # What happens to a record before it is written

Every record is given the identifier of its transaction, and is cleared of secrets: attributes with
the name of a secret are masked, and every text of the record, its template and its positional
arguments lose the passwords of the addresses in them. Texts inside of containers stay as they
are.
-/
namespace ObjectCatalog

namespace Record

/-! ## Transactions -/

/-- An identifier of the record's own, else that of the transaction it was made in, else none. -/
def chooseTransaction (own : Option Value) (current : Option String) : Value :=
  match own.filter Value.isGiven, current with
  | some v, _ => v
  | none, some id => if id == "" then noTransaction else .text id
  | none, none => noTransaction

def identify (current : Option String) (r : Record) : Record :=
  { r with
    extras := setAttribute transactionKey
      (chooseTransaction (r.attribute? transactionKey) current) r.extras }

/-! ## Secrets -/

def redactText : Value → Value
  | .text s => .text (Redaction.redactMarked s)
  | v => v

/-- Members of the closed sets become the texts they stand for. -/
def redactArgument (v : Value) : Value :=
  match v.asText? with
  | some s => .text (Redaction.redact s)
  | none => v

def redactArguments : Arguments → Arguments
  | .positional values => .positional (values.map redactArgument)
  | .named entries => .named entries

def redactOrigin (o : Origin) : Origin where
  fileName := Redaction.redactMarked o.fileName
  moduleName := Redaction.redactMarked o.moduleName
  functionName := redactText o.functionName
  sinceStart := redactText o.sinceStart
  thread := redactText o.thread
  threadName := redactText o.threadName
  processName := redactText o.processName
  process := redactText o.process

def redactAttribute : String × Value → String × Value
  | (name, v) =>
    (name, if Redaction.isSensitive name then .text Redaction.mask else redactText v)

def redact (r : Record) : Record :=
  { r with
    logger := Redaction.redactMarked r.logger
    severity := Redaction.redactMarked r.severity
    template := redactText r.template
    arguments := redactArguments r.arguments
    pathname := Redaction.redactMarked r.pathname
    origin := redactOrigin r.origin
    extras := r.extras.map redactAttribute
    stack := Redaction.redactMarked r.stack
    failureText := Redaction.redactMarked r.failureText }

def prepare (current : Option String) (r : Record) : Record := (r.identify current).redact

end Record

/-! ## Filters by name -/

inductive RecordFilter
  | transaction
  | redaction
  deriving DecidableEq, Repr

namespace RecordFilter

def table : List (String × RecordFilter) :=
  [("transaction_id", .transaction), ("redact", .redaction)]

def apply (current : Option String) (r : Record) : RecordFilter → Record
  | .transaction => r.identify current
  | .redaction => r.redact

end RecordFilter

def Record.pass (current : Option String) (filters : List RecordFilter) (r : Record) : Record :=
  filters.foldl (RecordFilter.apply current) r

end ObjectCatalog
