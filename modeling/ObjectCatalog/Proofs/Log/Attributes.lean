import ObjectCatalog.Log.Filter
import ObjectCatalog.Proofs.Log.RedactedText

/-! # What redacting does to the attributes of a record

An attribute with the name of a secret is masked, every other text loses the passwords of its
addresses, and so do the texts in a list of arguments. All else stays as it was, in its place, so
that a record that has been redacted once is not changed by redacting it again.
-/
namespace ObjectCatalog

/-! ## Texts without passwords -/

namespace Redaction

theorem redact_of_colon_notMem {s : String} (h : ':' ∉ s.toList) : redact s = s := by
  rw [← String.toList_inj, toList_redact]
  refine redactChars_of_not_isMarked ?_
  rw [← Bool.not_eq_true, isMarked_iff]
  exact fun hmark => h (hmark.subset List.mem_cons_self)

end Redaction

theorem Member.redact_value (m : Member) : Redaction.redact m.value = m.value := by
  refine Redaction.redact_of_colon_notMem ?_
  cases m with
  | category c => cases c <;> decide
  | family f => cases f <;> decide
  | logicalType t => cases t <;> decide

namespace Record

/-! ## Attributes -/

inductive Attribute
  | value (v : Value)
  | arguments (a : Arguments)
  | failure (raised : Option Raised)

def ownAttributes (r : Record) : List (String × Attribute) :=
  [("name", .value (.text r.logger)), ("msg", .value r.template), ("args", .arguments r.arguments),
    ("levelname", .value (.text r.severity)), ("levelno", .value (.int r.level)),
    ("pathname", .value (.text r.pathname)), ("filename", .value (.text r.origin.fileName)),
    ("module", .value (.text r.origin.moduleName)), ("exc_info", .failure r.failure),
    ("exc_text", .value (.text r.failureText)), ("stack_info", .value (.text r.stack)),
    ("lineno", .value (.int r.line)), ("funcName", .value r.origin.functionName),
    ("created", .value (.int r.created)), ("msecs", .value (.int r.milliseconds)),
    ("relativeCreated", .value r.origin.sinceStart), ("thread", .value r.origin.thread),
    ("threadName", .value r.origin.threadName), ("processName", .value r.origin.processName),
    ("process", .value r.origin.process)]

def furtherAttribute (entry : String × Value) : String × Attribute := (entry.1, .value entry.2)

def attributes (r : Record) : List (String × Attribute) :=
  r.ownAttributes ++ r.extras.map furtherAttribute

end Record

end ObjectCatalog
