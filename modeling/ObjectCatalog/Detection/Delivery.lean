import ObjectCatalog.Detection.Probe

/-! # Delivering the end of an attempt

An attempt at detecting the dialect belongs to one caller, its owner, whose probe decides how it
ends; others may wait on it. A failure is delivered to them and raised by the owner: the same
error, except that an interruption stays with the owner, and those who wait are told of it.
-/
namespace ObjectCatalog.Detection

inductive Answer
  | resolved (family : Family)
  | raised (r : Raised)

inductive Outcome
  | pending
  | resolved (family : Family)
  | failed (error : Raised)
  | calledOff

def cancelledError : Raised := .ofFailure (.interrupt "CancelledError")

def alreadyDone : Raised := .ofFailure (.plain "InvalidStateError" "")

def Outcome.answer? : Outcome → Option Answer
  | .pending => none
  | .resolved family => some (.resolved family)
  | .failed error => some (.raised error)
  | .calledOff => some (.raised cancelledError)

def isDetectionError (r : Raised) : Bool :=
  match r.failure with
  | .fault (.store e _) => e.kind = .unsupportedDatabase ∨ e.kind = .dialectDetection
  | _ => false

/-- Errors about the detection itself are delivered as they are, and all others inside one that
quotes their text. -/
def asDetectionError (r : Raised) : Except Failure Raised :=
  if isDetectionError r then .ok r
  else do
    let text ← r.failure.text?
    return Raised.store
      (.detectionFailed ("Dialect detection failed: " ++ r.className ++ ": " ++ text)) r

def resolvedEvent (family : Family) : Event :=
  { severity := .info, logger := Event.detectorLogger, name := "dialect.detect.resolved"
    extra := [("dialect", .text family.value)] }

def failedEvent (className text : String) : Event :=
  { severity := .error, logger := Event.detectorLogger, name := "dialect.detect.failed"
    extra := [("error_type", .text className), ("detail", .text text)] }

/-- How a failed probe is delivered: what its owner raises, what those who wait on it get, and
what is reported. -/
structure Delivery where
  owner : Raised
  waiters : Raised
  events : List Event

def interrupted (mode : Mode) (r : Raised) : Raised :=
  let ending := if mode = .coroutine ∧ r.className = "CancelledError" then "cancelled"
    else "interrupted"
  .ofFailure (.store (.detectionFailed ("Dialect detection was " ++ ending)))

/-- Delivers what a probe has raised. An error that has no text cannot be delivered inside
another, and cannot be reported either: its owner then raises that there is no text. -/
def deliver (mode : Mode) (r : Raised) : Except Failure Delivery :=
  if r.isInterrupt then
    let error := interrupted mode r
    .ok ⟨r, error, [failedEvent error.className error.text]⟩
  else do
    let error ← asDetectionError r
    match r.failure.text? with
    | .ok text => return ⟨error, error, [failedEvent r.className text]⟩
    | .error failure => return ⟨.ofFailure failure, error, []⟩

end ObjectCatalog.Detection
