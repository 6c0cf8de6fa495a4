import ObjectCatalog.Failure.Mapping

/-! # Handling failures around statements

A block of statements on a connection either ends well or is left by a failure. A failure of the
database layer makes the innermost block roll back and turns into a store error; every other
failure leaves all blocks as it is. A rollback that fails is reported and changes nothing else,
unless it is an interruption, which then leaves instead.
-/
namespace ObjectCatalog

/-- What a connection does on its next rollbacks: each goes well or raises something. Once the
list is used up they go well. -/
structure Rollbacks where
  coming : List (Option Raised)
  made : Nat

def Rollbacks.next (r : Rollbacks) : Option Raised × Rollbacks :=
  (r.coming.headD none, ⟨r.coming.tail, r.made + 1⟩)

/-- Where blocks run: in a coroutine, a failure that would end an iteration cannot pass and
becomes a runtime error. -/
inductive Mode
  | blocking
  | coroutine
  deriving DecidableEq, Repr

def Mode.passOn (mode : Mode) (r : Raised) : Raised :=
  match mode, r.className, r.isInterrupt with
  | .coroutine, "StopIteration", false =>
    ⟨.plain "RuntimeError" "coroutine raised StopIteration", r.failure :: r.causes⟩
  | _, _, _ => r

def rollbackFailed (operation : Option String) (r : Raised) : Event :=
  { severity := .error, logger := Event.mapperLogger
    name := "Failed to rollback after database error"
    extra := [("operation", (operation.map Value.text).getD .null)]
    failure := some r.failure }

/-- What leaves a block, what it reports, and the rollbacks still to come. -/
structure Departure where
  raised : Option Raised
  events : List Event
  rollbacks : Rollbacks

namespace Descriptor

/-- What leaves a block on a failure of the database layer, once the rollback has ended in this
way, and what is reported. -/
def leaveFailed (d : Descriptor) (mode : Mode) (operation : Option String) (r : Raised)
    (rollback : Option Raised) : Raised × List Event :=
  let mapped := d.raiseMapped operation r
  let events := d.mappingEvents operation r.failure
  match rollback.map mode.passOn with
  | none => (mapped, events)
  | some failed =>
    if failed.isInterrupt then (failed, [])
    else (mapped, rollbackFailed operation failed :: events)

def leaveBlock (d : Descriptor) (mode : Mode) (operation : Option String)
    (body : Option Raised) (rollbacks : Rollbacks) : Departure :=
  match body with
  | none => ⟨none, [], rollbacks⟩
  | some r =>
    if r.failure.isDatabase then
      let (outcome, rest) := rollbacks.next
      let (raised, events) := d.leaveFailed mode operation r outcome
      ⟨some raised, events, rest⟩
    else ⟨some r, [], rollbacks⟩

end Descriptor

/-- A block around statements: the dialect by which it knows failures, and the name of its
operation. -/
structure Block where
  dialect : Descriptor
  operation : Option String

def leaveNested (mode : Mode) :
    List Block → (body : Option Raised) → Rollbacks → Departure
  | [], body, rollbacks => ⟨body, [], rollbacks⟩
  | block :: outer, body, rollbacks =>
    let inner := block.dialect.leaveBlock mode block.operation body rollbacks
    let left := leaveNested mode outer inner.raised inner.rollbacks
    ⟨left.raised, inner.events ++ left.events, left.rollbacks⟩

def Descriptor.leaveBlocks (d : Descriptor) (mode : Mode) (operation : Option String)
    (depth : Nat) (body : Option Raised) (rollbacks : Rollbacks) : Departure :=
  leaveNested mode (List.replicate depth ⟨d, operation⟩) body rollbacks

end ObjectCatalog
