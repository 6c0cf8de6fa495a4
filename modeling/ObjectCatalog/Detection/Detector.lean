import ObjectCatalog.Detection.Delivery

/-! # The detector

The first caller claims the slot with an attempt of its own and probes its source; callers that
find an attempt in the slot wait for its outcome and leave their sources alone. A success stays
in the slot. A failure is delivered to everybody who waits, and empties the slot if the attempt
still holds it, so that the next caller tries anew.

Calling off the wait of a caller in a task calls off the shared outcome. An attempt called off
like that can no longer be completed, and keeps the slot until it is reset.

Callers run side by side. An action is the smallest part of a run that nobody else can divide:
claiming the slot, beginning an access, ending it, completing an attempt, clearing the slot,
taking an outcome.
-/
namespace ObjectCatalog.Detection

inductive Phase
  /-- An owner with this much of its probe ahead. -/
  | probing (rest : Plan Family)
  /-- An owner that has begun an access, and goes on with how it ends. -/
  | accessing (point : Point) (next : Except Raised Unit → Plan Family)
  /-- An owner that has delivered its failure, and is about to clear the slot. -/
  | clearing (delivery : Delivery)
  /-- Waits for the outcome of its attempt. -/
  | awaiting
  | answered (answer : Answer)

/-- The owner of an attempt is the caller that claimed the slot with it. -/
structure Caller where
  mode : Mode
  source : Source
  attempt : Nat
  owns : Bool
  phase : Phase
  trace : List Point

/-- Attempts are numbered in the order of their claims, callers in the order of their calls. -/
structure Detector where
  attempts : List Outcome
  slot : Option Nat
  callers : List Caller

inductive Action
  | claim (mode : Mode) (source : Source)
  /-- The caller does what comes next for it, if it can. -/
  | advance (caller : Nat)
  | cancel (caller : Nat)
  | reset

namespace Detector

def empty : Detector := ⟨[], none, []⟩

def outcome (d : Detector) (attempt : Nat) : Outcome := d.attempts.getD attempt .pending

def setOutcome (d : Detector) (attempt : Nat) (o : Outcome) : Detector :=
  { d with attempts := d.attempts.set attempt o }

def setCaller (d : Detector) (number : Nat) (caller : Caller) : Detector :=
  { d with callers := d.callers.set number caller }

def join (d : Detector) (caller : Caller) : Detector :=
  { d with callers := d.callers ++ [caller] }

def vacate (d : Detector) (attempt : Nat) : Detector :=
  if d.slot = some attempt then { d with slot := none } else d

def complete? (d : Detector) (attempt : Nat) (o : Outcome) : Option Detector :=
  match d.outcome attempt with
  | .pending => some (d.setOutcome attempt o)
  | _ => none

def claim (d : Detector) (mode : Mode) (source : Source) : Detector :=
  match d.slot with
  | some attempt => d.join ⟨mode, source, attempt, false, .awaiting, []⟩
  | none =>
    let attempt := d.attempts.length
    let claimed : Detector := { d with attempts := d.attempts ++ [.pending], slot := some attempt }
    claimed.join ⟨mode, source, attempt, true, .probing (source.probe mode), []⟩

def conclude (d : Detector) (number : Nat) (c : Caller) (found : Except Raised Family) :
    Detector × List Event :=
  let raise (r : Raised) : Detector × List Event :=
    (d.setCaller number { c with phase := .answered (.raised r) }, [])
  match found with
  | .ok family =>
    match d.complete? c.attempt (.resolved family) with
    | some next => (next.setCaller number { c with phase := .awaiting }, [resolvedEvent family])
    | none => raise alreadyDone
  | .error r =>
    match deliver c.mode r with
    | .error failure => raise (.ofFailure failure)
    | .ok delivery =>
      match d.complete? c.attempt (.failed delivery.waiters) with
      | some next => (next.setCaller number { c with phase := .clearing delivery }, [])
      | none => raise alreadyDone

def advance (d : Detector) (number : Nat) : Detector × List Event :=
  match d.callers[number]? with
  | none => (d, [])
  | some c =>
    match c.phase with
    | .probing (.report event rest) =>
      (d.setCaller number { c with phase := .probing rest }, [event])
    | .probing (.access point next) =>
      (d.setCaller number
        { c with phase := .accessing point next, trace := c.trace ++ [point] }, [])
    | .accessing point next =>
      (d.setCaller number { c with phase := .probing (next (c.source.ends point)) }, [])
    | .probing (.done found) => d.conclude number c found
    | .clearing delivery =>
      ((d.vacate c.attempt).setCaller number
        { c with phase := .answered (.raised delivery.owner) }, delivery.events)
    | .awaiting =>
      match (d.outcome c.attempt).answer? with
      | some answer => (d.setCaller number { c with phase := .answered answer }, [])
      | none => (d, [])
    | .answered _ => (d, [])

/-- Only callers in tasks can be cancelled, and only while they are held up: an access then ends
with the cancellation, and a wait calls off what it is for. -/
def cancel (d : Detector) (number : Nat) : Detector :=
  match d.callers[number]? with
  | none => d
  | some c =>
    match c.mode, c.phase with
    | .coroutine, .accessing _ next =>
      d.setCaller number { c with phase := .probing (next (.error cancelledError)) }
    | .coroutine, .awaiting =>
      ((d.complete? c.attempt .calledOff).getD d).setCaller number
        { c with phase := .answered (.raised cancelledError) }
    | _, _ => d

def act (d : Detector) : Action → Detector × List Event
  | .claim mode source => (d.claim mode source, [])
  | .advance caller => d.advance caller
  | .cancel caller => (d.cancel caller, [])
  | .reset => ({ d with slot := none }, [])

def perform (d : Detector) : List Action → Detector × List Event
  | [] => (d, [])
  | a :: rest =>
    let (next, events) := d.act a
    let (last, more) := next.perform rest
    (last, events ++ more)

def after (d : Detector) (actions : List Action) : Detector := (d.perform actions).1

def answer? (d : Detector) (c : Caller) : Option Answer :=
  match c.phase with
  | .answered answer => some answer
  | .awaiting => (d.outcome c.attempt).answer?
  | _ => none

/-- The dialect in the slot, once it is known; asking after an attempt that was called off
fails. -/
def resolved (d : Detector) : Except Raised (Option Family) :=
  match d.slot.map d.outcome with
  | some (.resolved family) => .ok (some family)
  | some .calledOff => .error cancelledError
  | _ => .ok none

end Detector

end ObjectCatalog.Detection
