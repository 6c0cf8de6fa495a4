import ObjectCatalog.Detection.Detector

/-! # Attempts at detecting the dialect

Callers come, gates open, waits are called off, the slot is reset; after each of these steps
everything that can proceed does. An owner proceeds up to the gate of its source, if that has
one, or else to its end.
-/
namespace ObjectCatalog.Detection

inductive Step
  | call (mode : Mode) (source : Source)
  | release (caller : Nat)
  | cancel (caller : Nat)
  | reset

def Step.action : Step → Action
  | .call mode source => .claim mode source
  | .release caller => .advance caller
  | .cancel caller => .cancel caller
  | .reset => .reset

def Plan.actions (ends : Point → Except Raised Unit) : Plan α → Nat
  | .done _ => 2
  | .report _ rest => 1 + rest.actions ends
  | .access point next =>
    match point, ends point with
    | .gate, .ok () => 1
    | _, _ => 2 + (next (ends point)).actions ends

def Caller.actions (c : Caller) : Nat :=
  match c.phase with
  | .probing rest => rest.actions c.source.ends
  | .accessing .gate next =>
    match c.source.ends .gate with
    | .ok () => 0
    | .error r => 1 + (next (.error r)).actions c.source.ends
  | .accessing point next => 1 + (next (c.source.ends point)).actions c.source.ends
  | .clearing _ | .awaiting => 1
  | .answered _ => 0

namespace Detector

def drive (d : Detector) (caller : Nat) : Detector × List Event :=
  match d.callers[caller]? with
  | some c => d.perform (List.replicate c.actions (.advance caller))
  | none => (d, [])

/-- Lets all callers go on. An owner comes before those who wait on it, so once is enough. -/
def settle (d : Detector) : Detector × List Event :=
  (List.range d.callers.length).foldl
    (fun (d, events) caller =>
      let (next, more) := d.drive caller
      (next, events ++ more))
    (d, [])

def step (d : Detector) (s : Step) : Detector × List Event :=
  let (begun, events) := d.act s.action
  let (settled, more) := begun.settle
  (settled, events ++ more)

def run (d : Detector) (steps : List Step) : Detector :=
  steps.foldl (fun d s => (d.step s).1) d

end Detector

end ObjectCatalog.Detection
