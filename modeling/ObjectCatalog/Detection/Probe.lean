import ObjectCatalog.Failure.Handler
import ObjectCatalog.Text.Casing

/-! # Probing a source for its dialect

A source is an engine, which is connected to and closed again, or a connection somebody else
has open, which is left as it was found. The product it reports settles the dialect, except that
two products report themselves as PostgreSQL: only an inspection tells them apart, and if that
inspection began a transaction the probe ends it again. Every access to the source may fail.

A probe is a plan of accesses, which can be carried out one access at a time or all at once.
-/
namespace ObjectCatalog.Detection

/-- What a probe does to its source; at the gate it waits until the source lets it through. -/
inductive Point
  | connect
  | runSync
  | gate
  | dialect
  | inTransaction
  | inspect
  | hasSchema
  | rollback
  | close
  deriving DecidableEq, Repr

def Point.name : Point → String
  | .connect => "connect"
  | .runSync => "run_sync"
  | .gate => "gate"
  | .dialect => "dialect"
  | .inTransaction => "in_transaction"
  | .inspect => "inspect"
  | .hasSchema => "has_schema"
  | .rollback => "rollback"
  | .close => "close"

def Point.all : List Point :=
  [.connect, .runSync, .gate, .dialect, .inTransaction, .inspect, .hasSchema, .rollback, .close]

def crdbSchema : String := "crdb_internal"

def Point.entry : Point → String
  | .hasSchema => "has_schema " ++ crdbSchema
  | point => point.name

structure Source where
  engine : Bool
  product : Value
  cockroach : Bool
  inTransaction : Bool
  gated : Bool
  /-- What an access at this point raises, if anything. -/
  fails : Point → Option Raised

structure Visit (α : Type) where
  trace : List Point
  events : List Event
  outcome : Except Raised α

/-- Accesses still to be made; after each of them a plan goes on with how the access ended. -/
inductive Plan (α : Type)
  | done (outcome : Except Raised α)
  | report (event : Event) (rest : Plan α)
  | access (point : Point) (next : Except Raised Unit → Plan α)

namespace Plan

def after (p : Plan α) (next : Except Raised α → Plan β) : Plan β :=
  match p with
  | .done outcome => next outcome
  | .report event rest => .report event (rest.after next)
  | .access point rest => .access point fun ending => (rest ending).after next

def andThen (p : Plan α) (next : α → Plan β) : Plan β :=
  p.after fun
    | .ok a => next a
    | .error r => .done (.error r)

/-- Goes on in any case; a failure of what follows takes the place of how the plan ended. -/
def andFinally (p : Plan α) (last : Plan Unit) : Plan α :=
  p.after fun outcome => last.andThen fun () => .done outcome

def visit (ends : Point → Except Raised Unit) : Plan α → Visit α
  | .done outcome => ⟨[], [], outcome⟩
  | .report event rest =>
    let v := rest.visit ends
    ⟨v.trace, event :: v.events, v.outcome⟩
  | .access point next =>
    let v := (next (ends point)).visit ends
    ⟨point :: v.trace, v.events, v.outcome⟩

def touch (mode : Mode) (point : Point) : Plan Unit :=
  .access point fun ending => .done (ending.mapError mode.passOn)

end Plan

def familyOfProduct : List (String × Family) :=
  [("sqlite", .sqlite), ("mysql", .mysql), ("mariadb", .mysql), ("cockroachdb", .cockroachdb)]

/-- The product in lower case, which only a text has; a source may also report none. -/
def lowerProduct (product : Value) : Except Raised Value :=
  if !product.isGiven then .ok (.text "")
  else match product with
    | .text s => .ok (.text (Text.lower s))
    | .member m => .ok (.text (Text.lower m.value))
    | .bytes b => .ok (.bytes (b.map fun x => if 0x41 ≤ x && x ≤ 0x5a then x + 0x20 else x))
    | v => .error (.ofFailure
        (.plain "AttributeError" ("'" ++ v.kindName ++ "' object has no attribute 'lower'")))

namespace Source

def ends (s : Source) (point : Point) : Except Raised Unit :=
  match s.fails point with
  | none => .ok ()
  | some r => .error r

/-- Is it the product that speaks PostgreSQL and has a schema of its own? -/
def inspectSchema (s : Source) (mode : Mode) : Plan Family :=
  (Plan.touch mode .inTransaction).andThen fun () =>
    let inspected := (Plan.touch mode .inspect).andThen fun () => Plan.touch mode .hasSchema
    let ended := if s.inTransaction then inspected
      else inspected.andFinally (Plan.touch mode .rollback)
    ended.andThen fun () => .done (.ok (if s.cockroach then .cockroachdb else .postgresql))

def select (s : Source) (mode : Mode) (product : Value) : Plan Family :=
  match product with
  | .text name =>
    match familyOfProduct.lookup name with
    | some family => .done (.ok family)
    | none =>
      if name == "postgresql" then s.inspectSchema mode
      else .done (.error (.ofFailure (.store (.unsupported product))))
  | _ => .done (.error (.ofFailure (.store (.unsupported product))))

def productEvent (product : Value) : Event :=
  { severity := .debug, logger := Event.detectorLogger, name := "dialect.detect.product"
    extra := [("product", product)] }

def read (s : Source) (mode : Mode) : Plan Family :=
  (Plan.touch mode .dialect).andThen fun () =>
    match lowerProduct s.product with
    | .error r => .done (.error r)
    | .ok product => .report (productEvent product) (s.select mode product)

/-- Reading from an open connection, in tasks from the far side of a switch. -/
def readOpen (s : Source) (mode : Mode) : Plan Family :=
  let enter : Plan Unit := match mode with
    | .blocking => .done (.ok ())
    | .coroutine => Plan.touch mode .runSync
  let wait : Plan Unit := if s.gated then Plan.touch mode .gate else .done (.ok ())
  enter.andThen fun () => wait.andThen fun () => s.read mode

def probe (s : Source) (mode : Mode) : Plan Family :=
  if s.engine then
    (Plan.touch mode .connect).andThen fun () =>
      (s.readOpen mode).andFinally (Plan.touch mode .close)
  else s.readOpen mode

end Source

end ObjectCatalog.Detection
