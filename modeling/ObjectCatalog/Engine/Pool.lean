import ObjectCatalog.Failure.Basic
import ObjectCatalog.Settings.Basic

/-! # Engines

An engine is made once for an address and its options and then shared. Engines for callers that
block and for callers in tasks are kept apart. Each collection keeps the engines used last, up to
a fixed number. A request that fails leaves everything as it was. How an engine is made is left to
the database layer, and so is which addresses it takes.
-/
namespace ObjectCatalog

structure EngineKey where
  url : String
  echo : Bool
  prePing : Bool
  deriving DecidableEq, Repr

/-- Engines are numbered in the order in which they are made. -/
structure Engine where
  number : Nat
  key : EngineKey
  forTasks : Bool
  dialect : String
  database : Option String
  deriving DecidableEq, Repr

/-- The database layer's way to make engines. It may refuse an address for any reason; what it makes
is a new engine each time, numbered as such, of the kind and for the key that it was asked for. -/
structure EngineMaker where
  make : (number : Nat) → (key : EngineKey) → (forTasks : Bool) → Except Failure Engine
  isNew : ∀ {number key forTasks engine}, make number key forTasks = .ok engine →
    engine.number = number ∧ engine.key = key ∧ engine.forTasks = forTasks

/-- The engines kept, the one used last first. -/
abbrev EngineShelf := List Engine

def EngineShelf.capacity : Nat := 128

def EngineShelf.find? (shelf : EngineShelf) (key : EngineKey) : Option Engine :=
  List.find? (·.key == key) shelf

/-- Puts an engine in front, and drops what is beyond the capacity. -/
def EngineShelf.use (shelf : EngineShelf) (engine : Engine) : EngineShelf :=
  (engine :: List.filter (·.key != engine.key) shelf).take EngineShelf.capacity

structure EnginePool where
  blocking : EngineShelf
  tasks : EngineShelf
  made : Nat

namespace EnginePool

def empty : EnginePool := ⟨[], [], 0⟩

def shelf (p : EnginePool) (forTasks : Bool) : EngineShelf :=
  if forTasks then p.tasks else p.blocking

def withShelf (p : EnginePool) (forTasks : Bool) (shelf : EngineShelf) : EnginePool :=
  if forTasks then { p with tasks := shelf } else { p with blocking := shelf }

def obtain (maker : EngineMaker) (p : EnginePool) (key : EngineKey) (forTasks : Bool) :
    EnginePool × Except Failure Engine :=
  match (p.shelf forTasks).find? key with
  | some engine => (p.withShelf forTasks ((p.shelf forTasks).use engine), .ok engine)
  | none =>
    match maker.make p.made key forTasks with
    | .error e => (p, .error e)
    | .ok engine =>
      ({ p.withShelf forTasks ((p.shelf forTasks).use engine) with made := p.made + 1 },
        .ok engine)

def notConfigured : Failure := .plain "ValueError" "ASYNC_DATABASE_URL is not configured"

def engineFor (maker : EngineMaker) (p : EnginePool) (s : Settings) (forTasks : Bool) :
    EnginePool × Except Failure Engine :=
  if forTasks then
    match s.asyncDatabaseUrl with
    | some url =>
      if url == "" then (p, .error notConfigured)
      else p.obtain maker ⟨url, s.echo, s.prePing⟩ true
    | none => (p, .error notConfigured)
  else p.obtain maker ⟨s.databaseUrl, s.echo, s.prePing⟩ false

end EnginePool

end ObjectCatalog
