import ObjectCatalog.Failure.Handler
import ObjectCatalog.Schema.Statement

/-! # Creating the tables of the catalog

Each table that is not there is created and committed on its own. If somebody else creates a
table in the meantime the attempt fails, and that failure counts as success. A connection is
given by what it does on each operation, over a state of its own.
-/
namespace ObjectCatalog.Schema

structure Connection (σ : Type) where
  inspect : σ → Except Raised Unit × σ
  hasTable : Table → σ → Except Raised Bool × σ
  execute : Table → String → σ → Except Raised Unit × σ
  commit : σ → Except Raised Unit × σ
  rollback : σ → Except Raised Unit × σ

inductive Access
  | inspect
  | hasTable (name : String)
  | execute (sql : String)
  | commit
  | rollback
  deriving DecidableEq

def Access.entry : Access → String
  | .inspect => "inspect"
  | .hasTable name => "has_table " ++ name
  | .execute sql => "execute " ++ sql
  | .commit => "commit"
  | .rollback => "rollback"

structure Course (σ α : Type) where
  outcome : Except Raised α
  state : σ
  trace : List Access
  events : List Event

def tableEvent (severity : Severity) (name : String) (t : Table) (d : Descriptor) : Event :=
  { severity, logger := Event.schemaLogger, name
    extra := [("table", .text t.name), ("dialect", .text d.name)] }

def existsEvent (t : Table) (d : Descriptor) : Event :=
  tableEvent .debug "schema.table_exists" t d

def createdEvent (t : Table) (d : Descriptor) : Event :=
  tableEvent .info "schema.table_created" t d

def concurrentEvent (t : Table) (d : Descriptor) : Event :=
  tableEvent .info "schema.table_created_concurrently" t d

def saysExists (r : Raised) : Bool :=
  match r.failure with
  | .fault (.store e _) => decide (e.kind = .alreadyExists)
  | _ => false

variable {σ : Type} (conn : Connection σ) (d : Descriptor)

def check (t : Table) (s : σ) : Course σ Bool :=
  match conn.inspect s with
  | (.error r, s) => ⟨.error r, s, [.inspect], []⟩
  | (.ok (), s) =>
    match conn.hasTable t s with
    | (.error r, s) => ⟨.error r, s, [.inspect, .hasTable t.name], []⟩
    | (.ok true, s) => ⟨.ok true, s, [.inspect, .hasTable t.name], [existsEvent t d]⟩
    | (.ok false, s) => ⟨.ok false, s, [.inspect, .hasTable t.name], []⟩

def define (t : Table) (s : σ) : Course σ Unit :=
  let sql := t.createStatement d
  match conn.execute t sql s with
  | (.error r, s) => ⟨.error r, s, [.execute sql], []⟩
  | (.ok (), s) =>
    let (outcome, s) := conn.commit s
    ⟨outcome, s, [.execute sql, .commit], []⟩

def defineGuarded (t : Table) (s : σ) : Course σ Unit :=
  let c := define conn d t s
  match c.outcome with
  | .ok () => c
  | .error r =>
    if r.failure.isDatabase then
      let (ended, s) := conn.rollback c.state
      let rollback := match ended with
        | .ok () => none
        | .error failed => some failed
      let (raised, events) :=
        d.leaveFailed .blocking (some ("create table " ++ t.name)) r rollback
      ⟨.error raised, s, c.trace ++ [.rollback], events⟩
    else c

/-- Creates a table; false if somebody else did. -/
def create (t : Table) (s : σ) : Course σ Bool :=
  let c := defineGuarded conn d t s
  match c.outcome with
  | .ok () => ⟨.ok true, c.state, c.trace, c.events ++ [createdEvent t d]⟩
  | .error r =>
    if saysExists r then ⟨.ok false, c.state, c.trace, c.events ++ [concurrentEvent t d]⟩
    else ⟨.error r, c.state, c.trace, c.events⟩

def ensure (t : Table) (s : σ) : Course σ (List String) :=
  let c := check conn d t s
  match c.outcome with
  | .error r => ⟨.error r, c.state, c.trace, c.events⟩
  | .ok true => ⟨.ok [], c.state, c.trace, c.events⟩
  | .ok false =>
    let m := create conn d t c.state
    ⟨m.outcome.map fun made => if made then [t.name] else [], m.state,
      c.trace ++ m.trace, c.events ++ m.events⟩

def ensureAll : List Table → σ → Course σ (List String)
  | [], s => ⟨.ok [], s, [], []⟩
  | t :: rest, s =>
    let c := ensure conn d t s
    match c.outcome with
    | .error r => ⟨.error r, c.state, c.trace, c.events⟩
    | .ok created =>
      let m := ensureAll rest c.state
      ⟨m.outcome.map (created ++ ·), m.state, c.trace ++ m.trace, c.events ++ m.events⟩

def establish (s : σ) : Course σ (List String) := ensureAll conn d catalogTables s

end ObjectCatalog.Schema
