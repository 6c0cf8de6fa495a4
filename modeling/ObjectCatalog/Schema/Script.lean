import ObjectCatalog.Schema.Initialization

/-! # Scripted connections

A connection whose next outcomes are laid down in advance, over the tables of a database. Tables
created but not committed are pending; a commit makes them part of the database and a rollback
drops them.
-/
namespace ObjectCatalog.Schema

/-- A coming execution that does not succeed. Somebody else may create the same table first. -/
structure Execution where
  failure : Raised
  appears : Bool

def Execution.ofFailure (failure : Option Raised) (appears : Bool) : Execution :=
  ⟨failure.getD (.ofFailure (.plain "KeyError" "raise")), appears⟩

structure Script where
  tables : List String
  pending : List String
  executions : List (Option Execution)
  commits : List (Option Raised)
  rollbacks : List (Option Raised)
  inspectFails : Option Raised
  hasTableFails : Option Raised

namespace Script

def ending (failure : Option Raised) : Except Raised Unit :=
  match failure with
  | none => .ok ()
  | some r => .error r

def execute (t : Table) (s : Script) : Except Raised Unit × Script :=
  let rest := { s with executions := s.executions.tail }
  match s.executions.headD none with
  | none => (.ok (), { rest with pending := s.pending ++ [t.name] })
  | some next =>
    let tables := if next.appears then s.tables ++ [t.name] else s.tables
    (.error next.failure, { rest with tables })

def commit (s : Script) : Except Raised Unit × Script :=
  let rest := { s with commits := s.commits.tail }
  match s.commits.headD none with
  | none => (.ok (), { rest with tables := s.tables ++ s.pending, pending := [] })
  | some r => (.error r, rest)

def rollback (s : Script) : Except Raised Unit × Script :=
  (ending (s.rollbacks.headD none), { s with rollbacks := s.rollbacks.tail, pending := [] })

def connection : Connection Script where
  inspect := fun s => (ending s.inspectFails, s)
  hasTable := fun t s => match s.hasTableFails with
    | some r => (.error r, s)
    | none => (.ok (s.tables.contains t.name), s)
  execute := fun t _ s => s.execute t
  commit := commit
  rollback := rollback

end Script

end ObjectCatalog.Schema
