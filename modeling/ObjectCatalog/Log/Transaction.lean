/-! # Transaction identifiers

The identifier of the current transaction is kept in one place. A block opens a transaction with
a given identifier, or a fresh one, and restores what was there before when it ends, in whatever
way. Identifiers can also be set by hand; that leaves a token, which restores once what was there
before it was made.
-/
namespace ObjectCatalog

structure TransactionToken where
  replaced : Option String
  used : Bool

inductive TransactionError
  | unknownToken
  | usedToken
  | noBlock
  deriving DecidableEq

structure Transactions where
  current : Option String
  tokens : List TransactionToken
  /-- What the open blocks will restore, the innermost first. -/
  blocks : List (Option String)
  /-- The number of fresh identifiers made. -/
  made : Nat

namespace Transactions

def empty : Transactions := ⟨none, [], [], 0⟩

def assign (t : Transactions) (id : Option String) : Transactions :=
  { t with current := id, tokens := t.tokens ++ [⟨t.current, false⟩] }

def restore (t : Transactions) (token : Nat) : Except TransactionError Transactions :=
  match t.tokens[token]? with
  | none => .error .unknownToken
  | some found =>
    if found.used then .error .usedToken
    else .ok { t with
      current := found.replaced
      tokens := t.tokens.set token { found with used := true } }

/-- Opens a block. An empty identifier counts as none, and `fresh` names the new ones. -/
def enter (fresh : Nat → String) (t : Transactions) (id : Option String) : Transactions :=
  match id.filter (· != "") with
  | some id => { t with current := some id, blocks := t.current :: t.blocks }
  | none => { t with
      current := some (fresh t.made), blocks := t.current :: t.blocks, made := t.made + 1 }

def leave (t : Transactions) : Except TransactionError Transactions :=
  match t.blocks with
  | [] => .error .noBlock
  | replaced :: blocks => .ok { t with current := replaced, blocks }

end Transactions

end ObjectCatalog
