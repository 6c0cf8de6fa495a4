import ObjectCatalog.Value.Basic

/-! # Tables of a TOML document

A document is a tree of tables. Tables are made by headers or by dotted keys, and arrays of
tables grow by headers; values, among them inline tables and arrays, are closed, and nothing can
be added to them. A table is declared once by a header of its own. Below an array of tables,
paths go on in its last table.
-/
namespace ObjectCatalog.Toml

inductive Node
  | value (v : Value)
  | table (declared : Bool) (members : List (String × Node))
  /-- The tables of an array, the last one apart. -/
  | tables (earlier : List Value) (declared : Bool) (members : List (String × Node))
  deriving Inhabited

abbrev Members := List (String × Node)

abbrev Path := List String

mutual

def Node.toValue : Node → Value
  | .value v => v
  | .table _ members => .table (memberValues members)
  | .tables earlier _ members => .list (earlier ++ [.table (memberValues members)])

def memberValues : List (String × Node) → List (String × Value)
  | [] => []
  | (name, node) :: members => (name, node.toValue) :: memberValues members

end

inductive Conflict
  | occupied
  deriving DecidableEq

namespace Members

def put (name : String) (node : Node) : Members → Members
  | [] => [(name, node)]
  | (other, old) :: members =>
    if other == name then (name, node) :: members else (other, old) :: put name node members

/-- Changes the table at a path; tables that are missing on the way are made. -/
def changeAt (change : Members → Except Conflict Members) :
    Path → Members → Except Conflict Members
  | [], members => change members
  | name :: path, members => do
    match members.lookup name with
    | none => return put name (.table false (← changeAt change path [])) members
    | some (.table declared inner) =>
      return put name (.table declared (← changeAt change path inner)) members
    | some (.tables earlier declared inner) =>
      return put name (.tables earlier declared (← changeAt change path inner)) members
    | some (.value _) => throw .occupied

def isDeclared : Path → Members → Bool
  | [], _ => false
  | name :: path, members =>
    match members.lookup name with
    | some (.table declared inner) | some (.tables _ declared inner) =>
      if path.isEmpty then declared else isDeclared path inner
    | _ => false

def isContainer : Value → Bool
  | .list _ | .mapping _ => true
  | _ => false

def isClosed : Path → Members → Bool
  | [], _ => false
  | name :: path, members =>
    match members.lookup name with
    | some (.value v) => isContainer v
    | some (.table _ inner) | some (.tables _ _ inner) => isClosed path inner
    | none => false

def declare (name : String) (members : Members) : Except Conflict Members :=
  match members.lookup name with
  | none => .ok (put name (.table true []) members)
  | some (.table _ inner) => .ok (put name (.table true inner) members)
  | some (.tables earlier _ inner) => .ok (put name (.tables earlier true inner) members)
  | some (.value _) => .error .occupied

def extend (name : String) (members : Members) : Except Conflict Members :=
  match members.lookup name with
  | none => .ok (put name (.tables [] true []) members)
  | some (.tables earlier _ inner) =>
    .ok (put name (.tables (earlier ++ [.table (memberValues inner)]) true []) members)
  | some _ => .error .occupied

def insert (name : String) (v : Value) (members : Members) : Except Conflict Members :=
  match members.lookup name with
  | none => .ok (put name (.value v) members)
  | some _ => .error .occupied

def markDeclared (path : Path) (members : Members) : Members :=
  match path.getLast? with
  | none => members
  | some name =>
    match changeAt (declare name) path.dropLast members with
    | .ok members => members
    | .error _ => members

end Members

end ObjectCatalog.Toml
