import ObjectCatalog.Dialect.Vocabulary
import ObjectCatalog.Text.Quoted

/-! # Dialect descriptors

Everything the store knows about one family of engines: the native type of each kind of column,
which vendor codes mean what, and how statements are adapted. A descriptor comes out of a
declaration, in which types may be missing and codes may be claimed twice; building it checks
both, so that a descriptor names a type for every kind of column and no code has two meanings.
-/
namespace ObjectCatalog

inductive BindType
  | varchar
  | binary
  | varbinary
  | boolean
  | blob
  | bigint
  | text
  | bit
  deriving DecidableEq, Repr

namespace BindType

def all : List BindType := [.varchar, .binary, .varbinary, .boolean, .blob, .bigint, .text, .bit]

def name : BindType → String
  | .varchar => "VARCHAR"
  | .binary => "BINARY"
  | .varbinary => "VARBINARY"
  | .boolean => "BOOLEAN"
  | .blob => "BLOB"
  | .bigint => "BIGINT"
  | .text => "TEXT"
  | .bit => "BIT"

def ofName? (name : String) : Option BindType := all.find? (·.name == name)

end BindType

structure ColumnType where
  keyword : String
  bind : BindType
  deriving DecidableEq, Repr

/-- How inserts are made to pass over rows that are already stored. Engines without a conflict
clause also need a length for the object ids in a key. -/
inductive Adapter
  | onConflict
  | insertIgnore (keyLength : Int)
  deriving DecidableEq, Repr

inductive CodeSet
  | constraint
  | retry
  | exists
  deriving DecidableEq, Repr

def CodeSet.name : CodeSet → String
  | .constraint => "constraint_violation"
  | .retry => "retry"
  | .exists => "already_exists"

structure Descriptor where
  family : Family
  adapter : Adapter
  columnType : LogicalType → ColumnType
  codes : CodeSet → List String
  disjoint : ∀ s t, s ≠ t → ∀ code ∈ codes s, code ∉ codes t

/-- A description of a dialect as it is written down, with family and column kinds by value. -/
structure Declaration where
  family : String
  adapter : Adapter
  columnTypes : List (String × ColumnType)
  constraintCodes : List String
  retryCodes : List String
  existsCodes : List String

inductive BuildError
  | unknownMember (u : UnknownMember)
  | missingTypes (family : Family) (types : List LogicalType)
  | sharedCodes (family : Family) (left right : CodeSet) (codes : List String)

def UnknownMember.message (u : UnknownMember) : String :=
  u.literal ++ " is not a valid " ++ u.set

def BuildError.message : BuildError → String
  | .unknownMember u => u.message
  | .missingTypes family types =>
    family.value ++ ": no column type for " ++ String.intercalate ", " (types.map (·.label))
  | .sharedCodes family left right codes =>
    family.value ++ ": code(s) " ++ Text.quoteList codes ++ " are both " ++ left.name ++
      " and " ++ right.name

def sortedDistinct (codes : List String) : List String :=
  codes.eraseDups.mergeSort (fun a b => decide (a ≤ b))

namespace Declaration

def codes (d : Declaration) : CodeSet → List String
  | .constraint => d.constraintCodes
  | .retry => d.retryCodes
  | .exists => d.existsCodes

def family? (d : Declaration) : Except BuildError Family :=
  match Family.ofValue? d.family with
  | some family => .ok family
  | none => .error (.unknownMember ⟨Text.quote d.family, "DialectFamily"⟩)

def resolveTypes : List (String × ColumnType) → Except BuildError (List (LogicalType × ColumnType))
  | [] => .ok []
  | (value, type) :: rest =>
    match LogicalType.ofValue? value with
    | none => .error (.unknownMember ⟨Text.quote value, "LogicalColumnType"⟩)
    | some logical => (resolveTypes rest).map ((logical, type) :: ·)

def missingTypes (types : List (LogicalType × ColumnType)) : List LogicalType :=
  LogicalType.all.filter fun t => (types.lookup t).isNone

def sharedCodes (d : Declaration) (left right : CodeSet) : List String :=
  (d.codes left).filter (d.codes right).contains

def codePairs : List (CodeSet × CodeSet) :=
  [(.constraint, .retry), (.constraint, .exists), (.retry, .exists)]

def overlap? (d : Declaration) : Option (CodeSet × CodeSet) :=
  codePairs.find? fun pair => !(d.sharedCodes pair.1 pair.2).isEmpty

theorem lookup_isSome_of_missingTypes {types : List (LogicalType × ColumnType)}
    (complete : missingTypes types = []) (t : LogicalType) : (types.lookup t).isSome = true := by
  have h := List.filter_eq_nil_iff.mp complete t (LogicalType.mem_all t)
  simpa [Option.isNone_iff_eq_none, Option.isSome_iff_ne_none] using h

theorem not_mem_of_overlap? {d : Declaration} (none : d.overlap? = none) {s t : CodeSet}
    (pair : (s, t) ∈ codePairs) {code : String} (hs : code ∈ d.codes s) : code ∉ d.codes t := by
  have h := List.find?_eq_none.mp none (s, t) pair
  have empty : d.sharedCodes s t = [] := by simpa using h
  have := List.filter_eq_nil_iff.mp empty code hs
  simpa using this

theorem disjoint_of_overlap? {d : Declaration} (none : d.overlap? = none) :
    ∀ s t, s ≠ t → ∀ code ∈ d.codes s, code ∉ d.codes t := by
  intro s t ne code hs ht
  have forward : (s, t) ∈ codePairs ∨ (t, s) ∈ codePairs := by
    cases s <;> cases t <;> first | exact absurd rfl ne | decide
  rcases forward with pair | pair
  · exact not_mem_of_overlap? none pair hs ht
  · exact not_mem_of_overlap? none pair ht hs

/-- Checks a declaration: first its names, then that no column kind lacks a type, then that no
two sets share a code. -/
def build (d : Declaration) : Except BuildError Descriptor := do
  let family ← d.family?
  let types ← resolveTypes d.columnTypes
  if complete : missingTypes types = [] then
    match h : d.overlap? with
    | some (left, right) =>
      .error (.sharedCodes family left right (sortedDistinct (d.sharedCodes left right)))
    | none =>
      .ok {
        family
        adapter := d.adapter
        columnType := fun t => (types.lookup t).get (lookup_isSome_of_missingTypes complete t)
        codes := d.codes
        disjoint := disjoint_of_overlap? h }
  else .error (.missingTypes family (missingTypes types))

end Declaration

namespace Descriptor

def name (d : Descriptor) : String := d.family.value

def hasCode (d : Descriptor) (set : CodeSet) (code : String) : Bool := (d.codes set).contains code

/-- What a failure with this code means; an empty code means nothing. -/
def classify (d : Descriptor) (code : Option String) : Category :=
  match code with
  | none => .unclassified
  | some code =>
    if code == "" then .unclassified
    else if d.hasCode .constraint code then .constraintViolation
    else if d.hasCode .retry code then .retryableConflict
    else if d.hasCode .exists code then .alreadyExists
    else .unclassified

def keyColumn (d : Descriptor) (column : String) (logical : LogicalType) : String :=
  match d.adapter, logical with
  | .insertIgnore keyLength, .objId => column ++ "(" ++ toString keyLength ++ ")"
  | _, _ => column

def sortedCodes (d : Descriptor) (set : CodeSet) : List String := sortedDistinct (d.codes set)

/-- Descriptors are shared and never change: neither a field nor a type can be put in place. -/
inductive Refusal
  | field (name : String)
  | columnType
  deriving DecidableEq

def refuseChange (target : String) : Refusal :=
  if target == "column_types" then .columnType else .field target

def Refusal.message : Refusal → String
  | .field name => "cannot assign to field " ++ Text.quote name
  | .columnType => "'mappingproxy' object does not support item assignment"

def summary (d : Descriptor) : String :=
  let kind := match d.adapter with
    | .onConflict => "DialectDescriptor"
    | .insertIgnore _ => "MySQLDialectDescriptor"
  "<" ++ kind ++ "(" ++ d.family.value ++ ")>"

end Descriptor

end ObjectCatalog
