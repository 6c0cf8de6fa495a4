import ObjectCatalog.Failure.Basic
import ObjectCatalog.Validation.Issue

/-! # Asking for differences

A request for a difference has two sides, each a reference and optionally a commit on it. A builder
collects the four values in any order; the last one given for each counts. Its request is
validated when it is made, and only a valid one is sent. What counts as a text is up to whatever
reads texts from values.
-/
namespace ObjectCatalog.Diff

inductive Part
  | fromRef
  | fromHash
  | toRef
  | toHash
  deriving DecidableEq, Repr

def Part.name : Part → String
  | .fromRef => "from_ref"
  | .fromHash => "from_hash_on_ref"
  | .toRef => "to_ref"
  | .toHash => "to_hash_on_ref"

def Part.all : List Part := [.fromRef, .fromHash, .toRef, .toHash]

structure Params where
  fromRef : String
  fromHash : Option String
  toRef : String
  toHash : Option String
  deriving DecidableEq, Repr

def optionalValue (s : Option String) : Value := (s.map Value.text).getD .null

def Params.entries (p : Params) : List (String × Value) :=
  [(Part.fromRef.name, .text p.fromRef), (Part.fromHash.name, optionalValue p.fromHash),
    (Part.toRef.name, .text p.toRef), (Part.toHash.name, optionalValue p.toHash)]

abbrev TextReader := Value → Except Issue String

variable (readText : TextReader)

def reference (given : Option Value) : Except Issue String :=
  match given with
  | none => .error .missing
  | some v =>
    match readText v with
    | .ok s => if s == "" then .error .textTooShort else .ok s
    | .error issue => .error issue

def commit (given : Option Value) : Except Issue (Option String) :=
  match given with
  | none | some .null => .ok none
  | some v => (readText v).map some

def Params.validate (given : Part → Option Value) : Validated Params :=
  Validated.apply (Validated.apply (Validated.apply (Validated.apply (.ok Params.mk)
    (Validated.field Part.fromRef.name (reference readText (given .fromRef))))
    (Validated.field Part.fromHash.name (commit readText (given .fromHash))))
    (Validated.field Part.toRef.name (reference readText (given .toRef))))
    (Validated.field Part.toHash.name (commit readText (given .toHash)))

def Params.refuseAssignment (field : String) : List FieldIssue := [⟨field, .frozen⟩]

structure Builder where
  value : Part → Value

namespace Builder

def empty : Builder := ⟨fun _ => .null⟩

def set (b : Builder) (part : Part) (v : Value) : Builder :=
  ⟨fun p => if p = part then v else b.value p⟩

def params (b : Builder) : Validated Params := Params.validate readText fun p => some (b.value p)

end Builder

/-- A builder in use, with the requests that were made for the caller and those that were sent. -/
structure Client where
  builder : Builder
  made : List Params
  sent : List Params

inductive Call
  | set (part : Part) (v : Value)
  | params
  | get
  | assign (field : String)

inductive Reply
  | builder
  /-- A request, and whether it is like the one made before it. -/
  | params (p : Params) (sameAsLast : Bool)
  | answered (call : Nat)
  | invalid (issues : List FieldIssue)
  /-- An assignment before any request was made. -/
  | nothingMade (field : String)
  | failed (r : Raised)

namespace Client

def empty : Client := ⟨.empty, [], []⟩

def step (c : Client) (fails : Option Raised) : Call → Client × Reply
  | .set part v => ({ c with builder := c.builder.set part v }, .builder)
  | .params =>
    match c.builder.params readText with
    | .ok p => ({ c with made := c.made ++ [p] }, .params p (decide (c.made.getLast? = some p)))
    | .error issues => (c, .invalid issues)
  | .get =>
    match c.builder.params readText with
    | .ok p =>
      ({ c with sent := c.sent ++ [p] },
        match fails with
        | none => .answered (c.sent.length + 1)
        | some r => .failed r)
    | .error issues => (c, .invalid issues)
  | .assign field =>
    (c, if c.made.isEmpty then .nothingMade field else .invalid (Params.refuseAssignment field))

end Client

end ObjectCatalog.Diff
