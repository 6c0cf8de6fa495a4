import ObjectCatalog.Path.Tree
import ObjectCatalog.Toml.Read

/-! # Project manifests

The manifest of a directory is the nearest one in it or above it, as far as the search may
climb. Its values are looked up by keys whose parts, between dots, lead through nested tables.
Where the search finds nothing, what it finds cannot be opened or is not well-formed, or the key
leads nowhere, there is no value. Bytes that are no text and numbers that are too long are
reported.
-/
namespace ObjectCatalog.Manifest

def fileName : String := "pyproject.toml"

inductive LoadError
  | absent
  | locked
  | directory
  | content (e : Toml.ReadError)
  deriving DecidableEq

def load (tree : FileTree) (path : PathName) : Except LoadError Value :=
  match tree path with
  | some (.file bytes) => (Toml.readBytes bytes).mapError .content
  | some .locked => .error .locked
  | some .directory => .error .directory
  | none => .error .absent

inductive Unreadable
  | encoding (e : Text.Utf8Error)
  | tooManyDigits (count : Nat)
  deriving DecidableEq

def Unreadable.message : Unreadable → String
  | .encoding e => e.message
  | .tooManyDigits count => (Toml.Cause.tooManyDigits count).message

def loadIfSound (tree : FileTree) (path : PathName) : Except Unreadable (Option Value) :=
  match load tree path with
  | .ok root => .ok (some root)
  | .error (.content (.encoding e)) => .error (.encoding e)
  | .error (.content (.tooManyDigits count)) => .error (.tooManyDigits count)
  | .error _ => .ok none

def firstPresent (tree : FileTree) : List PathName → List PathName × Option PathName
  | [] => ([], none)
  | p :: rest =>
    if (tree p).isSome then ([p], some p)
    else
      let (examined, found) := firstPresent tree rest
      (p :: examined, found)

def follow : List String → Value → Option Value
  | [], v => some v
  | part :: rest, .mapping entries => (Value.entry? entries part).bind (follow rest)
  | _ :: _, _ => none

/-- The value a key leads to in a manifest; the empty key leads nowhere. -/
def lookUp? (key : String) (root : Value) : Option Value :=
  if key == "" then none else follow (Text.splitString '.' key) root

structure Search where
  tree : FileTree
  start : PathName
  /-- How many directories are searched at most, the start included. -/
  limit : Int

namespace Search

def candidates (s : Search) : List PathName :=
  (s.start.ancestors.take s.limit.toNat).map (·.child fileName)

def run (s : Search) : List PathName × Option PathName := firstPresent s.tree s.candidates

def examined (s : Search) : List PathName := s.run.1

def find (s : Search) : Option PathName := s.run.2

/-- The empty key is answered without a look at the manifest. -/
def value? (s : Search) (key : String) : Except Unreadable (Option Value) :=
  match s.find with
  | none => .ok none
  | some path =>
    if key == "" then .ok none else return (← loadIfSound s.tree path).bind (lookUp? key)

def value (s : Search) (key : String) (fallback : Value) : Except Unreadable Value := do
  return (← s.value? key).getD fallback

def name (s : Search) (fallback : Value) : Except Unreadable Value :=
  s.value "project.name" fallback

end Search

end ObjectCatalog.Manifest
