import ObjectCatalog.Manifest.Lookup
import ObjectCatalog.Manifest.Own

/-! # The version of a project

The version installed under the project's name, where that is preferred and there is one, else
the version in the manifest, else a fallback. A project without a manifest or a name in it goes
by the name of the store.
-/
namespace ObjectCatalog.Manifest

inductive VersionError
  | unreadable (e : Unreadable)
  | nameRequired
  | nameNotText (name : Value)

def VersionError.message : VersionError → String
  | .unreadable e => e.message
  | .nameRequired => "A distribution name is required."
  | .nameNotText name =>
    "expected string or bytes-like object, got " ++ Text.quote name.kindName

def installedVersion (installed : String → Option String) (name : Value) :
    Except VersionError (Option String) :=
  if !name.isGiven then .error .nameRequired
  else
    match name.asText? with
    | some text => .ok (installed text)
    | none => .error (.nameNotText name)

namespace Search

def declaredVersion (s : Search) (fallback : Value) : Except VersionError Value :=
  (s.value "project.version" fallback).mapError .unreadable

def version (s : Search) (installed : String → Option String) (preferInstalled : Bool)
    (fallback : Value) : Except VersionError Value := do
  let name ← (s.name (.text ownName)).mapError VersionError.unreadable
  if preferInstalled then
    match ← installedVersion installed name with
    | some version => return .text version
    | none => s.declaredVersion fallback
  else s.declaredVersion fallback

end Search

end ObjectCatalog.Manifest
