import ObjectCatalog.Settings.Basic
import ObjectCatalog.Settings.Dotenv

/-! # Where settings come from

A setting is taken from the caller, else from the environment, else from an environment file.
Names match in any case. Of several entries of a name the caller's first one counts, and the last
one of the environment or a file; a name without a value does not.

A session keeps the settings it has loaded until it is told to forget them. Settings that could
not be loaded are not kept.
-/
namespace ObjectCatalog.Settings

structure Sources where
  caller : List (String × Value)
  environment : List (String × String)
  file : Option String

def firstEntry (entries : List (String × α)) (name : String) : Option α :=
  (entries.find? fun e => Text.lower e.1 == Text.lower name).map (·.2)

def lastEntry (entries : List (String × α)) (name : String) : Option α :=
  firstEntry entries.reverse name

namespace Sources

def fileVariables (s : Sources) : List (String × Option String) :=
  match s.file with
  | some text => Dotenv.values s.environment text
  | none => []

def given (s : Sources) : Given := fun setting =>
  match firstEntry s.caller setting.name with
  | some v => some v
  | none =>
    match lastEntry s.environment setting.name with
    | some text => some (.text text)
    | none => ((lastEntry s.fileVariables setting.name).bind id).map .text

end Sources

def load (s : Sources) : Validated Settings := validate s.given

/-- Loaded settings are numbered in the order in which they were loaded. -/
structure Session where
  environment : List (String × String)
  file : Option String
  kept : Option (Nat × Settings)
  loaded : Nat

inductive Request
  | setVariable (name value : String)
  | unsetVariable (name : String)
  | writeFile (text : String)
  | forget
  | get

namespace Session

def empty : Session := ⟨[], none, none, 0⟩

def setVariable (s : Session) (name value : String) : Session :=
  { s with environment :=
      if s.environment.any (·.1 == name) then
        s.environment.map fun e => if e.1 == name then (name, value) else e
      else s.environment ++ [(name, value)] }

def get (s : Session) : Session × Validated (Nat × Settings) :=
  match s.kept with
  | some kept => (s, .ok kept)
  | none =>
    match load ⟨[], s.environment, s.file⟩ with
    | .ok settings =>
      ({ s with kept := some (s.loaded, settings), loaded := s.loaded + 1 },
        .ok (s.loaded, settings))
    | .error issues => (s, .error issues)

def handle (s : Session) : Request → Session × Option (Validated (Nat × Settings))
  | .setVariable name value => (s.setVariable name value, none)
  | .unsetVariable name =>
    ({ s with environment := s.environment.filter (·.1 != name) }, none)
  | .writeFile text => ({ s with file := some text }, none)
  | .forget => ({ s with kept := none }, none)
  | .get =>
    let (next, answer) := s.get
    (next, some answer)

end Session

end ObjectCatalog.Settings
