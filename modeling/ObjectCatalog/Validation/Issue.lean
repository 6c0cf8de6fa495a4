/-! # Issues of validation

What can be wrong with a value that is given for a field. An issue has a kind, for programs, and a
message, for people.
-/
namespace ObjectCatalog

inductive Issue
  | missing
  | textType
  | textTooShort
  | textEncoding
  | frozen
  | literal (allowed : List String)
  | boolParsing
  | boolType
  | intParsing
  | intTooLong
  | intType
  | intFromFraction
  | finiteNumber
  | pathType
  deriving DecidableEq, Repr

namespace Issue

def kind : Issue → String
  | .missing => "missing"
  | .textType => "string_type"
  | .textTooShort => "string_too_short"
  | .textEncoding => "string_unicode"
  | .frozen => "frozen_instance"
  | .literal _ => "literal_error"
  | .boolParsing => "bool_parsing"
  | .boolType => "bool_type"
  | .intParsing => "int_parsing"
  | .intTooLong => "int_parsing_size"
  | .intType => "int_type"
  | .intFromFraction => "int_from_float"
  | .finiteNumber => "finite_number"
  | .pathType => "path_type"

def alternatives : List String → String
  | [] => ""
  | [a] => a
  | [a, b] => a ++ " or " ++ b
  | a :: rest => a ++ ", " ++ alternatives rest

def message : Issue → String
  | .missing => "Field required"
  | .textType => "Input should be a valid string"
  | .textTooShort => "String should have at least 1 character"
  | .textEncoding => "Input should be a valid string, unable to parse raw data as a unicode string"
  | .frozen => "Instance is frozen"
  | .literal allowed => "Input should be " ++ alternatives (allowed.map fun a => "'" ++ a ++ "'")
  | .boolParsing => "Input should be a valid boolean, unable to interpret input"
  | .boolType => "Input should be a valid boolean"
  | .intParsing => "Input should be a valid integer, unable to parse string as an integer"
  | .intTooLong => "Unable to parse input string as an integer, exceeded maximum size"
  | .intType => "Input should be a valid integer"
  | .intFromFraction => "Input should be a valid integer, got a number with a fractional part"
  | .finiteNumber => "Input should be a finite number"
  | .pathType => "Input is not a valid path for <class 'pathlib.Path'>"

end Issue

structure FieldIssue where
  field : String
  issue : Issue
  deriving DecidableEq, Repr

abbrev Validated (α : Type) := Except (List FieldIssue) α

namespace Validated

def field (name : String) : Except Issue α → Validated α
  | .ok a => .ok a
  | .error issue => .error [⟨name, issue⟩]

/-- Applies one validated value to another, keeping the issues of both. -/
def apply : Validated (α → β) → Validated α → Validated β
  | .ok f, .ok a => .ok (f a)
  | .ok _, .error issues => .error issues
  | .error issues, .ok _ => .error issues
  | .error issues, .error more => .error (issues ++ more)

end Validated

end ObjectCatalog
