import ObjectCatalog.Value.Basic

/-! # Faults of a TOML text

A fault has a cause and a place. The place is the number of characters from it to the end, from
which line and column are found when the fault is reported.
-/
namespace ObjectCatalog.Toml

inductive Cause
  | invalidStatement
  | statementEnd
  | keyStart
  | missingEquals
  | missingDelimiter (delimiter : String)
  | invalidCharacter (c : Char)
  | illegalCharacter (c : Char)
  | unterminated
  | invalidEscape
  | invalidHex
  | notScalar
  | tableEnd
  | arrayOfTablesEnd
  | unclosedArray
  | unclosedInlineTable
  | declaredTwice (path : List String)
  | redefined (path : List String)
  | closed (path : List String)
  | occupied
  | duplicate (name : String)
  | invalidDate
  | invalidValue
  | tooManyDigits (count : Nat)
  deriving DecidableEq

def digitLimit : Nat := 4300

def pathText (path : List String) : String := (Value.tuple (path.map .text)).literal

def Cause.message : Cause → String
  | .invalidStatement => "Invalid statement"
  | .statementEnd => "Expected newline or end of document after a statement"
  | .keyStart => "Invalid initial character for a key part"
  | .missingEquals => "Expected '=' after a key in a key/value pair"
  | .missingDelimiter delimiter => "Expected " ++ Text.quote delimiter
  | .invalidCharacter c => "Found invalid character " ++ Text.quote (String.singleton c)
  | .illegalCharacter c => "Illegal character " ++ Text.quote (String.singleton c)
  | .unterminated => "Unterminated string"
  | .invalidEscape => "Unescaped '\\' in a string"
  | .invalidHex => "Invalid hex value"
  | .notScalar => "Escaped character is not a Unicode scalar value"
  | .tableEnd => "Expected ']' at the end of a table declaration"
  | .arrayOfTablesEnd => "Expected ']]' at the end of an array declaration"
  | .unclosedArray => "Unclosed array"
  | .unclosedInlineTable => "Unclosed inline table"
  | .declaredTwice path => "Cannot declare " ++ pathText path ++ " twice"
  | .redefined path => "Cannot redefine namespace " ++ pathText path
  | .closed path => "Cannot mutate immutable namespace " ++ pathText path
  | .occupied => "Cannot overwrite a value"
  | .duplicate name => "Duplicate inline table key " ++ Text.quote name
  | .invalidDate => "Invalid date or datetime"
  | .invalidValue => "Invalid value"
  | .tooManyDigits count =>
    "Exceeds the limit (" ++ toString digitLimit ++ " digits) for integer string conversion: " ++
      "value has " ++ toString count ++
      " digits; use sys.set_int_max_str_digits() to increase the limit"

structure Fault where
  cause : Cause
  remaining : Nat
  deriving DecidableEq

def placeText (source : List Char) (remaining : Nat) : String :=
  if remaining == 0 then "end of document"
  else
    let before := source.take (source.length - remaining)
    "line " ++ toString (before.count '\n' + 1) ++ ", column " ++
      toString ((before.reverse.takeWhile (· != '\n')).length + 1)

def Fault.message (source : List Char) (f : Fault) : String :=
  f.cause.message ++ " (at " ++ placeText source f.remaining ++ ")"

end ObjectCatalog.Toml
