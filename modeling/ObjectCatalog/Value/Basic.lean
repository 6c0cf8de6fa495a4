import ObjectCatalog.Decimal.Shortest
import ObjectCatalog.Dialect.Vocabulary
import ObjectCatalog.Text.Quoted

/-! # Values

The values that reach the store from outside: error codes and arguments of driver errors,
settings given by a caller, arguments and extra attributes of log records. A value has two
texts: its display, which for a text is the text itself, and its literal, which quotes texts and
is used for everything inside a container.
-/
namespace ObjectCatalog

inductive Value
  | null
  | bool (b : Bool)
  | int (n : Int)
  | float (x : Binary64)
  | text (s : String)
  | bytes (b : List UInt8)
  | list (items : List Value)
  | tuple (items : List Value)
  | set (items : List Value)
  | frozenset (items : List Value)
  | mapping (entries : List (Value × Value))
  | member (m : Member)
  deriving Inhabited

namespace Value

def commaSeparated (texts : List String) : String := String.intercalate ", " texts

mutual

def literal : Value → String
  | .null => "None"
  | .bool true => "True"
  | .bool false => "False"
  | .int n => toString n
  | .float x => x.text
  | .text s => Text.quote s
  | .bytes b => Text.quoteBytes b
  | .list items => "[" ++ commaSeparated (literals items) ++ "]"
  | .tuple [item] => "(" ++ item.literal ++ ",)"
  | .tuple items => "(" ++ commaSeparated (literals items) ++ ")"
  | .set [] => "set()"
  | .set items => "\x7b" ++ commaSeparated (literals items) ++ "\x7d"
  | .frozenset [] => "frozenset()"
  | .frozenset items => "frozenset(\x7b" ++ commaSeparated (literals items) ++ "\x7d)"
  | .mapping entries => "\x7b" ++ commaSeparated (entryLiterals entries) ++ "\x7d"
  | .member m => "<" ++ m.label ++ ": " ++ Text.quote m.value ++ ">"

def literals : List Value → List String
  | [] => []
  | item :: items => item.literal :: literals items

def entryLiterals : List (Value × Value) → List String
  | [] => []
  | (key, item) :: entries => (key.literal ++ ": " ++ item.literal) :: entryLiterals entries

end

def display : Value → String
  | .text s => s
  | .member m => m.label
  | v => v.literal

def table (entries : List (String × Value)) : Value :=
  .mapping (entries.map fun entry => (.text entry.1, entry.2))

def isNull : Value → Bool
  | .null => true
  | _ => false

/-- Whether a value counts as given: nothing, zero and empty ones do not. -/
def isGiven : Value → Bool
  | .null => false
  | .bool b => b
  | .int n => n != 0
  | .float (.finite _ mantissa _) => mantissa != 0
  | .float _ => true
  | .text s => s != ""
  | .bytes b => !b.isEmpty
  | .list items | .tuple items | .set items | .frozenset items => !items.isEmpty
  | .mapping entries => !entries.isEmpty
  | .member _ => true

def asText? : Value → Option String
  | .text s => some s
  | .member m => some m.value
  | _ => none

def entry? (entries : List (Value × Value)) (name : String) : Option Value :=
  (entries.find? fun entry => entry.1.asText? == some name).map Prod.snd

def items? : Value → Option (List Value)
  | .list items | .tuple items | .set items | .frozenset items => some items
  | .mapping entries => some (entries.map Prod.fst)
  | .bytes b => some (b.map fun x => .int x.toNat)
  | .text s => some (s.toList.map fun c => .text (String.singleton c))
  | .member m => some (m.value.toList.map fun c => .text (String.singleton c))
  | .null | .bool _ | .int _ | .float _ => none

def kindName : Value → String
  | .null => "NoneType"
  | .bool _ => "bool"
  | .int _ => "int"
  | .float _ => "float"
  | .text _ => "str"
  | .bytes _ => "bytes"
  | .list _ => "list"
  | .tuple _ => "tuple"
  | .set _ => "set"
  | .frozenset _ => "frozenset"
  | .mapping _ => "dict"
  | .member (.category _) => "ErrorCategory"
  | .member (.family _) => "DialectFamily"
  | .member (.logicalType _) => "LogicalColumnType"

end Value

/-- Lists, tables and what holds one cannot be looked up in a set; the kind that stands in the
way. -/
def Value.unhashable? : Value → Option Value
  | .list items => some (.list items)
  | .mapping entries => some (.mapping entries)
  | .tuple items => firstUnhashable? items
  | _ => none
where
  firstUnhashable? : List Value → Option Value
    | [] => none
    | .set items :: _ => some (.set items)
    | item :: items => item.unhashable?.or (firstUnhashable? items)

def Value.displayArguments : List Value → String
  | [] => ""
  | [v] => v.display
  | vs => (Value.tuple vs).literal

end ObjectCatalog
