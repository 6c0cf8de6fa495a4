import ObjectCatalog.Value.Basic

/-! # Values as JSON

Members of the closed sets are written as their values, tuples as arrays. Bytes and sets have no
JSON form of their own; they are written as whatever text is made of them, or not at all. Keys are
texts, or numbers, truth values and nothing, which become texts; any other key stands in the way of
its mapping. The text has no line break and no other control character, since strings escape all
of them.
-/
namespace ObjectCatalog.Json

def shortEscape (code : Nat) : Option Char :=
  if code == 0x22 then some '"' else if code == 0x5c then some '\\'
  else if code == 0x0a then some 'n' else if code == 0x0d then some 'r'
  else if code == 0x09 then some 't' else if code == 0x0c then some 'f'
  else if code == 0x08 then some 'b' else none

def escapeChar (c : Char) : List Char :=
  match shortEscape c.toNat with
  | some letter => ['\\', letter]
  | none => if c.toNat < 0x20 then '\\' :: 'u' :: Text.hexDigits 4 c.toNat else [c]

def encodeText (text : String) : String :=
  String.ofList ('"' :: text.toList.flatMap escapeChar ++ ['"'])

def encodeFloat : Binary64 → String
  | .nan => "NaN"
  | .infinite negative => if negative then "-Infinity" else "Infinity"
  | x => x.text

def encodeArray (items : List String) : String := "[" ++ Value.commaSeparated items ++ "]"

def encodeObject (members : List String) : String :=
  "\x7b" ++ Value.commaSeparated members ++ "\x7d"

def encodeMember (key value : String) : String := encodeText key ++ ": " ++ value

inductive Unwritable
  | key (kind : String)
  | value (kind : String)
  deriving DecidableEq

def Unwritable.message : Unwritable → String
  | .key kind => "keys must be str, int, float, bool or None, not " ++ kind
  | .value kind => "Object of type " ++ kind ++ " is not JSON serializable"

def keyName : Value → Except Unwritable String
  | .text s => .ok s
  | .member m => .ok m.value
  | .null => .ok "null"
  | .bool b => .ok (if b then "true" else "false")
  | .int n => .ok (toString n)
  | .float x => .ok (encodeFloat x)
  | key => .error (.key key.kindName)

/-- Values without a form of their own are written as texts, if something makes texts of them. -/
def encodeFormless (fallback : Option (Value → String)) (v : Value) : Except Unwritable String :=
  match fallback with
  | some text => .ok (encodeText (text v))
  | none => .error (.value v.kindName)

variable (fallback : Option (Value → String))

mutual

def encode : Value → Except Unwritable String
  | .null => .ok "null"
  | .bool b => .ok (if b then "true" else "false")
  | .int n => .ok (toString n)
  | .float x => .ok (encodeFloat x)
  | .text s => .ok (encodeText s)
  | .member m => .ok (encodeText m.value)
  | .list items | .tuple items => do return encodeArray (← encodeAll items)
  | .mapping entries => do return encodeObject (← encodeEntries entries)
  | .bytes b => encodeFormless fallback (.bytes b)
  | .set items => encodeFormless fallback (.set items)
  | .frozenset items => encodeFormless fallback (.frozenset items)

def encodeAll : List Value → Except Unwritable (List String)
  | [] => .ok []
  | item :: items => do return (← encode item) :: (← encodeAll items)

def encodeEntries : List (Value × Value) → Except Unwritable (List String)
  | [] => .ok []
  | (key, item) :: entries => do
    return encodeMember (← keyName key) (← encode item) :: (← encodeEntries entries)

end

end ObjectCatalog.Json
