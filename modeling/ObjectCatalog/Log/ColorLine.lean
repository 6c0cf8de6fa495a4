import ObjectCatalog.Log.Record

/-! # Records as coloured lines

For a terminal: time, severity, logger, transaction and message between bars, the extras as pairs
behind the message, and the failure on the lines below. Only the severity has a colour.
-/
namespace ObjectCatalog

namespace ColorLine

def escape (code : String) : String := String.singleton (Char.ofNat 27) ++ "[" ++ code ++ "m"

def colorOf (severity : String) : String :=
  match severity with
  | "DEBUG" => escape "1;36;47"
  | "INFO" => escape "32"
  | "WARNING" => escape "33"
  | "ERROR" => escape "31"
  | "CRITICAL" => escape "1;41"
  | _ => ""

def reset : String := escape "0"

def pad (width : Nat) (text : String) : String :=
  text ++ String.ofList (List.replicate (width - text.length) ' ')

/-- The text of a transaction identifier; truth values count as numbers. -/
def identifier : Value → Except LineError String
  | .bool b => .ok (if b then "1" else "0")
  | .int n => .ok (toString n)
  | .float x => .ok x.text
  | .text s => .ok s
  | .member m => .ok m.label
  | v => .error (.unaligned v.kindName)

def isExtra (name : String) : Bool :=
  !Record.ownNames.contains name && name != Record.transactionKey && !Record.isHidden name

def extraTexts (r : Record) : List String :=
  (r.extras.filter fun (name, _) => isExtra name).map fun (name, v) => name ++ "=" ++ v.display

def write (timePattern : String) (r : Record) : Except LineError String := do
  let time ← (r.timestamp timePattern).mapError LineError.time
  let id ← identifier r.transaction
  let message ← r.message.mapError LineError.message
  let line := String.intercalate " | "
    [time, colorOf r.severity ++ pad 10 r.severity ++ reset, pad 30 r.logger, pad 10 id, message]
  let extras := String.join ((extraTexts r).map fun extra => " " ++ extra)
  let failure := match r.failure with
    | some raised => "\n" ++ Record.describeRaised raised
    | none => ""
  return line ++ extras ++ failure

end ColorLine

end ObjectCatalog
