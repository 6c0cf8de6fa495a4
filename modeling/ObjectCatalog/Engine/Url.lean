import ObjectCatalog.Decimal.Whole
import ObjectCatalog.Text.Percent
import ObjectCatalog.Text.Quoted
import ObjectCatalog.Text.Split
import ObjectCatalog.Text.WordChar

/-! # Database addresses

An address names a kind of database and optionally its driver, then a user with a password, a
host with a port, the database, and further options. All parts but the first may be missing. User,
password, database and options are percent-encoded.
-/
namespace ObjectCatalog

structure DatabaseUrl where
  /-- The kind of database, with the driver after a plus sign. -/
  scheme : String
  user : Option String
  password : Option String
  host : Option String
  port : Option Int
  database : Option String
  /-- The values of each option, in the order of first appearance. -/
  options : List (String × List String)
  deriving DecidableEq, Repr

namespace DatabaseUrl

inductive ReadError
  | malformed
  | portNotNumber (text : String)
  | portMissing
  deriving DecidableEq, Repr

def ReadError.message : ReadError → String
  | .malformed => "Could not parse SQLAlchemy URL from given URL string"
  | .portNotNumber text => "invalid literal for int() with base 10: " ++ Text.quote text
  | .portMissing => "Port argument must be an integer or None"

def isSchemeChar (c : Char) : Bool := Text.isWordChar c || c == '+'

/-- User and password at the front of a text, and what follows their at sign. A user without a
password ends at the last at sign before a colon or a slash. -/
def readUser (text : List Char) : Option (List Char) × Option (List Char) × List Char :=
  let before := text.takeWhile fun c => c != ':' && c != '/'
  match text.drop before.length with
  | ':' :: rest =>
    match rest.dropWhile (· != '@') with
    | _ :: host => (some before, some (rest.takeWhile (· != '@')), host)
    | [] => nameOnly before
  | _ => nameOnly before
where
  nameOnly (before : List Char) : Option (List Char) × Option (List Char) × List Char :=
    match before.reverse.dropWhile (· != '@') with
    | _ :: name => (some name.reverse, none, text.drop (name.length + 1))
    | [] => (none, none, text)

def bracketed? (text : List Char) : Option (List Char × List Char) :=
  match text with
  | '[' :: inside =>
    let reach := inside.takeWhile fun c => c != '/' && c != '?'
    match reach.reverse.dropWhile (· != ']') with
    | _ :: c :: host => some ((c :: host).reverse, inside.drop (host.length + 2))
    | _ => none
  | _ => none

def readHost (text : List Char) : List Char × List Char :=
  match bracketed? text with
  | some found => found
  | none =>
    let host := text.takeWhile fun c => c != '/' && c != ':' && c != '?'
    (host, text.drop host.length)

def readPort (text : List Char) : Option (List Char) × List Char :=
  match text with
  | ':' :: rest =>
    (some (rest.takeWhile fun c => c != '/' && c != '?'),
      rest.dropWhile fun c => c != '/' && c != '?')
  | text => (none, text)

def readDatabase (text : List Char) : Option (List Char) × List Char :=
  match text with
  | '/' :: rest => (some (rest.takeWhile (· != '?')), rest.dropWhile (· != '?'))
  | text => (none, text)

def addOption (options : List (String × List String)) (name value : String) :
    List (String × List String) :=
  if options.any (·.1 == name) then
    options.map fun o => if o.1 == name then (name, o.2 ++ [value]) else o
  else options ++ [(name, [value])]

def readOptions (text : List Char) : List (String × List String) :=
  match text with
  | '?' :: rest =>
    let fields := (Text.split '&' (rest.takeWhile (· != '\n'))).filterMap Text.formField?
    fields.foldl (fun options (name, value) => addOption options name value) []
  | _ => []

def portOfText (text : Option (List Char)) : Except ReadError (Option Int) :=
  match text with
  | none => .ok none
  | some [] => .error .portMissing
  | some digits =>
    match Decimal.whole? digits with
    | some port => .ok (some port)
    | none => .error (.portNotNumber (String.ofList digits))

def decoded (text : Option (List Char)) : Option String :=
  text.map fun text => String.ofList (Text.percentDecode text)

def ofText (text : String) : Except ReadError DatabaseUrl :=
  let scheme := text.toList.takeWhile isSchemeChar
  match scheme, text.toList.drop scheme.length with
  | _ :: _, ':' :: '/' :: '/' :: rest => do
    let (user, password, rest) := readUser rest
    let (host, rest) := readHost rest
    let (port, rest) := readPort rest
    let (database, rest) := readDatabase rest
    return {
      scheme := String.ofList scheme
      user := decoded user
      password := decoded password
      host := if host.isEmpty then none else some (String.ofList host)
      port := ← portOfText port
      database := decoded database
      options := readOptions rest }
  | _, _ => .error .malformed

/-! ## Writing -/

def encoded (isSafe : Char → Bool) (text : String) : String :=
  String.ofList (Text.percentEncode isSafe text.toList)

def isNameSafe (c : Char) : Bool := c == ' ' || c == '+'

def isPathSafe (c : Char) : Bool := isNameSafe c || c == '/'

def userText (u : DatabaseUrl) : String :=
  match u.user with
  | none => ""
  | some user =>
    encoded isNameSafe user ++ (if u.password.isSome then ":***" else "") ++ "@"

def hostText (u : DatabaseUrl) : String :=
  match u.host with
  | none => ""
  | some host => if host.toList.contains ':' then "[" ++ host ++ "]" else host

def optionsText (u : DatabaseUrl) : String :=
  let named := u.options.mergeSort fun a b => a.1 ≤ b.1
  let fields := named.flatMap fun (name, values) =>
    values.map fun value => Text.formEncode name ++ "=" ++ Text.formEncode value
  if fields.isEmpty then "" else "?" ++ String.intercalate "&" fields

def text (u : DatabaseUrl) : String :=
  u.scheme ++ "://" ++ u.userText ++ u.hostText ++
    ((u.port.map fun port => ":" ++ toString port).getD "") ++
    ((u.database.map fun name => "/" ++ encoded isPathSafe name).getD "") ++ u.optionsText

def namesServer (u : DatabaseUrl) : Bool :=
  u.user.getD "" != "" || u.password.getD "" != "" || u.host.isSome || u.port.getD 0 != 0

end DatabaseUrl

end ObjectCatalog
