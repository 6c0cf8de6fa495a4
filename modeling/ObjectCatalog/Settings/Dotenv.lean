import ObjectCatalog.Text.Blank

/-! # Environment files

Lines that bind a name to a value. A line may begin with the word export, blanks may surround the
equals sign, and a number sign begins a comment at the start of a line or after a blank. Values
stand bare up to the end of the line, or in quotes, where they may go over several lines and hold
escapes. Where a line cannot be read further, the rest of it is passed over. A value may refer to
variables by name in braces after a dollar sign, with a default after a colon and a dash.

A byte order mark in front does not count, and every kind of line break is a line feed.
-/
namespace ObjectCatalog.Dotenv

structure Binding where
  name : String
  value : Option String
  deriving DecidableEq, Repr

def dropMark : List Char → List Char
  | [] => []
  | c :: rest => if c.toNat == 0xfeff then rest else c :: rest

/-- A carriage return is a line break, with the line feed after it if there is one. -/
def unifyBreaks : List Char → List Char
  | [] => []
  | '\r' :: '\n' :: rest => '\n' :: unifyBreaks rest
  | '\r' :: rest => '\n' :: unifyBreaks rest
  | c :: rest => c :: unifyBreaks rest

def isGap (c : Char) : Bool := Text.isBlank c && c != '\n'

def skipGap (text : List Char) : List Char := text.dropWhile isGap

/-- What is read at the front of a text and what follows it, or the text from where it could not
be read. -/
abbrev Reading (α : Type) := Except (List Char) (α × List Char)

def toLineEnd (text : List Char) : List Char := text.dropWhile (· != '\n')

def dropComment (text : List Char) : List Char :=
  match skipGap text with
  | '#' :: rest => toLineEnd rest
  | _ => text

def endOfLine (text : List Char) : Reading Unit :=
  match skipGap text with
  | [] => .ok ((), [])
  | '\n' :: rest => .ok ((), rest)
  | _ => .error text

def exportWord : List Char := "export".toList

def dropExport (text : List Char) : List Char :=
  if exportWord.isPrefixOf text then
    let rest := text.drop exportWord.length
    match rest with
    | c :: _ => if isGap c then skipGap rest else text
    | [] => text
  else text

/-- The inside of quotes and what follows them. A quote after a backslash does not end the
value, unless no other one does. -/
def quoted? (mark : Char) : List Char → Option (List Char × List Char)
  | [] => none
  | '\\' :: c :: rest =>
    if c == mark then
      match quoted? mark rest with
      | some (inside, after) => some ('\\' :: c :: inside, after)
      | none => some (['\\'], rest)
    else (quoted? mark (c :: rest)).map fun (inside, after) => ('\\' :: inside, after)
  | c :: rest =>
    if c == mark then some ([], rest)
    else (quoted? mark rest).map fun (inside, after) => (c :: inside, after)

def singleEscape (c : Char) : Option Char :=
  if c == '\\' || c == '\'' then some c else none

def doubleEscape (c : Char) : Option Char :=
  match c with
  | '\\' | '\'' | '"' => some c
  | 'a' => some (Char.ofNat 7)
  | 'b' => some (Char.ofNat 8)
  | 'f' => some (Char.ofNat 12)
  | 'n' => some '\n'
  | 'r' => some '\r'
  | 't' => some '\t'
  | 'v' => some (Char.ofNat 11)
  | _ => none

def unescape (escape : Char → Option Char) : List Char → List Char
  | '\\' :: c :: rest =>
    match escape c with
    | some meant => meant :: unescape escape rest
    | none => '\\' :: unescape escape (c :: rest)
  | c :: rest => c :: unescape escape rest
  | [] => []

def cutComment : List Char → List Char
  | [] => []
  | c :: rest =>
    if Text.isBlank c && (Text.trimStart rest).head? == some '#' then [] else c :: cutComment rest

def quotedValue (mark : Char) (escape : Char → Option Char) (text : List Char) :
    Reading (List Char) :=
  match quoted? mark text with
  | some (inside, after) => .ok (unescape escape inside, after)
  | none => .error (mark :: text)

def readValue (text : List Char) : Reading (List Char) :=
  match text with
  | '\'' :: rest => quotedValue '\'' singleEscape rest
  | '"' :: rest => quotedValue '"' doubleEscape rest
  | text => .ok (Text.trimEnd (cutComment (text.takeWhile (· != '\n'))), toLineEnd text)

def endsName (c : Char) : Bool := c == '=' || c == '#' || Text.isBlank c

def readName (text : List Char) : Reading (Option (List Char)) :=
  match text with
  | '#' :: _ => .ok (none, text)
  | '\'' :: rest =>
    let name := rest.takeWhile (· != '\'')
    match name, rest.drop name.length with
    | _ :: _, _ :: after => .ok (some name, after)
    | _, _ => .error text
  | text =>
    let name := text.takeWhile fun c => !endsName c
    if name.isEmpty then .error text else .ok (some name, text.drop name.length)

def readLine (text : List Char) : Except (List Char) (Option Binding × List Char) := do
  let (name, rest) ← readName (dropExport text)
  let (value, rest) ← match skipGap rest with
    | '=' :: after => (readValue (skipGap after)).map fun (v, after) => (some v, after)
    | rest => .ok (none, rest)
  let (_, rest) ← endOfLine (dropComment rest)
  return (name.map fun n => ⟨String.ofList n, value.map String.ofList⟩, rest)

def bindings (text : List Char) : List Binding :=
  let start := Text.trimStart text
  if start.isEmpty then []
  else
    let (binding, rest) := match readLine start with
      | .ok (binding, rest) => (binding.toList, rest)
      | .error rest => ([], (toLineEnd rest).drop 1)
    if rest.length < text.length then binding ++ bindings rest else binding
termination_by text.length

def reference? (text : List Char) : Option (List Char × List Char × List Char) :=
  let name := text.takeWhile fun c => c.toNat != 0x7d && c != ':'
  match text.drop name.length with
  | ':' :: '-' :: rest =>
    let fallback := rest.takeWhile fun c => c.toNat != 0x7d
    match rest.drop fallback.length with
    | _ :: after => some (name, fallback, after)
    | [] => none
  | c :: after => if c.toNat == 0x7d then some (name, [], after) else none
  | [] => none

/-- Replaces variables by their values; one that is empty or unset by its default or nothing. The
first `skip` characters belong to a variable already replaced. -/
def expandFrom (lookup : String → Option (Option String)) : (skip : Nat) → List Char → List Char
  | _, [] => []
  | skip + 1, _ :: rest => expandFrom lookup skip rest
  | 0, c :: rest =>
    match c, rest with
    | '$', brace :: inside =>
      if brace.toNat == 0x7b then
        match reference? inside with
        | some (name, fallback, after) =>
          let found := match lookup (String.ofList name) with
            | some value => (value.getD "").toList
            | none => fallback
          found ++ expandFrom lookup (rest.length - after.length) rest
        | none => c :: expandFrom lookup 0 rest
      else c :: expandFrom lookup 0 rest
    | _, _ => c :: expandFrom lookup 0 rest

def put (entries : List (String × Option String)) (name : String) (value : Option String) :
    List (String × Option String) :=
  if entries.any (·.1 == name) then
    entries.map fun e => if e.1 == name then (name, value) else e
  else entries ++ [(name, value)]

/-- The variables of a file; values may refer to earlier ones and to the environment. -/
def values (environment : List (String × String)) (text : String) :
    List (String × Option String) :=
  (bindings (unifyBreaks (dropMark text.toList))).foldl (fun entries b =>
    let lookup (name : String) : Option (Option String) :=
      match entries.lookup name with
      | some value => some value
      | none => (environment.lookup name).map some
    put entries b.name (b.value.map fun v => String.ofList (expandFrom lookup 0 v.toList))) []

end ObjectCatalog.Dotenv
