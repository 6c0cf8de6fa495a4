import ObjectCatalog.Text.Utf8
import ObjectCatalog.Toml.Document
import ObjectCatalog.Toml.Scalar

/-! # Reading TOML

A text is a sequence of statements, each on a line: headers of tables, headers of arrays of
tables, and keys with values. Tables that dotted keys make count as declared from the next header
on. The first fault ends the reading.
-/
namespace ObjectCatalog.Toml

/-! ## Values -/

mutual

def readValue : (fuel : Nat) → List Char → Except Fault (Value × List Char)
  | 0, text => refuse .invalidValue text
  | _ + 1, [] => refuse .invalidValue []
  | fuel + 1, c :: text =>
    if c == quotation then do
      let (body, rest) ← if startsWithThree quotation (c :: text) then basicLines (text.drop 2)
        else basicLine text
      return (.text (String.ofList body), rest)
    else if c == apostrophe then do
      let (body, rest) ← if startsWithThree apostrophe (c :: text) then literalLines (text.drop 2)
        else literalLine text
      return (.text (String.ofList body), rest)
    else if (c :: text).take 4 == ['t', 'r', 'u', 'e'] then .ok (.bool true, text.drop 3)
    else if (c :: text).take 5 == ['f', 'a', 'l', 's', 'e'] then .ok (.bool false, text.drop 4)
    else if c == '[' then do
      match ← skipLines text.length text with
      | ']' :: rest => return (.list [], rest)
      | rest =>
        let (items, rest) ← readItems fuel rest
        return (.list items, rest)
    else if c == '\x7b' then
      match skipSpace text with
      | '\x7d' :: rest => .ok (.table [], rest)
      | rest => do
        let (members, rest) ← readMembers fuel [] rest
        return (.table (memberValues members), rest)
    else scalar (c :: text)

def readItems : (fuel : Nat) → List Char → Except Fault (List Value × List Char)
  | 0, text => refuse .unclosedArray text
  | fuel + 1, text => do
    let (item, rest) ← readValue fuel text
    match ← skipLines rest.length rest with
    | ']' :: rest => return ([item], rest)
    | ',' :: rest =>
      match ← skipLines rest.length rest with
      | ']' :: rest => return ([item], rest)
      | rest =>
        let (items, rest) ← readItems fuel rest
        return (item :: items, rest)
    | rest => refuse .unclosedArray rest

def readMembers : (fuel : Nat) → Members → List Char → Except Fault (Members × List Char)
  | 0, _, text => refuse .unclosedInlineTable text
  | fuel + 1, members, text => do
    let (path, rest) ← key text
    match rest with
    | '=' :: rest =>
      let (v, rest) ← readValue fuel (skipSpace rest)
      if members.isClosed path then refuse (.closed path) rest
      let name := path.getLast?.getD ""
      match members.changeAt .ok path.dropLast with
      | .error _ => refuse .occupied rest
      | .ok _ =>
        match members.changeAt (Members.insert name v) path.dropLast with
        | .error _ => refuse (.duplicate name) rest
        | .ok members =>
          match skipSpace rest with
          | '\x7d' :: rest => return (members, rest)
          | ',' :: rest => readMembers fuel members (skipSpace rest)
          | rest => refuse .unclosedInlineTable rest
    | _ => refuse .missingEquals rest

end

/-! ## Statements -/

/-- What has been read so far: the tables, the path of the last header, and the tables that
dotted keys have made since. -/
structure Progress where
  root : Members
  header : Path
  opened : List Path

def Progress.empty : Progress := ⟨[], [], []⟩

/-- The tables that a dotted key leads through, by the header and the parts of the key. -/
def pathsTo (header path : Path) : List Path :=
  (List.range (path.length - 1)).map fun n => header ++ path.take (n + 1)

def readPair (p : Progress) (text : List Char) : Except Fault (Progress × List Char) := do
  let (path, rest) ← key text
  match rest with
  | '=' :: rest =>
    let (v, rest) ← readValue (2 * rest.length + 2) (skipSpace rest)
    let parent := p.header ++ path.dropLast
    match (pathsTo p.header path).find? fun path => p.root.isDeclared path with
    | some declared => refuse (.redefined declared) rest
    | none =>
      if p.root.isClosed parent then refuse (.closed parent) rest
      match p.root.changeAt (Members.insert (path.getLast?.getD "") v) parent with
      | .error _ => refuse .occupied rest
      | .ok root =>
        return ({ p with root, opened := p.opened ++ pathsTo p.header path }, rest)
  | _ => refuse .missingEquals rest

/-- Dotted keys cannot add to the tables they made any more. -/
def Progress.close (p : Progress) : Progress :=
  { p with root := p.opened.foldl (fun root path => root.markDeclared path) p.root, opened := [] }

def readTableHeader (p : Progress) (text : List Char) : Except Fault (Progress × List Char) := do
  let (path, rest) ← key (skipSpace text)
  if p.root.isDeclared path || p.root.isClosed path then refuse (.declaredTwice path) rest
  match p.root.changeAt (Members.declare (path.getLast?.getD "")) path.dropLast with
  | .error _ => refuse .occupied rest
  | .ok root =>
    match rest with
    | ']' :: rest => return ({ p with root, header := path }, rest)
    | _ => refuse .tableEnd rest

def readArrayHeader (p : Progress) (text : List Char) : Except Fault (Progress × List Char) := do
  let (path, rest) ← key (skipSpace text)
  if p.root.isClosed path then refuse (.closed path) rest
  match p.root.changeAt (Members.extend (path.getLast?.getD "")) path.dropLast with
  | .error _ => refuse .occupied rest
  | .ok root =>
    match rest with
    | ']' :: ']' :: rest => return ({ p with root, header := path }, rest)
    | _ => refuse .arrayOfTablesEnd rest

def readStatement (p : Progress) (text : List Char) : Except Fault (Progress × List Char) :=
  match text with
  | [] => .ok (p, [])
  | '[' :: '[' :: rest => readArrayHeader p.close rest
  | '[' :: rest => readTableHeader p.close rest
  | c :: _ =>
    if isKeyStart c then readPair p text
    else if c == '#' then .ok (p, text)
    else refuse .invalidStatement text

def readStatements : (fuel : Nat) → Progress → List Char → Except Fault Members
  | 0, p, _ => .ok p.root
  | fuel + 1, p, text =>
    match skipSpace text with
    | [] => .ok p.root
    | '\n' :: rest => readStatements fuel p rest
    | text => do
      let (p, rest) ← readStatement p text
      match ← skipComment (skipSpace rest) with
      | [] => return p.root
      | '\n' :: rest => readStatements fuel p rest
      | rest => refuse .statementEnd rest

/-! ## Documents -/

def normalizeBreaks : List Char → List Char
  | [] => []
  | '\r' :: '\n' :: text => '\n' :: normalizeBreaks text
  | c :: text => c :: normalizeBreaks text

inductive ReadError
  | encoding (e : Text.Utf8Error)
  | malformed (message : String)
  | tooManyDigits (count : Nat)
  deriving DecidableEq

/-- A number that is too long is not a fault of the text, and is reported without its place. -/
def ReadError.ofFault (source : List Char) (fault : Fault) : ReadError :=
  match fault.cause with
  | .tooManyDigits count => .tooManyDigits count
  | _ => .malformed (fault.message source)

def readText (text : List Char) : Except ReadError Value :=
  let source := normalizeBreaks text
  match readStatements (source.length + 1) .empty source with
  | .ok members => .ok (.table (memberValues members))
  | .error fault => .error (.ofFault source fault)

def readBytes (bytes : List UInt8) : Except ReadError Value := do
  readText (← (Text.decodeUtf8 bytes).mapError ReadError.encoding)

end ObjectCatalog.Toml
