import ObjectCatalog.Toml.Error

/-! # Words of a TOML text

Readers for blanks, comments, strings and keys. Each reads what it is named for at the front of a
text and gives the rest. Control characters stand nowhere but tabs in strings and comments, and
line breaks in strings of several lines. The recursion of a reader that goes on after an escape or
a point is bounded by the length of its text.
-/
namespace ObjectCatalog.Toml

def refuse (cause : Cause) (text : List Char) : Except Fault α := .error ⟨cause, text.length⟩

/-! ## Blanks and comments -/

def isSpace (c : Char) : Bool := c == ' ' || c == '\t'

def isSpaceOrBreak (c : Char) : Bool := isSpace c || c == '\n'

def skipSpace (text : List Char) : List Char := text.dropWhile isSpace

def isControl (c : Char) : Bool := c.toNat < 0x20 || c.toNat == 0x7f

def isIllegal (severalLines : Bool) (c : Char) : Bool :=
  isControl c && c != '\t' && !(severalLines && c == '\n')

def skipComment (text : List Char) : Except Fault (List Char) :=
  match text with
  | '#' :: comment =>
    match comment.dropWhile fun c => !isIllegal false c with
    | [] => .ok []
    | c :: rest => if c == '\n' then .ok (c :: rest) else refuse (.invalidCharacter c) (c :: rest)
  | _ => .ok text

def skipLines : (fuel : Nat) → List Char → Except Fault (List Char)
  | 0, text => .ok text
  | fuel + 1, text =>
    match text.dropWhile isSpaceOrBreak with
    | '#' :: comment => skipComment ('#' :: comment) >>= skipLines fuel
    | rest => .ok rest

/-! ## Literal strings -/

def apostrophe : Char := Text.singleQuote

def quotation : Char := Text.doubleQuote

def literalLine (text : List Char) : Except Fault (List Char × List Char) :=
  if !text.contains apostrophe then refuse (.missingDelimiter (String.singleton apostrophe)) []
  else
    match text.dropWhile fun c => c != apostrophe && !isIllegal false c with
    | [] => refuse .unterminated []
    | c :: rest =>
      if c == apostrophe then
        .ok (text.takeWhile fun c => c != apostrophe && !isIllegal false c, rest)
      else refuse (.invalidCharacter c) (c :: rest)

def startsWithThree (c : Char) (text : List Char) : Bool := text.take 3 == [c, c, c]

def splitAtThree : List Char → Option (List Char × List Char)
  | [] => none
  | c :: text =>
    if startsWithThree apostrophe (c :: text) then some ([], text.drop 2)
    else (splitAtThree text).map fun (body, rest) => (c :: body, rest)

/-- Up to two more delimiters after a string of several lines belong to it. -/
def takeDelimiters (delimiter : Char) (body text : List Char) : List Char × List Char :=
  let more := (text.take 2).takeWhile (· == delimiter)
  (body ++ more, text.drop more.length)

def dropFirstBreak : List Char → List Char
  | '\n' :: text => text
  | text => text

def literalLines (text : List Char) : Except Fault (List Char × List Char) :=
  match splitAtThree (dropFirstBreak text) with
  | none => refuse (.missingDelimiter (String.ofList [apostrophe, apostrophe, apostrophe])) []
  | some (body, rest) =>
    match body.dropWhile fun c => !isIllegal true c with
    | [] => .ok (takeDelimiters apostrophe body rest)
    | c :: after => .error ⟨.invalidCharacter c, after.length + 4 + rest.length⟩

/-! ## Strings with escapes -/

def simpleEscape (c : Char) : Option Char :=
  if c == 'b' then some (Char.ofNat 0x08) else if c == 't' then some '\t'
  else if c == 'n' then some '\n' else if c == 'f' then some (Char.ofNat 0x0c)
  else if c == 'r' then some '\r' else if c == quotation || c == '\\' then some c else none

def isHexDigit (c : Char) : Bool := (Text.hexValue? c).isSome

def numberOfDigits (base : Nat) (digits : List Char) : Nat :=
  digits.foldl (fun n c => n * base + (Text.hexValue? c).getD 0) 0

def codedCharacter (count : Nat) (text : List Char) : Except Fault (List Char × List Char) :=
  let digits := text.take count
  if digits.length != count || !digits.all isHexDigit then refuse .invalidHex text
  else if (numberOfDigits 16 digits).isValidChar then
    .ok ([Char.ofNat (numberOfDigits 16 digits)], text.drop count)
  else refuse .notScalar (text.drop count)

/-- What stands for an escape, after its backslash. In a string of several lines, a backslash at
the end of a line swallows the break and the blanks after it. -/
def escape (severalLines : Bool) : List Char → Except Fault (List Char × List Char)
  | [] => refuse .invalidEscape []
  | c :: text =>
    if severalLines && c == '\n' then .ok ([], text.dropWhile isSpaceOrBreak)
    else if severalLines && isSpace c then
      match skipSpace text with
      | [] => .ok ([], [])
      | '\n' :: rest => .ok ([], rest.dropWhile isSpaceOrBreak)
      | rest => refuse .invalidEscape rest
    else if c == 'u' then codedCharacter 4 text
    else if c == 'U' then codedCharacter 8 text
    else
      match simpleEscape c with
      | some written => .ok ([written], text)
      | none => refuse .invalidEscape text

def basicBody (severalLines : Bool) :
    (fuel : Nat) → List Char → Except Fault (List Char × List Char)
  | 0, text => refuse .unterminated text
  | _ + 1, [] => refuse .unterminated []
  | fuel + 1, c :: text =>
    if c == quotation && !severalLines then .ok ([], text)
    else if severalLines && startsWithThree quotation (c :: text) then .ok ([], text.drop 2)
    else if c == '\\' then do
      let (written, rest) ← escape severalLines text
      let (body, rest) ← basicBody severalLines fuel rest
      return (written ++ body, rest)
    else if isIllegal severalLines c then refuse (.illegalCharacter c) (c :: text)
    else do
      let (body, rest) ← basicBody severalLines fuel text
      return (c :: body, rest)

def basicLine (text : List Char) : Except Fault (List Char × List Char) :=
  basicBody false (text.length + 1) text

def basicLines (text : List Char) : Except Fault (List Char × List Char) := do
  let (body, rest) ← basicBody true (text.length + 1) (dropFirstBreak text)
  return takeDelimiters quotation body rest

/-! ## Keys -/

def isBareKeyChar (c : Char) : Bool := c.isAlphanum || c == '-' || c == '_'

def isKeyStart (c : Char) : Bool := isBareKeyChar c || c == apostrophe || c == quotation

def keyPart (text : List Char) : Except Fault (String × List Char) :=
  match text with
  | [] => refuse .keyStart []
  | c :: rest =>
    if isBareKeyChar c then
      .ok (String.ofList (text.takeWhile isBareKeyChar), text.dropWhile isBareKeyChar)
    else if c == apostrophe then do
      let (body, rest) ← literalLine rest
      return (String.ofList body, rest)
    else if c == quotation then do
      let (body, rest) ← basicLine rest
      return (String.ofList body, rest)
    else refuse .keyStart text

def keyPath : (fuel : Nat) → List Char → Except Fault (List String × List Char)
  | 0, text => refuse .keyStart text
  | fuel + 1, text => do
    let (part, rest) ← keyPart text
    match skipSpace rest with
    | '.' :: rest =>
      let (parts, rest) ← keyPath fuel (skipSpace rest)
      return (part :: parts, rest)
    | rest => return ([part], rest)

def key (text : List Char) : Except Fault (List String × List Char) :=
  keyPath (text.length + 1) text

end ObjectCatalog.Toml
