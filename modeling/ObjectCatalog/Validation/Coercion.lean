import ObjectCatalog.Path.Basic
import ObjectCatalog.Text.Blank
import ObjectCatalog.Text.Utf8
import ObjectCatalog.Validation.Issue
import ObjectCatalog.Value.Basic

/-! # Reading values as the types of fields

Settings arrive as texts from the environment and as values of any kind from callers, so each
type accepts whatever plainly means one of its values: texts may come as bytes, and truth values
and integers as texts or as other numbers.
-/
namespace ObjectCatalog.Coercion

/-! ## Texts -/

def text? (v : Value) (encoding : Issue) : Except Issue (Option String) :=
  match v with
  | .bytes b =>
    match Text.decodeUtf8 b with
    | .ok cs => .ok (some (String.ofList cs))
    | .error _ => .error encoding
  | v => .ok v.asText?

def text (v : Value) : Except Issue String := do
  match ← text? v .textEncoding with
  | some s => .ok s
  | none => .error .textType

def optionalText (v : Value) : Except Issue (Option String) :=
  match v with
  | .null => .ok none
  | v => (text v).map some

/-! ## Truth values -/

def trueTexts : List String := ["1", "on", "t", "true", "y", "yes"]
def falseTexts : List String := ["0", "off", "f", "false", "n", "no"]

def boolOfText (s : String) : Except Issue Bool :=
  let lowered := String.ofList (s.toList.map Char.toLower)
  if trueTexts.contains lowered then .ok true
  else if falseTexts.contains lowered then .ok false
  else .error .boolParsing

/-- Numbers outside a machine word are not read as truth values, nor as integers if they are
floating-point numbers. The least word is outside for those. -/
def wordBound : Int := 9223372036854775808

def boolOfInt (n : Int) : Except Issue Bool :=
  if n = 0 then .ok false else if n = 1 then .ok true else .error .boolParsing

def wordOfFloat? (x : Binary64) : Option Int :=
  x.toInt?.filter fun n => -wordBound < n && n < wordBound

def bool (v : Value) : Except Issue Bool := do
  match v with
  | .bool b => .ok b
  | .int n => if -wordBound ≤ n && n < wordBound then boolOfInt n else .error .boolType
  | .float x =>
    match wordOfFloat? x with
    | some n => boolOfInt n
    | none => .error .boolType
  | v =>
    match ← text? v .boolParsing with
    | some s => boolOfText s
    | none => .error .boolType

/-! ## Integers -/

def isPadding (c : Char) : Bool := Text.isBlank c && !(0x1c ≤ c.toNat && c.toNat ≤ 0x1f)

def stripPadding (text : List Char) : List Char :=
  Text.dropEndWhile isPadding (text.dropWhile isPadding)

def dropPlus? : List Char → Option (List Char)
  | '+' :: '-' :: _ => none
  | '+' :: rest => some rest
  | text => some text

def isZeroOrUnderscore (c : Char) : Bool := c == '0' || c == '_'

/-- Leaves off leading zeros and the underscores among them. The last of them stays where no
digit follows. A minus sign keeps the zeros after it. -/
def dropZeros? : List Char → Option (List Char)
  | [] => none
  | c :: rest =>
    if c == '0' then
      let zeros := c :: rest.takeWhile isZeroOrUnderscore
      let rest := rest.dropWhile isZeroOrUnderscore
      match rest with
      | [] => some (zeros.drop (zeros.length - 1))
      | '.' :: _ => some (zeros.drop (zeros.length - 1) ++ rest)
      | d :: _ => if d.isDigit then some rest else none
    else if c.isDigit || c == '-' then some (c :: rest) else none

def dropZeroFraction (text : List Char) : List Char :=
  match text.dropWhile (· != '.') with
  | _ :: '0' :: rest => if rest.all (· == '0') then text.takeWhile (· != '.') else text
  | _ => text

def hasDoubleUnderscore : List Char → Bool
  | [] => false
  | c :: rest => c == '_' && rest.head? == some '_' || hasDoubleUnderscore rest

def dropUnderscores (text : List Char) : List Char :=
  if text.head? == some '_' || text.getLast? == some '_' || hasDoubleUnderscore text then text
  else text.filter (· != '_')

def digitLimit : Nat := 4300

def natOfText (text : List Char) : Except Issue Nat :=
  match text with
  | [] => .error .intParsing
  | '0' :: rest => if rest.isEmpty then .ok 0 else .error .intParsing
  | text =>
    let digits := text.takeWhile Char.isDigit
    if digitLimit < digits.length then .error .intTooLong
    else if digits.isEmpty || digits.length != text.length then .error .intParsing
    else .ok (Decimal.natOfDigits digits)

/-- An integer, around which blanks may stand, with an optional sign, leading zeros, underscores
between digits and a fraction of zeros. -/
def intOfText (s : String) : Except Issue Int :=
  match dropPlus? (stripPadding s.toList) >>= dropZeros? with
  | none => .error .intParsing
  | some text =>
    match dropUnderscores (dropZeroFraction text) with
    | '-' :: digits => (natOfText digits).map fun n => -(n : Int)
    | digits => (natOfText digits).map Int.ofNat

def intOfFloat (x : Binary64) : Except Issue Int :=
  if !x.isFinite then .error .finiteNumber
  else if x.toInt?.isNone then .error .intFromFraction
  else
    match wordOfFloat? x with
    | some n => .ok n
    | none => .error .intTooLong

def int (v : Value) : Except Issue Int := do
  match v with
  | .int n => .ok n
  | .bool b => .ok (if b then 1 else 0)
  | .float x => intOfFloat x
  | v =>
    match ← text? v .intParsing with
    | some s => intOfText s
    | none => .error .intType

/-! ## Paths and words -/

def path (v : Value) : Except Issue PathName :=
  match v.asText? with
  | some s => .ok (PathName.ofText s)
  | none => .error .pathType

def optionalPath (v : Value) : Except Issue (Option PathName) :=
  match v with
  | .null => .ok none
  | v => (path v).map some

def literal (allowed : List (String × α)) (v : Value) : Except Issue α :=
  match v with
  | .text s =>
    match allowed.lookup s with
    | some a => .ok a
    | none => .error (.literal (allowed.map (·.1)))
  | _ => .error (.literal (allowed.map (·.1)))

end ObjectCatalog.Coercion
