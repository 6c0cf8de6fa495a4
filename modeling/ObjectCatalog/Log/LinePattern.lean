import ObjectCatalog.Text.DecimalDigit
import ObjectCatalog.Text.WordChar

/-! # Patterns of lines

A pattern for lines is accepted if it has at least one directive with a named attribute: a percent
sign, a name in parentheses, flags, a width, a precision and the letter of a conversion.
-/
namespace ObjectCatalog.LinePattern

/-- The letter of a conversion, in either case; the dotted and dotless i and the long s fold to
letters of conversions. -/
def isConversion (c : Char) : Bool :=
  "diouxefgcrsa%".toList.contains c.toLower || c.toNat == 0x130 || c.toNat == 0x131 ||
    c.toNat == 0x17f

def isFlag (c : Char) : Bool := ['#', '0', '+', ' ', '-'].contains c

def extent? : List Char → Option (List Char)
  | [] => none
  | c :: text =>
    if c == '*' then some text
    else if Text.isDecimalDigit c then some (text.dropWhile Text.isDecimalDigit) else none

def endsDirective (text : List Char) : Bool :=
  let afterFlags := text.dropWhile isFlag
  let afterWidth := (extent? afterFlags).getD afterFlags
  let rest := match afterWidth with
    | '.' :: precision => extent? precision
    | rest => some rest
  match rest with
  | some (c :: _) => isConversion c
  | _ => false

def startsDirective : List Char → Bool
  | '%' :: '(' :: text =>
    !(text.takeWhile Text.isWordChar).isEmpty &&
      match text.dropWhile Text.isWordChar with
      | ')' :: rest => endsDirective rest
      | _ => false
  | _ => false

def hasDirective : List Char → Bool
  | [] => false
  | c :: text => startsDirective (c :: text) || hasDirective text

structure Refused where
  pattern : String
  deriving DecidableEq

def Refused.message (e : Refused) : String := "Invalid format '" ++ e.pattern ++ "' for '%' style"

/-- An absent pattern, and an empty one, stand for the usual one. -/
def check (pattern : Option String) : Except Refused Unit :=
  match pattern with
  | none | some "" => .ok ()
  | some text => if hasDirective text.toList then .ok () else .error ⟨text⟩

end ObjectCatalog.LinePattern
