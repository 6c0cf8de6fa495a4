import ObjectCatalog.Text.Blank
import ObjectCatalog.Text.DecimalDigit

/-! # Whole numbers as people write them

Digits of any script, with single underscores between them, a sign in front, and blanks around.
-/
namespace ObjectCatalog.Decimal

/-- The value of a decimal digit. Those from U+0080 on stand in runs of ten. -/
def digitValue? (c : Char) : Option Nat :=
  if c.isDigit then some (c.toNat - 0x30)
  else
    (Text.decimalDigitRanges.find? fun range => range.1 ≤ c.toNat && c.toNat ≤ range.2).map
      fun range => (c.toNat - range.1) % 10

/-- Reads digits onto a number; `between` tells whether a digit has just been read. -/
def readDigits (between : Bool) (n : Nat) : List Char → Option Nat
  | [] => if between then some n else none
  | c :: text =>
    if c == '_' then if between then readDigits false n text else none
    else
      match digitValue? c with
      | some digit => readDigits true (10 * n + digit) text
      | none => none

def whole? (text : List Char) : Option Int :=
  match Text.trim text with
  | '-' :: digits => (readDigits false 0 digits).map fun n => -(n : Int)
  | '+' :: digits => (readDigits false 0 digits).map Int.ofNat
  | digits => (readDigits false 0 digits).map Int.ofNat

end ObjectCatalog.Decimal
