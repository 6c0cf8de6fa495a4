/-! # Floating-point numbers

The numbers of the binary64 format, held exactly: a finite number is a mantissa times a power of
two, with 2^52 ≤ mantissa < 2^53, or exponent -1074 and a smaller mantissa. A decimal number is
read as the nearest of them, and of two equally near ones as the one with the even mantissa.
-/
namespace ObjectCatalog

inductive Binary64
  | nan
  | infinite (negative : Bool)
  | finite (negative : Bool) (mantissa : Nat) (exponent : Int)
  deriving DecidableEq, Repr

namespace Binary64

def twoTo (n : Nat) : Nat := Nat.pow 2 n

def tenTo (n : Nat) : Nat := Nat.pow 10 n

/-- Quotient to the nearest whole number, a half to the even neighbour. -/
def roundDiv (num den : Nat) : Nat :=
  let q := num / den
  let r := num % den
  if den < 2 * r || (2 * r == den && q % 2 == 1) then q + 1 else q

def scaled (num den : Nat) (e : Int) : Nat :=
  if 0 ≤ e then roundDiv num (den * twoTo e.toNat) else roundDiv (num * twoTo (-e).toNat) den

def scaledFloor (num den : Nat) (e : Int) : Nat :=
  if 0 ≤ e then num / (den * twoTo e.toNat) else num * twoTo (-e).toNat / den

def ofRatio (negative : Bool) (num den : Nat) : Binary64 :=
  if num == 0 then .finite negative 0 (-1074) else
  let guess := max ((num.log2 : Int) - den.log2 - 53) (-1074)
  let e := if scaledFloor num den guess < twoTo 53 then guess else guess + 1
  let m := scaled num den e
  let (m, e) := if m == twoTo 53 then (twoTo 52, e + 1) else (m, e)
  if 971 < e then .infinite negative else .finite negative m e

/-- The number nearest to `digits * 10 ^ exponent`. Exponents far outside the format's range are
settled by the size of the number, without computing the power. -/
def ofDecimal (negative : Bool) (digits : Nat) (exponent : Int) : Binary64 :=
  if digits == 0 then .finite negative 0 (-1074) else
  let size : Int := digits.log2 / 4 + exponent
  if 400 < size then .infinite negative
  else if (digits.log2 : Int) / 3 + exponent < -400 then .finite negative 0 (-1074)
  else if 0 ≤ exponent then ofRatio negative (digits * tenTo exponent.toNat) 1
  else ofRatio negative digits (tenTo (-exponent).toNat)

def ofInt (n : Int) : Binary64 := ofRatio (n < 0) n.natAbs 1

def ratio (mantissa : Nat) (exponent : Int) : Nat × Nat :=
  if 0 ≤ exponent then (mantissa * twoTo exponent.toNat, 1)
  else (mantissa, twoTo (-exponent).toNat)

def truncate? : Binary64 → Option Int
  | .finite negative m e =>
    let (num, den) := ratio m e
    some (if negative then -((num / den : Nat) : Int) else (num / den : Nat))
  | _ => none

def toInt? (x : Binary64) : Option Int :=
  match x with
  | .finite _ m e =>
    let (num, den) := ratio m e
    if num % den == 0 then x.truncate? else none
  | _ => none

def isFinite : Binary64 → Bool
  | .finite .. => true
  | _ => false

end Binary64

def Decimal.digits (text : List Char) : List Char × List Char :=
  (text.takeWhile Char.isDigit, text.dropWhile Char.isDigit)

def Decimal.natOfDigits (digits : List Char) : Nat :=
  digits.foldl (fun n c => n * 10 + (c.toNat - 0x30)) 0

namespace Binary64

def ofUnsigned? (negative : Bool) (text : List Char) : Option Binary64 :=
  let (whole, rest) := Decimal.digits text
  let (fraction, rest) := match rest with
    | '.' :: rest => Decimal.digits rest
    | _ => ([], rest)
  let value (exponent : Int) : Option Binary64 :=
    some (ofDecimal negative (Decimal.natOfDigits (whole ++ fraction))
      (exponent - fraction.length))
  if whole.isEmpty && fraction.isEmpty then none else
  match rest with
  | [] => value 0
  | mark :: rest =>
    if mark.toLower != 'e' then none else
    let (sign, rest) : Int × List Char := match rest with
      | '-' :: rest => (-1, rest)
      | '+' :: rest => (1, rest)
      | rest => (1, rest)
    let (power, rest) := Decimal.digits rest
    if power.isEmpty || !rest.isEmpty then none
    else value (sign * Decimal.natOfDigits power)

def ofText? (text : List Char) : Option Binary64 :=
  let (negative, rest) := match text with
    | '-' :: rest => (true, rest)
    | '+' :: rest => (false, rest)
    | rest => (false, rest)
  if rest == "nan".toList then some .nan
  else if rest == "inf".toList then some (.infinite negative)
  else ofUnsigned? negative rest

end Binary64

end ObjectCatalog
