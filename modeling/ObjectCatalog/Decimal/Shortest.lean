import ObjectCatalog.Decimal.Binary64

/-! # The shortest decimal text of a number

A finite number is written with the fewest digits that read back as the same number, the nearest
such decimal where there are several. The decimals that read back form an interval around the
number, whose ends belong to it when the mantissa is even. On the grid of decimals with a given
number of digits, a point of that interval exists only if one of the number's two neighbours on
the grid is one.
-/
namespace ObjectCatalog.Binary64

/-- The decimals that read back as one number: the number itself and the two ends, over one
denominator. -/
structure Rounding where
  value : Nat
  low : Nat
  high : Nat
  den : Nat
  closed : Bool

/-- Halfway to the neighbours; the lower neighbour of a power of two is half as far. -/
def roundingOf (mantissa : Nat) (exponent : Int) : Rounding :=
  let (num, den) := ratio mantissa (exponent - 2)
  let unit := num / mantissa
  let below := if mantissa == twoTo 52 && -1074 < exponent then unit else 2 * unit
  ⟨4 * num, 4 * num - below, 4 * num + 2 * unit, den, mantissa % 2 == 0⟩

def Rounding.accepts (r : Rounding) (num den : Nat) : Bool :=
  if r.closed then r.low * den ≤ num * r.den && num * r.den ≤ r.high * den
  else r.low * den < num * r.den && num * r.den < r.high * den

/-- The number of digits before the decimal point of `num / den`; zero or less where the number
is below one. -/
def magnitude (num den : Nat) : Int :=
  if den ≤ num then ((num / den).repr.length : Int)
  else
    let places := (den / num).repr.length
    if den ≤ num * tenTo (places - 1) then 1 - (places - 1 : Nat) else 1 - (places : Nat)

def Rounding.digitsAt? (r : Rounding) (place : Int) : Option Nat :=
  let (num, den) := if 0 ≤ place then (r.value, r.den * tenTo place.toNat)
    else (r.value * tenTo (-place).toNat, r.den)
  let reads (digits : Nat) : Bool :=
    if 0 ≤ place then r.accepts (digits * tenTo place.toNat) 1
    else r.accepts digits (tenTo (-place).toNat)
  let below := num / den
  match reads below, reads (below + 1) with
  | true, true => some (if 2 * (num % den) < den ||
      (2 * (num % den) == den && below % 2 == 0) then below else below + 1)
  | true, false => some below
  | false, true => some (below + 1)
  | false, false => none

def Rounding.shortest (r : Rounding) : (tries : Nat) → (place : Int) → Nat × Int
  | 0, place => (0, place)
  | tries + 1, place =>
    match r.digitsAt? place with
    | some digits => (digits, place)
    | none => r.shortest tries (place - 1)

def dropTrailingZeros (digits : List Char) : List Char :=
  (digits.reverse.dropWhile (· == '0')).reverse

def shortestDigits (mantissa : Nat) (exponent : Int) : List Char × Int :=
  let r := roundingOf mantissa exponent
  let (digits, place) := r.shortest 17 (magnitude r.value r.den - 1)
  let text := (toString digits).toList
  (dropTrailingZeros text, text.length + place)

def exponentText (n : Int) : List Char :=
  let digits := (toString n.natAbs).toList
  (if n < 0 then '-' else '+') :: (if digits.length < 2 then '0' :: digits else digits)

/-- Positional from 10^-4 up to 10^16, with at least one digit on each side of the point; beyond
that one digit, the others after a point, and the power of ten. -/
def writeDigits (digits : List Char) (point : Int) : List Char :=
  if point ≤ -4 || 16 < point then
    match digits with
    | [] => []
    | first :: rest =>
      first :: (if rest.isEmpty then [] else '.' :: rest) ++ 'e' :: exponentText (point - 1)
  else if point ≤ 0 then
    '0' :: '.' :: List.replicate (-point).toNat '0' ++ digits
  else if digits.length ≤ point.toNat then
    digits ++ List.replicate (point.toNat - digits.length) '0' ++ ['.', '0']
  else digits.take point.toNat ++ '.' :: digits.drop point.toNat

def signText (negative : Bool) : List Char := if negative then ['-'] else []

def textChars : Binary64 → List Char
  | .nan => ['n', 'a', 'n']
  | .infinite negative => signText negative ++ ['i', 'n', 'f']
  | .finite negative m e =>
    signText negative ++
      (if m == 0 then ['0', '.', '0'] else
        let (digits, point) := shortestDigits m e
        writeDigits digits point)

def text (x : Binary64) : String := String.ofList x.textChars

def fixedChars (places : Nat) : Binary64 → List Char
  | .nan => ['n', 'a', 'n']
  | .infinite negative => signText negative ++ ['i', 'n', 'f']
  | .finite negative m e =>
    let (num, den) := ratio m e
    let digits := (toString (roundDiv (num * tenTo places) den)).toList
    let padded := List.replicate (places + 1 - digits.length) '0' ++ digits
    let whole := padded.length - places
    signText negative ++ padded.take whole ++
      (if places == 0 then [] else '.' :: padded.drop whole)

end ObjectCatalog.Binary64
