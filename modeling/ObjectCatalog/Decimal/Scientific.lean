import ObjectCatalog.Decimal.Shortest

/-! # Decimal texts with a given precision

Three ways to write a number: with a fixed number of places, as digits and a power of ten, and in
whichever of the two is shorter, without the zeros at the end. All digits are rounded from the
exact number, a half to the even digit.
-/
namespace ObjectCatalog.Binary64

/-- The first `count` digits of a number, and the power of ten of the first of them. -/
def significantDigits (count mantissa : Nat) (exponent : Int) : List Char × Int :=
  if mantissa == 0 then (List.replicate count '0', 0) else
  let (num, den) := ratio mantissa exponent
  let point := magnitude num den
  let place := point - count
  let digits :=
    if 0 ≤ place then roundDiv num (den * tenTo place.toNat)
    else roundDiv (num * tenTo (-place).toNat) den
  if digits == tenTo count then ((toString (tenTo (count - 1))).toList, point)
  else ((toString digits).toList, point - 1)

def joinFraction (keepPoint : Bool) (whole fraction : List Char) : List Char :=
  if fraction.isEmpty && !keepPoint then whole else whole ++ '.' :: fraction

def writePower (keepPoint : Bool) (digits : List Char) (power : Int) : List Char :=
  joinFraction keepPoint (digits.take 1) (digits.drop 1) ++ 'e' :: exponentText power

def unsignedChars (write : (mantissa : Nat) → (exponent : Int) → List Char) :
    Binary64 → List Char
  | .nan => ['n', 'a', 'n']
  | .infinite _ => ['i', 'n', 'f']
  | .finite _ m e => write m e

def isNegative : Binary64 → Bool
  | .nan => false
  | .infinite negative | .finite negative _ _ => negative

def fixedPoint (places : Nat) (keepPoint : Bool) : Binary64 → List Char :=
  unsignedChars fun m e =>
    let digits := fixedChars places (.finite false m e)
    if places == 0 && keepPoint then digits ++ ['.'] else digits

def powerOfTen (places : Nat) (keepPoint : Bool) : Binary64 → List Char :=
  unsignedChars fun m e =>
    let (digits, power) := significantDigits (places + 1) m e
    writePower keepPoint digits power

/-- Positional where the power of ten is at least -4 and below the number of digits. -/
def compact (count : Nat) (keepZeros : Bool) : Binary64 → List Char :=
  unsignedChars fun m e =>
    let (digits, power) := significantDigits (max 1 count) m e
    let kept (fraction : List Char) := if keepZeros then fraction else dropTrailingZeros fraction
    if power < -4 || max 1 count ≤ power then
      joinFraction keepZeros (digits.take 1) (kept (digits.drop 1)) ++ 'e' :: exponentText power
    else if power < 0 then
      joinFraction keepZeros ['0'] (kept (List.replicate (-power - 1).toNat '0' ++ digits))
    else
      joinFraction keepZeros (digits.take (power.toNat + 1)) (kept (digits.drop (power.toNat + 1)))

end ObjectCatalog.Binary64
