import Mathlib.Data.List.DropRight
import Mathlib.Tactic.Linarith
import Mathlib.Tactic.Ring
import ObjectCatalog.Decimal.Shortest

/-! # Numerals

A numeral is a whole part without superfluous zeros, which may have a sign in front, a fraction
and a power of ten behind it. Integers are written as numerals, and so are the finite numbers of the
binary64 format: the grid of decimals with seventeen digits is finer than the numbers of the format
are apart, so that digits that read back are always found.
-/
namespace ObjectCatalog

/-! ## Parts of a numeral -/

namespace Decimal

def IsDigits (text : List Char) : Prop := text ≠ [] ∧ ∀ c ∈ text, c.isDigit = true

inductive IsWhole : List Char → Prop
  | zero : IsWhole ['0']
  | digits {first : Char} {rest : List Char} (hfirst : first.isDigit = true) (hzero : first ≠ '0')
    (hrest : ∀ c ∈ rest, c.isDigit = true) : IsWhole (first :: rest)

inductive IsFraction : List Char → Prop
  | missing : IsFraction []
  | digits {digits : List Char} (h : IsDigits digits) : IsFraction ('.' :: digits)

inductive IsPower : List Char → Prop
  | missing : IsPower []
  | plain {mark : Char} {digits : List Char} (hmark : mark = 'e' ∨ mark = 'E')
    (h : IsDigits digits) : IsPower (mark :: digits)
  | signed {mark sign : Char} {digits : List Char} (hmark : mark = 'e' ∨ mark = 'E')
    (hsign : sign = '+' ∨ sign = '-') (h : IsDigits digits) : IsPower (mark :: sign :: digits)

inductive IsSign : List Char → Prop
  | missing : IsSign []
  | minus : IsSign ['-']

inductive IsNumeral : List Char → Prop
  | parts {sign whole fraction power : List Char} (hsign : IsSign sign) (hwhole : IsWhole whole)
    (hfraction : IsFraction fraction) (hpower : IsPower power) :
    IsNumeral (sign ++ whole ++ fraction ++ power)

def isNumeralSign (c : Char) : Bool := c.isDigit || ['-', '+', '.', 'e', 'E'].contains c

theorem isNumeralSign_of_isDigit {c : Char} (h : c.isDigit = true) : isNumeralSign c = true := by
  simp [isNumeralSign, h]

theorem IsWhole.isDigit {whole : List Char} (h : IsWhole whole) : ∀ c ∈ whole, c.isDigit = true := by
  cases h with
  | zero => simp
  | digits hfirst _ hrest => exact List.forall_mem_cons.mpr ⟨hfirst, hrest⟩

theorem IsWhole.ne_nil {whole : List Char} (h : IsWhole whole) : whole ≠ [] := by
  cases h <;> simp

theorem IsFraction.isNumeralSign {fraction : List Char} (h : IsFraction fraction) :
    ∀ c ∈ fraction, isNumeralSign c = true := by
  cases h with
  | missing => simp
  | digits h =>
    have hdigits : ∀ c ∈ _, _ := fun c hc => isNumeralSign_of_isDigit (h.2 c hc)
    exact List.forall_mem_cons.mpr ⟨by decide, hdigits⟩

theorem IsPower.isNumeralSign {power : List Char} (h : IsPower power) :
    ∀ c ∈ power, isNumeralSign c = true := by
  cases h with
  | missing => simp
  | plain hmark h =>
    have hdigits : ∀ c ∈ _, _ := fun c hc => isNumeralSign_of_isDigit (h.2 c hc)
    refine List.forall_mem_cons.mpr ⟨?_, hdigits⟩
    rcases hmark with rfl | rfl <;> decide
  | signed hmark hsign h =>
    have hdigits : ∀ c ∈ _, _ := fun c hc => isNumeralSign_of_isDigit (h.2 c hc)
    refine List.forall_mem_cons.mpr ⟨?_, List.forall_mem_cons.mpr ⟨?_, hdigits⟩⟩
    · rcases hmark with rfl | rfl <;> decide
    · rcases hsign with rfl | rfl <;> decide

theorem IsNumeral.isNumeralSign {text : List Char} (h : IsNumeral text) :
    ∀ c ∈ text, isNumeralSign c = true := by
  obtain @⟨sign, whole, fraction, power, hsign, hwhole, hfraction, hpower⟩ := h
  have hfront : ∀ c ∈ sign, Decimal.isNumeralSign c = true := by
    cases hsign with
    | missing => simp
    | minus => simp [Decimal.isNumeralSign]
  have hdigits : ∀ c ∈ whole, Decimal.isNumeralSign c = true :=
    fun c hc => isNumeralSign_of_isDigit (hwhole.isDigit c hc)
  simp only [List.forall_mem_append]
  exact ⟨⟨⟨hfront, hdigits⟩, hfraction.isNumeralSign⟩, hpower.isNumeralSign⟩

/-- A numeral begins with a minus sign or a digit. -/
theorem IsNumeral.exists_cons {text : List Char} (h : IsNumeral text) :
    ∃ first rest, text = first :: rest ∧ (first.isDigit = true ∨
      first = '-' ∧ ∃ c more, rest = c :: more ∧ c.isDigit = true) := by
  obtain @⟨sign, whole, fraction, power, hsign, hwhole, -, -⟩ := h
  obtain ⟨c, more, rfl⟩ := List.exists_cons_of_ne_nil hwhole.ne_nil
  have hdigit : c.isDigit = true := hwhole.isDigit c (by simp)
  cases hsign with
  | missing => exact ⟨c, more ++ fraction ++ power, by simp, .inl hdigit⟩
  | minus =>
    exact ⟨'-', c :: (more ++ fraction ++ power), by simp, .inr ⟨rfl, c, _, rfl, hdigit⟩⟩

/-! ## Integers -/

theorem isDigits_repr (n : Nat) : IsDigits n.repr.toList := by
  rw [Nat.toList_repr]
  exact ⟨Nat.toDigits_ne_nil, fun c hc => Nat.isDigit_of_mem_toDigits (by decide) (by decide) hc⟩

/-- The digits of a number that is not zero begin with another digit than zero. -/
theorem exists_repr_eq_cons {n : Nat} (h : 0 < n) :
    ∃ first rest, n.repr.toList = first :: rest ∧ first ≠ '0' := by
  induction n using Nat.strong_induction_on with
  | h n ih =>
    rw [Nat.toList_repr]
    by_cases hsmall : n < 10
    · refine ⟨n.digitChar, [], Nat.toDigits_of_lt_base hsmall, fun hzero => ?_⟩
      have : n = 0 := Nat.digitChar_eq_zero.mp hzero
      omega
    · obtain ⟨first, rest, hdigits, hfirst⟩ := ih (n / 10) (by omega) (by omega)
      rw [Nat.toDigits_of_base_le (by decide) (by omega), ← Nat.toList_repr, hdigits]
      exact ⟨first, rest ++ [(n % 10).digitChar], rfl, hfirst⟩

theorem isWhole_repr (n : Nat) : IsWhole n.repr.toList := by
  rcases Nat.eq_zero_or_pos n with rfl | hpos
  · exact .zero
  · obtain ⟨first, rest, hdigits, hfirst⟩ := exists_repr_eq_cons hpos
    have hall := (isDigits_repr n).2
    rw [hdigits] at hall ⊢
    obtain ⟨hdigit, hrest⟩ := List.forall_mem_cons.mp hall
    exact .digits hdigit hfirst hrest

theorem isNumeral_toString (n : Int) : IsNumeral (toString n).toList := by
  cases n with
  | ofNat n =>
    have h := IsNumeral.parts .missing (isWhole_repr n) .missing .missing
    rw [show toString (Int.ofNat n) = n.repr from rfl]
    simpa using h
  | negSucc n =>
    have h := IsNumeral.parts .minus (isWhole_repr n.succ) .missing .missing
    rw [show toString (Int.negSucc n) = "-" ++ n.succ.repr from rfl, String.toList_append]
    simpa using h

end Decimal

/-! ## Digits that read back -/

namespace Binary64

/-- The finite numbers of the format: a mantissa of 53 bits, or the least exponent and a smaller
mantissa. -/
def InFormat : Binary64 → Prop
  | .finite _ mantissa exponent =>
    mantissa < 2 ^ 53 ∧ -1074 ≤ exponent ∧ exponent ≤ 971 ∧ (exponent = -1074 ∨ 2 ^ 52 ≤ mantissa)
  | .nan | .infinite _ => True

@[simp] theorem tenTo_zero : tenTo 0 = 1 := rfl

theorem tenTo_pos (n : Nat) : 0 < tenTo n := Nat.pow_pos (by decide)

theorem tenTo_add (m n : Nat) : tenTo (m + n) = tenTo m * tenTo n := Nat.pow_add 10 m n

theorem twoTo_pos (n : Nat) : 0 < twoTo n := Nat.pow_pos (by decide)

def above (place : Int) : Nat := tenTo place.toNat

def below (place : Int) : Nat := tenTo (-place).toNat

theorem below_pos (place : Int) : 0 < below place := tenTo_pos _

theorem above_pos (place : Int) : 0 < above place := tenTo_pos _

namespace Rounding

variable {r : Rounding} {digits : Nat} {place : Int}

def reads (r : Rounding) (place : Int) (digits : Nat) : Bool :=
  r.accepts (digits * above place) (below place)

def floor (r : Rounding) (place : Int) : Nat := r.value * below place / (r.den * above place)

/-- Either neighbour of the number is found if it reads back. -/
theorem digitsAt?_cases (r : Rounding) (place : Int) :
    (r.digitsAt? place = none ∧ r.reads place (r.floor place) = false ∧
        r.reads place (r.floor place + 1) = false) ∨
      ∃ digits, r.digitsAt? place = some digits ∧ r.reads place digits = true := by
  have hreads (digits : Nat) : (if 0 ≤ place then r.accepts (digits * tenTo place.toNat) 1
      else r.accepts digits (tenTo (-place).toNat)) = r.reads place digits := by
    unfold reads above below
    split
    · rw [show (-place).toNat = 0 by omega, tenTo_zero]
    · rw [show place.toNat = 0 by omega, tenTo_zero, Nat.mul_one]
  have hscale : (if 0 ≤ place then (r.value, r.den * tenTo place.toNat)
      else (r.value * tenTo (-place).toNat, r.den)) = (r.value * below place, r.den * above place) := by
    unfold above below
    split
    · rw [show (-place).toNat = 0 by omega, tenTo_zero, Nat.mul_one]
    · rw [show place.toNat = 0 by omega, tenTo_zero, Nat.mul_one]
  unfold digitsAt? floor
  simp only [hreads, hscale]
  split
  next hlow hhigh =>
    right
    split
    · exact ⟨_, rfl, hlow⟩
    · exact ⟨_, rfl, hhigh⟩
  next hlow _ => exact .inr ⟨_, rfl, hlow⟩
  next _ hhigh => exact .inr ⟨_, rfl, hhigh⟩
  next hlow hhigh => exact .inl ⟨rfl, hlow, hhigh⟩

/-- Digits at one of the places that are tried are found if there are any. -/
theorem shortest_spec {tries : Nat} (h : ∃ n < tries, ∃ digits,
    r.digitsAt? (place - n) = some digits) :
    r.digitsAt? (r.shortest tries place).2 = some (r.shortest tries place).1 := by
  induction tries generalizing place with
  | zero => simp at h
  | succ tries ih =>
    unfold shortest
    cases hfound : r.digitsAt? place with
    | some digits => exact hfound
    | none =>
      obtain ⟨n, hn, digits, hdigits⟩ := h
      cases n with
      | zero => simp [hfound] at hdigits
      | succ n =>
        refine ih ⟨n, by omega, digits, ?_⟩
        rw [← hdigits]
        congr 1
        push_cast
        ring

/-- The number lies between the ends, and the number itself is less than 10^16 times as far from
zero as they are from each other. -/
structure Wide (r : Rounding) : Prop where
  den_pos : 0 < r.den
  low_pos : 0 < r.low
  low_lt : r.low < r.value
  lt_high : r.value < r.high
  wide : r.value + 10 ^ 16 * r.low < 10 ^ 16 * r.high

theorem reads_of_inside (hlow : r.low * below place < digits * above place * r.den)
    (hhigh : digits * above place * r.den < r.high * below place) :
    r.reads place digits = true := by
  unfold reads accepts
  split
  · simp [hlow.le, hhigh.le]
  · simp [hlow, hhigh]

theorem low_le_of_reads (h : r.reads place digits = true) :
    r.low * below place ≤ digits * above place * r.den := by
  unfold reads accepts at h
  split at h
  · simp only [Bool.and_eq_true, decide_eq_true_eq] at h
    exact h.1
  · simp only [Bool.and_eq_true, decide_eq_true_eq] at h
    exact h.1.le

theorem pos_of_reads (hlow : 0 < r.low) (h : r.reads place digits = true) : 0 < digits := by
  have hbound := low_le_of_reads h
  rcases Nat.eq_zero_or_pos digits with rfl | hpos
  · have : 0 < r.low * below place := Nat.mul_pos hlow (below_pos place)
    omega
  · exact hpos

/-- On a grid that is fine enough a neighbour of the number reads back: the two are as far apart as
the points of the grid, and the ends are further apart. -/
theorem exists_digitsAt? (h : r.Wide)
    (hfine : 10 ^ 16 * (r.den * above place) ≤ r.value * below place) :
    ∃ digits, r.digitsAt? place = some digits := by
  rcases digitsAt?_cases r place with ⟨-, hlow, hhigh⟩ | ⟨digits, hdigits, -⟩
  · exfalso
    have hstep : 0 < r.den * above place := Nat.mul_pos h.den_pos (above_pos place)
    have hfloor : r.floor place * (r.den * above place) ≤ r.value * below place :=
      Nat.div_mul_le_self _ _
    have hnext : r.value * below place < r.floor place * (r.den * above place) + r.den * above place := by
      have := Nat.lt_mul_div_succ (r.value * below place) hstep
      rwa [Nat.mul_succ, Nat.mul_comm (r.den * above place)] at this
    have hfirst : r.floor place * above place * r.den = r.floor place * (r.den * above place) := by
      ring
    have hsecond : (r.floor place + 1) * above place * r.den =
        r.floor place * (r.den * above place) + r.den * above place := by ring
    have hends : r.low * below place < r.value * below place ∧
        r.value * below place < r.high * below place :=
      ⟨Nat.mul_lt_mul_of_pos_right h.low_lt (below_pos place),
        Nat.mul_lt_mul_of_pos_right h.lt_high (below_pos place)⟩
    have hwide : r.value * below place + 10 ^ 16 * (r.low * below place) <
        10 ^ 16 * (r.high * below place) := by
      have := Nat.mul_lt_mul_of_pos_right h.wide (below_pos place)
      rwa [Nat.add_mul, Nat.mul_assoc, Nat.mul_assoc] at this
    have hunder : r.floor place * (r.den * above place) ≤ r.low * below place := by
      by_contra hless
      rw [reads_of_inside (by omega) (by omega)] at hlow
      cases hlow
    have hover : r.high * below place ≤
        r.floor place * (r.den * above place) + r.den * above place := by
      by_contra hless
      rw [reads_of_inside (by omega) (by omega)] at hhigh
      cases hhigh
    omega
  · exact ⟨digits, hdigits⟩

end Rounding

/-- How many digits a number has before the point is not too many. -/
theorem above_magnitude_le {num den : Nat} (hnum : 0 < num) (hden : 0 < den) :
    den * above (magnitude num den - 1) ≤ num * below (magnitude num den - 1) := by
  have hlength (n : Nat) (hn : 0 < n) : tenTo (n.repr.length - 1) ≤ n := by
    by_contra hless
    rcases Nat.eq_zero_or_pos (n.repr.length - 1) with hone | hmore
    · rw [hone, tenTo_zero] at hless
      omega
    · have hshort := (Nat.length_repr_le_iff hmore).mpr (not_le.mp hless)
      omega
  have hbelow (n : Nat) : n < tenTo n.repr.length :=
    (Nat.length_repr_le_iff Nat.length_repr_pos).mp le_rfl
  unfold magnitude
  dsimp only
  split
  next hle =>
    have hpos : 0 < (num / den).repr.length := Nat.length_repr_pos
    have hquotient := hlength (num / den) (Nat.div_pos hle hden)
    rw [Nat.le_div_iff_mul_le hden] at hquotient
    unfold above below
    rw [show (((num / den).repr.length : Int) - 1).toNat = (num / den).repr.length - 1 by omega,
      show (-(((num / den).repr.length : Int) - 1)).toNat = 0 by omega, tenTo_zero]
    linarith
  next hlt =>
    have hquotient := hbelow (den / num)
    rw [Nat.div_lt_iff_lt_mul hnum] at hquotient
    generalize (den / num).repr.length = places at hquotient ⊢
    unfold above below
    split
    next hle =>
      rw [show ((1 : Int) - (places - 1 : Nat) - 1).toNat = 0 by omega,
        show (-((1 : Int) - (places - 1 : Nat) - 1)).toNat = places - 1 by omega, tenTo_zero]
      linarith
    next =>
      rw [show ((1 : Int) - (places : Nat) - 1).toNat = 0 by omega,
        show (-((1 : Int) - (places : Nat) - 1)).toNat = places by omega, tenTo_zero]
      linarith

/-- Sixteen places further down. -/
theorem above_sub_mul_below (place : Int) :
    10 ^ 16 * above (place - 16) * below place = above place * below (place - 16) := by
  have h : 16 + (place - 16).toNat + (-place).toNat = place.toNat + (-(place - 16)).toNat := by
    omega
  unfold above below
  rw [show 10 ^ 16 = tenTo 16 from rfl, ← tenTo_add, ← tenTo_add, ← tenTo_add, h]

theorem exists_ratio (mantissa : Nat) (exponent : Int) : ∃ unit den,
    ratio mantissa exponent = (mantissa * unit, den) ∧ 0 < unit ∧ 0 < den := by
  unfold ratio
  split
  · exact ⟨_, 1, rfl, twoTo_pos _, Nat.one_pos⟩
  · exact ⟨1, _, by rw [Nat.mul_one], Nat.one_pos, twoTo_pos _⟩

theorem wide_roundingOf {mantissa : Nat} (exponent : Int) (hpos : 0 < mantissa)
    (hbits : mantissa < 2 ^ 53) : (roundingOf mantissa exponent).Wide := by
  obtain ⟨unit, den, hratio, hunit, hden⟩ := exists_ratio mantissa (exponent - 2)
  have hquotient : mantissa * unit / mantissa = unit := Nat.mul_div_cancel_left unit hpos
  have hleast : unit ≤ mantissa * unit := Nat.le_mul_of_pos_left unit hpos
  have hmost : mantissa * unit ≤ (2 ^ 53 - 1) * unit := Nat.mul_le_mul_right unit (by omega)
  unfold roundingOf
  simp only [hratio, hquotient]
  split
  next hpower =>
    have hmantissa : mantissa = 2 ^ 52 := by
      simp only [Bool.and_eq_true, beq_iff_eq] at hpower
      exact hpower.1
    subst hmantissa
    constructor <;> dsimp only <;> omega
  next hother =>
    constructor <;> dsimp only <;> omega

/-- Seventeen digits are enough for every number of the format. -/
theorem shortest_roundingOf {mantissa : Nat} (exponent : Int) (hpos : 0 < mantissa)
    (hbits : mantissa < 2 ^ 53) :
    let r := roundingOf mantissa exponent
    0 < (r.shortest 17 (magnitude r.value r.den - 1)).1 := by
  intro r
  have hwide : r.Wide := wide_roundingOf exponent hpos hbits
  have hvalue : 0 < r.value := hwide.low_pos.trans hwide.low_lt
  have hfine : 10 ^ 16 * (r.den * above (magnitude r.value r.den - 1 - 16)) ≤
      r.value * below (magnitude r.value r.den - 1 - 16) := by
    have hcoarse := above_magnitude_le hvalue hwide.den_pos
    generalize magnitude r.value r.den - 1 = place at hcoarse ⊢
    have hshift := above_sub_mul_below place
    refine Nat.le_of_mul_le_mul_right ?_ (below_pos place)
    calc 10 ^ 16 * (r.den * above (place - 16)) * below place
        = r.den * (10 ^ 16 * above (place - 16) * below place) := by ring
      _ = r.den * above place * below (place - 16) := by rw [hshift, Nat.mul_assoc]
      _ ≤ r.value * below place * below (place - 16) := Nat.mul_le_mul_right _ hcoarse
      _ = r.value * below (place - 16) * below place := by ring
  obtain ⟨digits, hdigits⟩ := Rounding.exists_digitsAt? hwide hfine
  have htries : ∃ n : Nat, n < 17 ∧ ∃ digits,
      r.digitsAt? (magnitude r.value r.den - 1 - n) = some digits :=
    ⟨16, by decide, digits, hdigits⟩
  have hfound := Rounding.shortest_spec htries
  rcases Rounding.digitsAt?_cases r (r.shortest 17 (magnitude r.value r.den - 1)).2 with
    ⟨hnone, -⟩ | ⟨other, hother, hreads⟩
  · rw [hnone] at hfound
    cases hfound
  · rw [hother] at hfound
    cases hfound
    exact Rounding.pos_of_reads hwide.low_pos hreads

/-! ## Texts of numbers -/

theorem dropTrailingZeros_cons {first : Char} (rest : List Char) (hfirst : first ≠ '0') :
    ∃ more, dropTrailingZeros (first :: rest) = first :: more ∧ more <+: rest := by
  have hprefix : (first :: rest).rdropWhile (· == '0') <+: first :: rest :=
    List.rdropWhile_prefix _ _
  have hne : (first :: rest).rdropWhile (· == '0') ≠ [] := by
    rw [Ne, List.rdropWhile_eq_nil_iff]
    exact fun hall => hfirst (eq_of_beq (hall first List.mem_cons_self))
  obtain ⟨c, more, hmore⟩ := List.exists_cons_of_ne_nil hne
  rw [hmore, List.cons_prefix_cons] at hprefix
  exact ⟨more, hprefix.1 ▸ hmore, hprefix.2⟩

theorem exists_shortestDigits {mantissa : Nat} (exponent : Int) (hpos : 0 < mantissa)
    (hbits : mantissa < 2 ^ 53) : ∃ first rest, (shortestDigits mantissa exponent).1 = first :: rest ∧
      first ≠ '0' ∧ Decimal.IsDigits (first :: rest) := by
  have hdigits := shortest_roundingOf exponent hpos hbits
  obtain ⟨first, rest, hwritten, hfirst⟩ := Decimal.exists_repr_eq_cons hdigits
  obtain ⟨more, hkept, hmore⟩ := dropTrailingZeros_cons rest hfirst
  have hall : ∀ c ∈ first :: rest, c.isDigit = true := hwritten ▸ (Decimal.isDigits_repr _).2
  refine ⟨first, more, ?_, hfirst, by simp, ?_⟩
  · rw [← hkept, ← hwritten]
    rfl
  · obtain ⟨hdigit, hrest⟩ := List.forall_mem_cons.mp hall
    exact List.forall_mem_cons.mpr ⟨hdigit, fun c hc => hrest c (hmore.subset hc)⟩

theorem isPower_exponentText (n : Int) : Decimal.IsPower ('e' :: exponentText n) := by
  have hdigits := Decimal.isDigits_repr n.natAbs
  unfold exponentText
  refine .signed (.inl rfl) (by split <;> simp) ?_
  rw [Nat.toString_eq_repr]
  split
  · exact ⟨by simp, List.forall_mem_cons.mpr ⟨by decide, hdigits.2⟩⟩
  · exact hdigits

/-- Digits with a point among them, or zeros or a power of ten in its place, are a numeral. -/
theorem isNumeral_writeDigits {sign rest : List Char} {first : Char} (hsign : Decimal.IsSign sign)
    (hzero : first ≠ '0') (h : Decimal.IsDigits (first :: rest)) (point : Int) :
    Decimal.IsNumeral (sign ++ writeDigits (first :: rest) point) := by
  obtain ⟨hfirst, hrest⟩ := List.forall_mem_cons.mp h.2
  have hzeros (n : Nat) : ∀ c ∈ List.replicate n '0', c.isDigit = true := by
    intro c hc
    rw [List.eq_of_mem_replicate hc]
    decide
  unfold writeDigits
  split
  next hlarge =>
    have hfraction : Decimal.IsFraction (if rest.isEmpty then [] else '.' :: rest) := by
      split
      · exact .missing
      next hempty => exact .digits ⟨by simpa using hempty, hrest⟩
    have hwhole : Decimal.IsWhole [first] := .digits hfirst hzero (List.forall_mem_nil _)
    have h := Decimal.IsNumeral.parts hsign hwhole hfraction (isPower_exponentText (point - 1))
    simpa using h
  next hlarge =>
    split
    next hsmall =>
      have hfraction : Decimal.IsFraction
          ('.' :: (List.replicate (-point).toNat '0' ++ first :: rest)) :=
        .digits ⟨by simp, List.forall_mem_append.mpr ⟨hzeros _, h.2⟩⟩
      have h := Decimal.IsNumeral.parts hsign .zero hfraction .missing
      simpa using h
    next hsmall =>
      split
      next hwhole =>
        have hfraction : Decimal.IsFraction ['.', '0'] := .digits ⟨by simp, by simp⟩
        have h := Decimal.IsNumeral.parts hsign (.digits hfirst hzero
          (List.forall_mem_append.mpr ⟨hrest, hzeros (point.toNat - (rest.length + 1))⟩)) hfraction
          .missing
        simpa using h
      next hwhole =>
        obtain ⟨n, hn⟩ : ∃ n, point.toNat = n + 1 := ⟨point.toNat - 1, by omega⟩
        rw [List.length_cons, hn] at hwhole
        have hbehind : rest.drop n ≠ [] := by
          rw [Ne, List.drop_eq_nil_iff]
          omega
        have hfraction : Decimal.IsFraction ('.' :: rest.drop n) :=
          .digits ⟨hbehind, fun c hc => hrest c (List.mem_of_mem_drop hc)⟩
        have h := Decimal.IsNumeral.parts hsign (.digits hfirst hzero
          fun c hc => hrest c (List.mem_of_mem_take (i := n) hc)) hfraction .missing
        rw [hn, List.take_succ_cons, List.drop_succ_cons]
        simpa using h

theorem isNumeral_textChars {x : Binary64} (hformat : x.InFormat) (hfinite : x.isFinite = true) :
    Decimal.IsNumeral x.textChars := by
  cases x with
  | nan => cases hfinite
  | infinite negative => cases hfinite
  | finite negative mantissa exponent =>
    have hsign : Decimal.IsSign (signText negative) := by
      cases negative
      · exact .missing
      · exact .minus
    show Decimal.IsNumeral (signText negative ++ if mantissa == 0 then ['0', '.', '0'] else _)
    split
    · have hfraction : Decimal.IsFraction ['.', '0'] := .digits ⟨by simp, by simp⟩
      have h := Decimal.IsNumeral.parts hsign .zero hfraction .missing
      simpa using h
    next hzero =>
      have hpos : 0 < mantissa := by
        rw [beq_iff_eq] at hzero
        omega
      obtain ⟨first, rest, hdigits, hfirst, hall⟩ :=
        exists_shortestDigits exponent hpos hformat.1
      have h := isNumeral_writeDigits hsign hfirst hall (shortestDigits mantissa exponent).2
      rw [← hdigits] at h
      exact h

theorem isNumeralSign_writeDigits {digits : List Char} (h : ∀ c ∈ digits, c.isDigit = true)
    (point : Int) : ∀ c ∈ writeDigits digits point, Decimal.isNumeralSign c = true := by
  have hdigits : ∀ c ∈ digits, Decimal.isNumeralSign c = true :=
    fun c hc => Decimal.isNumeralSign_of_isDigit (h c hc)
  have hzeros (n : Nat) : ∀ c ∈ List.replicate n '0', Decimal.isNumeralSign c = true := by
    intro c hc
    rw [List.eq_of_mem_replicate hc]
    decide
  have hpoint : Decimal.isNumeralSign '.' = true := by decide
  have hpower := (isPower_exponentText (point - 1)).isNumeralSign
  unfold writeDigits
  split
  · cases digits with
    | nil => simp
    | cons first rest =>
      have hrest : ∀ c ∈ if rest.isEmpty then [] else '.' :: rest, Decimal.isNumeralSign c = true := by
        split
        · simp
        · exact List.forall_mem_cons.mpr ⟨hpoint, (List.forall_mem_cons.mp hdigits).2⟩
      exact List.forall_mem_cons.mpr ⟨(List.forall_mem_cons.mp hdigits).1,
        List.forall_mem_append.mpr ⟨hrest, hpower⟩⟩
  · split
    · have hzero : Decimal.isNumeralSign '0' = true := by decide
      exact List.forall_mem_cons.mpr ⟨hzero, List.forall_mem_cons.mpr ⟨hpoint,
        List.forall_mem_append.mpr ⟨hzeros _, hdigits⟩⟩⟩
    · split
      · exact List.forall_mem_append.mpr ⟨List.forall_mem_append.mpr ⟨hdigits, hzeros _⟩,
          by simp [Decimal.isNumeralSign]⟩
      · exact List.forall_mem_append.mpr ⟨fun c hc => hdigits c (List.mem_of_mem_take hc),
          List.forall_mem_cons.mpr ⟨hpoint, fun c hc => hdigits c (List.mem_of_mem_drop hc)⟩⟩

/-- Every finite number is written in the signs of numerals, whether of the format or not. -/
theorem isNumeralSign_textChars {x : Binary64} (hfinite : x.isFinite = true) :
    ∀ c ∈ x.textChars, Decimal.isNumeralSign c = true := by
  cases x with
  | nan => cases hfinite
  | infinite negative => cases hfinite
  | finite negative mantissa exponent =>
    have hsign : ∀ c ∈ signText negative, Decimal.isNumeralSign c = true := by
      cases negative <;> simp [signText, Decimal.isNumeralSign]
    refine List.forall_mem_append.mpr ⟨hsign, ?_⟩
    split
    · simp [Decimal.isNumeralSign]
    · refine isNumeralSign_writeDigits (fun c hc => ?_) (shortestDigits mantissa exponent).2
      have hkept := (List.rdropWhile_prefix (· == '0') _).subset hc
      exact (Decimal.isDigits_repr _).2 c hkept

end Binary64

end ObjectCatalog
