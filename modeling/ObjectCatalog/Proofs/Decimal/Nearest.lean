import ObjectCatalog.Proofs.Decimal.Numerals

/-! # Numbers that are read are numbers of the format

The exponent of the number nearest to a quotient is guessed from the lengths of its two parts, and
is one more than the guess where the mantissa would not fit. So mantissas have 53 bits, also after
they have been rounded up, and fewer only at the least exponent.
-/
namespace ObjectCatalog.Binary64

def raised (e : Int) : Nat := 2 ^ e.toNat

def lowered (e : Int) : Nat := 2 ^ (-e).toNat

variable {num den : Nat} {e : Int}

theorem scale_eq (num den : Nat) (e : Int) :
    scaledFloor num den e = num * lowered e / (den * raised e) ∧
      scaled num den e = roundDiv (num * lowered e) (den * raised e) := by
  unfold scaledFloor scaled raised lowered
  by_cases h : 0 ≤ e
  · have hlowered : (-e).toNat = 0 := by omega
    simp [h, hlowered, twoTo]
  · have hraised : e.toNat = 0 := by omega
    simp [h, hraised, twoTo]

theorem floor_le_roundDiv (num den : Nat) : num / den ≤ roundDiv num den ∧
    roundDiv num den ≤ num / den + 1 := by
  unfold roundDiv
  dsimp only
  split <;> omega

theorem le_scaledFloor_iff (hden : 0 < den) (bound : Nat) :
    bound ≤ scaledFloor num den e ↔ bound * (den * raised e) ≤ num * lowered e := by
  have hpos : 0 < den * raised e := Nat.mul_pos hden (Nat.two_pow_pos _)
  rw [(scale_eq num den e).1, Nat.le_div_iff_mul_le hpos]

/-- A quotient has at least 53 bits at an exponent that is small enough for it. -/
theorem le_scaledFloor (hnum : 0 < num) (hden : 0 < den)
    (he : e ≤ (num.log2 : Int) - den.log2 - 53) : 2 ^ 52 ≤ scaledFloor num den e := by
  rw [le_scaledFloor_iff hden]
  have hlow : 2 ^ num.log2 ≤ num := Nat.log2_self_le (by omega)
  have hhigh : den ≤ 2 ^ (den.log2 + 1) := Nat.lt_log2_self.le
  calc 2 ^ 52 * (den * raised e)
      ≤ 2 ^ 52 * (2 ^ (den.log2 + 1) * raised e) := by gcongr
    _ = 2 ^ (52 + (den.log2 + 1 + e.toNat)) := by simp only [raised, Nat.pow_add]
    _ ≤ 2 ^ (num.log2 + (-e).toNat) := Nat.pow_le_pow_right (by decide) (by omega)
    _ = 2 ^ num.log2 * lowered e := Nat.pow_add 2 _ _
    _ ≤ num * lowered e := by gcongr

/-- It has at most 53 bits at an exponent that is large enough. -/
theorem scaledFloor_lt (hden : 0 < den) (he : (num.log2 : Int) - den.log2 - 52 ≤ e) :
    scaledFloor num den e < 2 ^ 53 := by
  rw [← Nat.not_le, le_scaledFloor_iff hden, Nat.not_le]
  have hhigh : num < 2 ^ (num.log2 + 1) := Nat.lt_log2_self
  have hlow : 2 ^ den.log2 ≤ den := Nat.log2_self_le (by omega)
  calc num * lowered e
      < 2 ^ (num.log2 + 1) * lowered e := Nat.mul_lt_mul_of_pos_right hhigh (Nat.two_pow_pos _)
    _ = 2 ^ (num.log2 + 1 + (-e).toNat) := (Nat.pow_add 2 _ _).symm
    _ ≤ 2 ^ (53 + (den.log2 + e.toNat)) := Nat.pow_le_pow_right (by decide) (by omega)
    _ = 2 ^ 53 * (2 ^ den.log2 * raised e) := by simp only [raised, Nat.pow_add]
    _ ≤ 2 ^ 53 * (den * raised e) := by gcongr

/-- One exponent further, a bit less is left. -/
theorem le_scaledFloor_succ (hden : 0 < den) (h : 2 ^ 53 ≤ scaledFloor num den e) :
    2 ^ 52 ≤ scaledFloor num den (e + 1) := by
  rw [le_scaledFloor_iff hden] at h ⊢
  have hstep : raised (e + 1) * lowered e = 2 * (raised e * lowered (e + 1)) := by
    unfold raised lowered
    rw [← Nat.pow_add, ← Nat.pow_add, ← Nat.pow_succ']
    congr 1
    omega
  refine Nat.le_of_mul_le_mul_right ?_ (Nat.two_pow_pos (-e).toNat : 0 < lowered e)
  calc 2 ^ 52 * (den * raised (e + 1)) * lowered e
      = 2 ^ 52 * den * (raised (e + 1) * lowered e) := by ring
    _ = 2 ^ 53 * (den * raised e) * lowered (e + 1) := by rw [hstep]; ring
    _ ≤ num * lowered e * lowered (e + 1) := by gcongr
    _ = num * lowered (e + 1) * lowered e := by ring

def exponentOf (num den : Nat) : Int :=
  let guess := max ((num.log2 : Int) - den.log2 - 53) (-1074)
  if scaledFloor num den guess < twoTo 53 then guess else guess + 1

theorem exponentOf_spec (hnum : 0 < num) (hden : 0 < den) :
    -1074 ≤ exponentOf num den ∧ scaledFloor num den (exponentOf num den) < 2 ^ 53 ∧
      (exponentOf num den = -1074 ∨ 2 ^ 52 ≤ scaledFloor num den (exponentOf num den)) := by
  unfold exponentOf
  dsimp only
  split
  next hfits =>
    refine ⟨by omega, hfits, ?_⟩
    by_cases hleast : (num.log2 : Int) - den.log2 - 53 ≤ -1074
    · exact .inl (by omega)
    · exact .inr (le_scaledFloor hnum hden (by omega))
  next hlarge =>
    have hbits : 2 ^ 53 ≤ scaledFloor num den (max ((num.log2 : Int) - den.log2 - 53) (-1074)) :=
      Nat.not_lt.mp hlarge
    have hguess : max ((num.log2 : Int) - den.log2 - 53) (-1074) < num.log2 - den.log2 - 52 := by
      by_contra hge
      exact absurd (scaledFloor_lt hden (Int.not_lt.mp hge)) (Nat.not_lt.mpr hbits)
    exact ⟨by omega, scaledFloor_lt hden (by omega), .inr (le_scaledFloor_succ hden hbits)⟩

/-- Rounding up may reach a power of two, which is written with one exponent more. -/
theorem ofRatio_of_ne_zero (negative : Bool) (den : Nat) (hnum : num ≠ 0) :
    ofRatio negative num den =
      if scaled num den (exponentOf num den) = 2 ^ 53 then
        if 971 < exponentOf num den + 1 then .infinite negative
        else .finite negative (2 ^ 52) (exponentOf num den + 1)
      else if 971 < exponentOf num den then .infinite negative
      else .finite negative (scaled num den (exponentOf num den)) (exponentOf num den) := by
  have hchosen : (if scaledFloor num den (max ((num.log2 : Int) - den.log2 - 53) (-1074)) < twoTo 53
      then max ((num.log2 : Int) - den.log2 - 53) (-1074)
      else max ((num.log2 : Int) - den.log2 - 53) (-1074) + 1) = exponentOf num den := rfl
  unfold ofRatio
  rw [if_neg (by simpa using hnum)]
  dsimp only
  rw [hchosen]
  by_cases hcarry : scaled num den (exponentOf num den) = 2 ^ 53
  · have htest : (scaled num den (exponentOf num den) == twoTo 53) = true := beq_iff_eq.mpr hcarry
    rw [htest, if_pos hcarry]
    rfl
  · have htest : (scaled num den (exponentOf num den) == twoTo 53) = false := beq_false_of_ne hcarry
    rw [htest, if_neg hcarry]
    rfl

theorem inFormat_ofRatio (negative : Bool) (num : Nat) {den : Nat} (hden : 0 < den) :
    (ofRatio negative num den).InFormat := by
  by_cases hnum : num = 0
  · simp [ofRatio, hnum, InFormat]
  obtain ⟨hleast, hbits, hnormal⟩ := exponentOf_spec (Nat.pos_of_ne_zero hnum) hden
  obtain ⟨hlow, hhigh⟩ := floor_le_roundDiv (num * lowered (exponentOf num den))
    (den * raised (exponentOf num den))
  rw [← (scale_eq num den _).1, ← (scale_eq num den _).2] at hlow hhigh
  rw [ofRatio_of_ne_zero negative den hnum]
  split_ifs with hcarry hlarge hlarge
  · trivial
  · exact ⟨by decide, by omega, by omega, .inr (by decide)⟩
  · trivial
  · exact ⟨by omega, hleast, by omega, by omega⟩

theorem inFormat_ofDecimal (negative : Bool) (digits : Nat) (exponent : Int) :
    (ofDecimal negative digits exponent).InFormat := by
  unfold ofDecimal
  dsimp only
  split_ifs
  · simp [InFormat]
  · trivial
  · simp [InFormat]
  · exact inFormat_ofRatio _ _ (by decide)
  · exact inFormat_ofRatio _ _ (tenTo_pos _)

end ObjectCatalog.Binary64
