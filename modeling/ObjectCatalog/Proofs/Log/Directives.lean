import ObjectCatalog.Log.Template
import ObjectCatalog.Proofs.Text.Pieces

/-! # The directives of a template

A directive reads on until its conversion, so what it is depends on the text after it only as far
as it goes. A sign that is part of no flag, extent or size ends it: at such a sign a template can
be taken apart, unless a key or a conversion holds the sign.
-/
namespace ObjectCatalog.Template

open Text (takeWhile_append_stop dropWhile_append_stop)

variable {x : Char} {text more key rest : List Char}

/-- The directives of a template from left to right, each with its conversion at a place counted
from its own percent sign. -/
def directives : List Char → List Directive
  | [] => []
  | '%' :: '%' :: text => directives text
  | c :: text =>
    if c == '%' then (readDirective 0 text).1 :: directives (readDirective 0 text).2
    else directives text
termination_by text => text.length
decreasing_by
  · simp only [List.length_cons]
    omega
  · exact Nat.lt_succ_of_le (length_readDirective 0 text)
  · simp

theorem directives_nil : directives [] = [] := by
  rw [directives]

theorem directives_percent (text : List Char) : directives ('%' :: '%' :: text) = directives text := by
  rw [directives]

theorem directives_verbatim {c : Char} (hc : c ≠ '%') (text : List Char) :
    directives (c :: text) = directives text := by
  rw [directives]
  · simp [hc]
  · intro rest h
    exact absurd h hc

theorem directives_directive (h : text.head? ≠ some '%') :
    directives ('%' :: text) =
      (readDirective 0 text).1 :: directives (readDirective 0 text).2 := by
  rw [directives]
  · simp
  · rintro rest - rfl
    exact h rfl

/-- Characters are read one at a time, two percent signs together, and a directive as a whole. -/
theorem directives_induction {motive : List Char → Prop} (nil : motive [])
    (percent : ∀ text, motive text → motive ('%' :: '%' :: text))
    (directive : ∀ text, text.head? ≠ some '%' → motive (readDirective 0 text).2 →
      motive ('%' :: text))
    (verbatim : ∀ c text, c ≠ '%' → motive text → motive (c :: text)) (text : List Char) :
    motive text := by
  induction text using directives.induct with
  | case1 => exact nil
  | case2 text ih => exact percent text ih
  | case3 c text hpercent hc ih =>
    obtain rfl : c = '%' := by simpa using hc
    refine directive text ?_ ih
    intro hhead
    obtain ⟨after, rfl⟩ := List.head?_eq_some_iff.mp hhead
    exact hpercent after rfl rfl
  | case4 c text hpercent hc ih => exact verbatim c text (by simpa using hc) ih

/-! ## Reading past the end of a text -/

/-- A sign that is no part of a directive besides its key and its conversion. -/
structure IsApart (x : Char) : Prop where
  percent : x ≠ '%'
  opening : x ≠ '('
  closing : x ≠ ')'
  star : x ≠ '*'
  point : x ≠ '.'
  digit : x.isDigit = false
  flag : isFlag x = false
  size : isSizeLetter x = false

theorem isApart_colon : IsApart ':' := by constructor <;> decide

theorem isApart_at : IsApart '@' := by constructor <;> decide

theorem closeKey?_append {depth : Nat} (h : closeKey? depth text = some (key, rest))
    (more : List Char) : closeKey? depth (text ++ more) = some (key, rest ++ more) := by
  induction text generalizing depth key with
  | nil => cases h
  | cons c text ih =>
    rw [List.cons_append]
    unfold closeKey? at h ⊢
    split at h
    · rename_i hclose
      rw [if_pos hclose]
      cases h
      rfl
    · rename_i hopen
      rw [if_neg hopen]
      obtain ⟨⟨inner, after⟩, hinner, heq⟩ := Option.map_eq_some_iff.mp h
      cases heq
      simp only [ih hinner, Option.map_some]

/-- A key that is closed only further on holds what comes in between. -/
theorem mem_of_closeKey? {depth : Nat} (hx : x ≠ ')') (hnone : closeKey? depth text = none)
    (h : closeKey? depth (text ++ x :: more) = some (key, rest)) : x ∈ key := by
  induction text generalizing depth key with
  | nil =>
    rw [List.nil_append] at h
    unfold closeKey? at h
    rw [if_neg (by simp [hx])] at h
    obtain ⟨⟨inner, after⟩, hinner, heq⟩ := Option.map_eq_some_iff.mp h
    cases heq
    exact List.mem_cons_self
  | cons c text ih =>
    rw [List.cons_append] at h
    unfold closeKey? at h hnone
    split at hnone
    · cases hnone
    · rename_i hopen
      rw [if_neg hopen] at h
      obtain ⟨⟨inner, after⟩, hinner, heq⟩ := Option.map_eq_some_iff.mp h
      cases heq
      exact List.mem_cons_of_mem c (ih (Option.map_eq_none_iff.mp hnone) hinner)

theorem readExtent_of_head_ne (h : text.head? ≠ some '*') :
    readExtent text =
      (if (text.takeWhile Char.isDigit).isEmpty then .unset
        else .fixed (Decimal.natOfDigits (text.takeWhile Char.isDigit)),
        text.dropWhile Char.isDigit) := by
  unfold readExtent
  split
  · exact absurd rfl h
  · rfl

theorem readExtent_append (hx : IsApart x) (text more : List Char) :
    readExtent (text ++ x :: more) =
      ((readExtent text).1, (readExtent text).2 ++ x :: more) := by
  by_cases hstar : text.head? = some '*'
  · obtain ⟨after, rfl⟩ := List.head?_eq_some_iff.mp hstar
    rfl
  · have happended : (text ++ x :: more).head? ≠ some '*' := by
      cases text with
      | nil => simp [hx.star]
      | cons c text => exact hstar
    rw [readExtent_of_head_ne hstar, readExtent_of_head_ne happended,
      takeWhile_append_stop hx.digit, dropWhile_append_stop hx.digit]

theorem readPrecision_append (hx : IsApart x) (text more : List Char) :
    readPrecision (text ++ x :: more) =
      ((readPrecision text).1, (readPrecision text).2 ++ x :: more) := by
  cases text with
  | nil =>
    unfold readPrecision
    split
    · rename_i after heq
      cases heq
      exact absurd rfl hx.point
    · rfl
  | cons c text =>
    by_cases hc : c = '.'
    · subst hc
      simp only [List.cons_append, readPrecision, readExtent_append hx]
      cases h : readExtent text with
      | mk extent after => cases extent <;> rfl
    · unfold readPrecision
      split
      · rename_i after heq
        cases heq
        exact absurd rfl hc
      · split
        · rename_i after heq
          cases heq
          exact absurd rfl hc
        · rfl

theorem skipSize_append (hx : IsApart x) (text more : List Char) :
    skipSize (text ++ x :: more) = skipSize text ++ x :: more := by
  cases text with
  | nil => simp [skipSize, hx.size]
  | cons c text =>
    simp only [List.cons_append, skipSize]
    split <;> rfl

/-- A key that ends within the text ends there whatever follows. -/
theorem readKey_append (hx : IsApart x) (h : (readKey text).1 ≠ .unclosed) (more : List Char) :
    readKey (text ++ x :: more) = ((readKey text).1, (readKey text).2 ++ x :: more) := by
  cases text with
  | nil =>
    unfold readKey
    split
    · rename_i after heq
      cases heq
      exact absurd rfl hx.opening
    · rfl
  | cons c text =>
    by_cases hc : c = '('
    · subst hc
      simp only [List.cons_append, readKey] at h ⊢
      cases hclose : closeKey? 0 text with
      | some found => rw [closeKey?_append hclose]
      | none => simp [hclose] at h
    · unfold readKey
      split
      · rename_i after heq
        cases heq
        exact absurd rfl hc
      · split
        · rename_i after heq
          cases heq
          exact absurd rfl hc
        · rfl

/-- A key that does not end within the text goes on over the sign behind it. -/
theorem readKey_append_of_unclosed (hx : IsApart x) (h : (readKey text).1 = .unclosed)
    (more : List Char) : (readKey (text ++ x :: more)).1 = .unclosed ∨
      ∃ key, (readKey (text ++ x :: more)).1 = .name key ∧ x ∈ key.toList := by
  cases text with
  | nil => cases h
  | cons c text =>
    by_cases hc : c = '('
    · subst hc
      simp only [List.cons_append, readKey] at h ⊢
      cases hclose : closeKey? 0 text with
      | some found => simp [hclose] at h
      | none =>
        cases hlater : closeKey? 0 (text ++ x :: more) with
        | none => exact .inl rfl
        | some found =>
          refine .inr ⟨String.ofList found.1, rfl, ?_⟩
          rw [String.toList_ofList]
          exact mem_of_closeKey? hx.closing hclose hlater
    · unfold readKey at h
      split at h
      · rename_i after heq
        cases heq
        exact absurd rfl hc
      · cases h

/-! ## Whole directives -/

def atConversion (text : List Char) : List Char :=
  skipSize (readPrecision (readExtent ((readKey text).2.dropWhile isFlag)).2).2

theorem readDirective_eq (index : Nat) (text : List Char) :
    readDirective index text =
      (⟨(readKey text).1, (readKey text).2.takeWhile isFlag,
        (readExtent ((readKey text).2.dropWhile isFlag)).1,
        (readPrecision (readExtent ((readKey text).2.dropWhile isFlag)).2).1,
        (atConversion text).head?.map fun c =>
          (c, index + text.length - (atConversion text).tail.length - 1)⟩,
        (atConversion text).tail) := by
  simp only [readDirective]
  unfold atConversion
  split
  · rename_i heq
    rw [heq]
    rfl
  · rename_i heq
    rw [heq]
    rfl

theorem atConversion_append (hx : IsApart x) (h : (readKey text).1 ≠ .unclosed)
    (more : List Char) : atConversion (text ++ x :: more) = atConversion text ++ x :: more := by
  unfold atConversion
  rw [readKey_append hx h, dropWhile_append_stop hx.flag, readExtent_append hx,
    readPrecision_append hx, skipSize_append hx]

/-- The directive is whole, and has the sign neither in its key nor as its conversion. -/
structure Directive.Avoids (x : Char) (d : Directive) : Prop where
  key : d.key = .absent ∨ ∃ key, d.key = .name key ∧ x ∉ key.toList
  conversion : ∃ c index, d.conversion = some (c, index) ∧ c ≠ x

theorem atConversion_of_unclosed (h : (readKey text).1 = .unclosed) : atConversion text = [] := by
  have hrest : (readKey text).2 = [] := by
    unfold readKey at h ⊢
    split at h
    · split at h
      · cases h
      · rfl
    · cases h
  unfold atConversion
  rw [hrest]
  rfl

theorem conversion_readDirective_eq_none_iff :
    (readDirective 0 text).1.conversion = none ↔ atConversion text = [] := by
  rw [readDirective_eq, Option.map_eq_none_iff, List.head?_eq_none_iff]

/-- A directive that ends within the text ends there whatever follows. -/
theorem readDirective_append (hx : IsApart x) (h : (readDirective 0 text).1.conversion ≠ none)
    (more : List Char) :
    readDirective 0 (text ++ x :: more) =
      ((readDirective 0 text).1, (readDirective 0 text).2 ++ x :: more) := by
  have hne : atConversion text ≠ [] := mt conversion_readDirective_eq_none_iff.mpr h
  have hkey : (readKey text).1 ≠ .unclosed := mt atConversion_of_unclosed hne
  obtain ⟨c, rest, hc⟩ := List.exists_cons_of_ne_nil hne
  -- The place of the conversion does not depend on what follows.
  have hplace : 0 + (text ++ x :: more).length - (rest ++ x :: more).length - 1 =
      0 + text.length - rest.length - 1 := by
    simp only [List.length_append]
    omega
  rw [readDirective_eq, readDirective_eq, atConversion_append hx hkey, readKey_append hx hkey,
    takeWhile_append_stop hx.flag, dropWhile_append_stop hx.flag, readExtent_append hx,
    readPrecision_append hx, hc]
  simp only [List.cons_append, List.head?_cons, List.tail_cons, Option.map_some, hplace]

/-- A directive that does not end within the text does not avoid the sign behind it. -/
theorem not_avoids_readDirective (hx : IsApart x)
    (h : (readDirective 0 text).1.conversion = none) (more : List Char) :
    ¬ (readDirective 0 (text ++ x :: more)).1.Avoids x := by
  have hnil : atConversion text = [] := conversion_readDirective_eq_none_iff.mp h
  intro havoids
  by_cases hkey : (readKey text).1 = .unclosed
  · have happended := havoids.key
    rw [readDirective_eq] at happended
    rcases readKey_append_of_unclosed hx hkey more with hopen | ⟨key, hname, hmem⟩
    · simp [hopen] at happended
    · simp [hname, hmem] at happended
  · have happended := havoids.conversion
    rw [readDirective_eq, atConversion_append hx hkey, hnil] at happended
    simp at happended

/-! ## Taking a template apart -/

def Whole (text : List Char) : Prop := ∀ d ∈ directives text, d.conversion ≠ none

theorem head?_append_ne (hx : IsApart x) (h : text.head? ≠ some '%') (more : List Char) :
    (text ++ x :: more).head? ≠ some '%' := by
  cases text with
  | nil => simp [hx.percent]
  | cons c text => exact h

theorem directives_append (hx : IsApart x) (h : Whole text) (more : List Char) :
    directives (text ++ x :: more) = directives text ++ directives more := by
  unfold Whole at h
  induction text using directives_induction with
  | nil =>
    rw [List.nil_append, directives_verbatim hx.percent, directives_nil, List.nil_append]
  | percent text ih =>
    rw [directives_percent] at h ⊢
    simp only [List.cons_append]
    rw [directives_percent]
    exact ih h
  | directive text hhead ih =>
    rw [directives_directive hhead] at h ⊢
    -- The first directive ends before the sign, and leaves a shorter text in front of it.
    have hfirst := h _ List.mem_cons_self
    have hrest := fun d hd => h d (List.mem_cons_of_mem _ hd)
    rw [List.cons_append, directives_directive (head?_append_ne hx hhead more),
      readDirective_append hx hfirst, ih hrest, List.cons_append]
  | verbatim c text hne ih =>
    rw [directives_verbatim hne] at h ⊢
    rw [List.cons_append, directives_verbatim hne]
    exact ih h

/-- A template whose directives avoid a sign can be taken apart where the sign stands. -/
theorem whole_of_avoids (hx : IsApart x)
    (h : ∀ d ∈ directives (text ++ x :: more), d.Avoids x) : Whole text := by
  unfold Whole
  induction text using directives_induction with
  | nil =>
    rw [directives_nil]
    exact fun d hd => absurd hd List.not_mem_nil
  | percent text ih =>
    simp only [List.cons_append] at h
    rw [directives_percent] at h ⊢
    exact ih h
  | directive text hhead ih =>
    rw [List.cons_append, directives_directive (head?_append_ne hx hhead more)] at h
    have hfirst : (readDirective 0 text).1.conversion ≠ none := fun hnone =>
      not_avoids_readDirective hx hnone more (h _ List.mem_cons_self)
    rw [readDirective_append hx hfirst] at h
    rw [directives_directive hhead]
    intro d hd
    rcases List.mem_cons.mp hd with rfl | hd
    · exact hfirst
    · exact ih (fun e he => h e (List.mem_cons_of_mem _ he)) d hd
  | verbatim c text hne ih =>
    rw [List.cons_append, directives_verbatim hne] at h
    rw [directives_verbatim hne]
    exact ih h

end ObjectCatalog.Template
