import Mathlib.Data.List.DropRight
import Mathlib.Data.List.Forall2
import ObjectCatalog.Text.Keyword

/-! # Phrases of keywords

A phrase is a list of words, each spelled in any case, with at least one blank between each two.
Reading keywords off the front of a text succeeds exactly if the text begins with a phrase of them,
and what is left is the text behind it: a phrase has neither a blank at its front nor a blank or a
semicolon at its end, so that there is one way to read it.
-/
namespace ObjectCatalog.Text

/-! ## Letters -/

/-- The letter in either case; the dotted and the dotless i stand for i too, the long s for s. -/
def StandsFor (letter c : Char) : Prop :=
  c = letter ∨ c = letter.toUpper ∨ (letter = 'i' ∧ (c = '\u0130' ∨ c = '\u0131')) ∨
    (letter = 's' ∧ c = '\u017f')

theorem isLower_iff {c : Char} : c.isLower = true ↔ 97 ≤ c.toNat ∧ c.toNat ≤ 122 := by
  delta Char.isLower
  simp only [ge_iff_le, Bool.and_eq_true, decide_eq_true_eq, UInt32.le_iff_toNat_le]
  rfl

theorem toNat_toUpper {c : Char} (h : c.isLower = true) : c.toUpper.toNat + 32 = c.toNat := by
  have hbounds := isLower_iff.mp h
  have hrange : c.val ≥ 'a'.val ∧ c.val ≤ 'z'.val :=
    ⟨UInt32.le_iff_toNat_le.mpr hbounds.1, UInt32.le_iff_toNat_le.mpr hbounds.2⟩
  unfold Char.toUpper
  rw [dif_pos hrange]
  show (c.val + ('A'.val - 'a'.val)).toNat + 32 = c.val.toNat
  have hcode : c.val.toNat = c.toNat := rfl
  have hstep : ('A'.val - 'a'.val).toNat = 2 ^ 32 - 32 := rfl
  rw [UInt32.toNat_add, hstep]
  omega

theorem toLower_eq_iff {letter c : Char} (h : letter.isLower = true) :
    c.toLower = letter ↔ c = letter ∨ c = letter.toUpper := by
  have hletter := isLower_iff.mp h
  have hupper := toNat_toUpper h
  unfold Char.toLower
  split
  · rename_i hc
    have hbounds : 65 ≤ c.toNat ∧ c.toNat ≤ 90 :=
      ⟨UInt32.le_iff_toNat_le.mp hc.1, UInt32.le_iff_toNat_le.mp hc.2⟩
    have hcode : c.val.toNat = c.toNat := rfl
    have hstep : ('a'.val - 'A'.val).toNat = 32 := rfl
    rw [← Char.toNat_inj, ← Char.toNat_inj, ← Char.toNat_inj]
    show (c.val + ('a'.val - 'A'.val)).toNat = letter.toNat ↔ _
    rw [UInt32.toNat_add, hstep]
    omega
  · rename_i hc
    have hbounds : ¬ (65 ≤ c.toNat ∧ c.toNat ≤ 90) := fun hin =>
      hc ⟨UInt32.le_iff_toNat_le.mpr hin.1, UInt32.le_iff_toNat_le.mpr hin.2⟩
    rw [← Char.toNat_inj, ← Char.toNat_inj]
    omega

theorem sameLetter_iff {letter c : Char} (h : letter.isLower = true) :
    sameLetter letter c = true ↔ StandsFor letter c := by
  have hcode : ∀ d : Char, c.toNat = d.toNat ↔ c = d := fun d => Char.toNat_inj
  unfold sameLetter StandsFor
  simp only [Bool.or_eq_true, Bool.and_eq_true, beq_iff_eq, toLower_eq_iff h]
  rw [← hcode '\u0130', ← hcode '\u0131', ← hcode '\u017f', or_assoc, or_assoc]
  rfl

def isSeparator (c : Char) : Bool := isBlank c || c == ';'

theorem isSeparator_iff {c : Char} : isSeparator c = true ↔ isBlank c = true ∨ c = ';' := by
  simp [isSeparator]

def IsLetter (c : Char) : Prop := ∃ letter : Char, letter.isLower = true ∧ StandsFor letter c

theorem IsLetter.toNat_cases {c : Char} (h : IsLetter c) :
    (65 ≤ c.toNat ∧ c.toNat ≤ 122) ∨ c.toNat = 0x130 ∨ c.toNat = 0x131 ∨ c.toNat = 0x17f := by
  obtain ⟨letter, hlower, hc⟩ := h
  have hletter := isLower_iff.mp hlower
  have hupper := toNat_toUpper hlower
  rcases hc with rfl | rfl | ⟨-, rfl | rfl⟩ | ⟨-, rfl⟩
  · omega
  · omega
  all_goals decide

theorem IsLetter.ne {c d : Char} (h : IsLetter c) (hd : d.toNat < 65) : c ≠ d := by
  rintro rfl
  have hcodes := h.toNat_cases
  omega

theorem IsLetter.not_isSeparator {c : Char} (h : IsLetter c) : isSeparator c = false := by
  have hcodes := h.toNat_cases
  have hsemicolon : c ≠ ';' := h.ne (by decide)
  unfold isSeparator isBlank
  simp only [Bool.or_eq_false_iff, Bool.and_eq_false_iff, decide_eq_false_iff_not,
    beq_eq_false_iff_ne]
  refine ⟨?_, hsemicolon⟩
  omega

def blankRanges : RangeTable :=
  [(0x09, 0x0d), (0x1c, 0x20), (0x85, 0x85), (0xa0, 0xa0), (0x1680, 0x1680), (0x2000, 0x200a),
   (0x2028, 0x2029), (0x202f, 0x202f), (0x205f, 0x205f), (0x3000, 0x3000)]

theorem exists_blankRange {c : Char} (h : isBlank c = true) :
    ∃ range ∈ blankRanges, range.1 ≤ c.toNat ∧ c.toNat ≤ range.2 := by
  unfold isBlank at h
  simp only [Bool.or_eq_true, Bool.and_eq_true, decide_eq_true_eq, beq_iff_eq] at h
  simp only [blankRanges, List.mem_cons, List.not_mem_nil, or_false, exists_eq_or_imp,
    exists_eq_left]
  omega

/-- No range of letters and numbers meets a range of blanks. -/
theorem alphanumericRanges_apart : (alphanumericRanges.all fun range =>
    blankRanges.all fun blanks => Nat.blt range.2 blanks.1 || Nat.blt blanks.2 range.1) = true := by
  decide +kernel

theorem toNat_of_isAlphanum {c : Char} (h : c.isAlphanum = true) :
    0x30 ≤ c.toNat ∧ c.toNat < 0x80 := by
  delta Char.isAlphanum Char.isAlpha Char.isUpper Char.isLower Char.isDigit at h
  simp only [Bool.or_eq_true, Bool.and_eq_true, decide_eq_true_eq, ge_iff_le,
    UInt32.le_iff_toNat_le] at h
  have hupper : 'A'.val.toNat = 0x41 ∧ 'Z'.val.toNat = 0x5a := ⟨rfl, rfl⟩
  have hlower : 'a'.val.toNat = 0x61 ∧ 'z'.val.toNat = 0x7a := ⟨rfl, rfl⟩
  have hdigit : '0'.val.toNat = 0x30 ∧ '9'.val.toNat = 0x39 := ⟨rfl, rfl⟩
  have hcode : c.val.toNat = c.toNat := rfl
  omega

theorem not_isWordChar_of_isBlank {c : Char} (h : isBlank c = true) : isWordChar c = false := by
  obtain ⟨blanks, hblanks, hlow, hhigh⟩ := exists_blankRange h
  have hunderscore : c ≠ '_' := by
    rintro rfl
    exact absurd h (by decide)
  unfold isWordChar isAlphanumeric
  rw [Bool.or_eq_false_iff]
  refine ⟨by simpa using hunderscore, ?_⟩
  split
  · rename_i hascii
    rw [← Bool.not_eq_true]
    intro halpha
    have hbounds := toNat_of_isAlphanum halpha
    have hpast : ∀ b ∈ blankRanges, b.2 < 0x30 ∨ 0x80 ≤ b.1 := by decide
    have hblank := hpast blanks hblanks
    omega
  · rw [← Bool.not_eq_true, RangeTable.contains_iff]
    rintro ⟨range, hrange, hfrom, hto⟩
    have hapart := List.all_eq_true.mp
      (List.all_eq_true.mp alphanumericRanges_apart range hrange) blanks hblanks
    simp only [Nat.blt_eq, Bool.or_eq_true] at hapart
    omega

theorem not_isWordChar_of_isSeparator {c : Char} (h : isSeparator c = true) :
    isWordChar c = false := by
  rcases isSeparator_iff.mp h with hblank | rfl
  · exact not_isWordChar_of_isBlank hblank
  · decide

/-! ## Words and phrases -/

def Spells (word text : List Char) : Prop := List.Forall₂ StandsFor word text

def IsWord (word : List Char) : Prop := word ≠ [] ∧ ∀ letter ∈ word, letter.isLower = true

-- the letters are tested one by one: a quantifier over characters may be decided over all of them
instance (word : List Char) : Decidable (IsWord word) :=
  decidable_of_iff (word ≠ [] ∧ word.all Char.isLower = true)
    (and_congr_right fun _ => List.all_eq_true)

def AllBlank (text : List Char) : Prop := ∀ c ∈ text, isBlank c = true

/-- The words in their order, each in any case, with at least one blank between each two. -/
inductive Phrase : List (List Char) → List Char → Prop
  | word {word text : List Char} (h : Spells word text) : Phrase [word] text
  | cons {word text blanks rest : List Char} {words : List (List Char)} (h : Spells word text)
    (hne : blanks ≠ []) (hblanks : AllBlank blanks) (hrest : Phrase words rest) :
    Phrase (word :: words) (text ++ blanks ++ rest)

variable {word text rest : List Char} {words : List (List Char)}

theorem keyword?_eq_some_iff (h : ∀ letter ∈ word, letter.isLower = true) :
    keyword? word text = some rest ↔ ∃ own, Spells word own ∧ text = own ++ rest := by
  induction word generalizing text with
  | nil =>
    constructor
    · rintro ⟨⟩
      exact ⟨[], .nil, rfl⟩
    · rintro ⟨_, ⟨⟩, rfl⟩
      rfl
  | cons letter word ih =>
    have hletter := h letter List.mem_cons_self
    have hword : ∀ letter ∈ word, letter.isLower = true :=
      fun l hl => h l (List.mem_cons_of_mem _ hl)
    constructor
    · intro hread
      cases text with
      | nil => cases hread
      | cons c text =>
        unfold keyword? at hread
        split at hread
        · rename_i hc
          obtain ⟨own, hown, rfl⟩ := (ih hword).mp hread
          exact ⟨c :: own, .cons ((sameLetter_iff hletter).mp hc) hown, rfl⟩
        · cases hread
    · rintro ⟨_, hown, rfl⟩
      cases hown with
      | @cons _ c _ own hc hown =>
        show (if sameLetter letter c then keyword? word (own ++ rest) else none) = some rest
        rw [if_pos ((sameLetter_iff hletter).mpr hc)]
        exact (ih hword).mpr ⟨own, hown, rfl⟩

theorem Spells.first (hword : IsWord word) (h : Spells word text) :
    ∃ c more, text = c :: more ∧ IsLetter c := by
  cases h with
  | nil => exact absurd rfl hword.1
  | cons hc hmore => exact ⟨_, _, rfl, _, hword.2 _ List.mem_cons_self, hc⟩

theorem Spells.last (hword : IsWord word) (h : Spells word text) :
    ∃ more c, text = more ++ [c] ∧ IsLetter c := by
  have hreverse : Spells word.reverse text.reverse := List.forall₂_reverse_iff.mpr h
  have hletters : IsWord word.reverse := by
    refine ⟨fun hnil => hword.1 (List.reverse_eq_nil_iff.mp hnil), fun letter hl => ?_⟩
    exact hword.2 letter (List.mem_reverse.mp hl)
  obtain ⟨c, more, htext, hc⟩ := hreverse.first hletters
  exact ⟨more.reverse, c, by simpa using congrArg List.reverse htext, hc⟩

theorem Phrase.first (hwords : ∀ word ∈ words, IsWord word) (h : Phrase words text) :
    ∃ c more, text = c :: more ∧ isSeparator c = false := by
  cases h with
  | word h =>
    obtain ⟨c, more, htext, hc⟩ := h.first (hwords _ List.mem_cons_self)
    exact ⟨c, more, htext, hc.not_isSeparator⟩
  | cons h =>
    obtain ⟨c, more, rfl, hc⟩ := h.first (hwords _ List.mem_cons_self)
    exact ⟨c, _, rfl, hc.not_isSeparator⟩

theorem Phrase.last_letter (hwords : ∀ word ∈ words, IsWord word) (h : Phrase words text) :
    ∃ more c, text = more ++ [c] ∧ IsLetter c := by
  induction h with
  | word h => exact h.last (hwords _ List.mem_cons_self)
  | cons _ _ _ _ ih =>
    obtain ⟨more, c, rfl, hc⟩ := ih fun word hw => hwords word (List.mem_cons_of_mem _ hw)
    exact ⟨_, c, (List.append_assoc _ _ _).symm, hc⟩

theorem Phrase.last (hwords : ∀ word ∈ words, IsWord word) (h : Phrase words text) :
    ∃ more c, text = more ++ [c] ∧ isSeparator c = false := by
  obtain ⟨more, c, htext, hc⟩ := h.last_letter hwords
  exact ⟨more, c, htext, hc.not_isSeparator⟩

/-! ## Reading a phrase -/

theorem not_isBlank_of_not_isSeparator {c : Char} (h : isSeparator c = false) :
    isBlank c = false := by
  rw [isSeparator, Bool.or_eq_false_iff] at h
  exact h.1

theorem trimStart_append {blanks : List Char} (hblanks : AllBlank blanks) (text : List Char) :
    trimStart (blanks ++ text) = trimStart text := List.dropWhile_append_of_pos hblanks

theorem trimStart_of_not_isBlank {c : Char} (h : isBlank c = false) (text : List Char) :
    trimStart (c :: text) = c :: text := List.dropWhile_cons_of_neg (by simp [h])

theorem exists_blanks (text : List Char) :
    ∃ blanks, AllBlank blanks ∧ text = blanks ++ trimStart text :=
  ⟨text.takeWhile isBlank, fun _ hc => List.mem_takeWhile_imp hc,
    List.takeWhile_append_dropWhile.symm⟩

theorem not_isBlank_of_trimStart {c : Char} (h : trimStart text = c :: rest) :
    isBlank c = false := by
  have hstop := List.head?_dropWhile_not isBlank text
  rw [show text.dropWhile isBlank = c :: rest from h] at hstop
  exact hstop

theorem exists_of_blanks? (h : blanks? text = some rest) :
    ∃ blanks, blanks ≠ [] ∧ AllBlank blanks ∧ text = blanks ++ rest := by
  cases text with
  | nil => cases h
  | cons c text =>
    change (if isBlank c then some (trimStart text) else none) = some rest at h
    split at h
    · rename_i hc
      cases h
      obtain ⟨blanks, hblanks, htext⟩ := exists_blanks text
      exact ⟨c :: blanks, List.cons_ne_nil c blanks, List.forall_mem_cons.mpr ⟨hc, hblanks⟩,
        congrArg (c :: ·) htext⟩
    · cases h

theorem blanks?_append {blanks : List Char} {c : Char} (hne : blanks ≠ [])
    (hblanks : AllBlank blanks) (hc : isBlank c = false) (more : List Char) :
    blanks? (blanks ++ c :: more) = some (c :: more) := by
  cases blanks with
  | nil => exact absurd rfl hne
  | cons b blanks =>
    obtain ⟨hb, htail⟩ := List.forall_mem_cons.mp hblanks
    show (if isBlank b then some (trimStart (blanks ++ c :: more)) else none) = some (c :: more)
    rw [if_pos hb, trimStart_append htail, trimStart_of_not_isBlank hc]

/-- Keywords are read off the front of a text exactly if it begins with a phrase of them. -/
theorem keywords?_eq_some_iff (hne : words ≠ []) (hwords : ∀ word ∈ words, IsWord word) :
    keywords? words text = some rest ↔ ∃ own, Phrase words own ∧ text = own ++ rest := by
  induction words generalizing text with
  | nil => exact absurd rfl hne
  | cons word words ih =>
    have hword := hwords word List.mem_cons_self
    cases words with
    | nil =>
      show keyword? word text = some rest ↔ _
      rw [keyword?_eq_some_iff hword.2]
      constructor
      · rintro ⟨own, hown, htext⟩
        exact ⟨own, .word hown, htext⟩
      · rintro ⟨own, ⟨hown⟩ | ⟨-, -, -, ⟨⟩⟩, htext⟩
        exact ⟨own, hown, htext⟩
    | cons next words =>
      have hmore : ∀ word ∈ next :: words, IsWord word :=
        fun w hw => hwords w (List.mem_cons_of_mem _ hw)
      have hnext {behind : List Char} : keywords? (next :: words) behind = some rest ↔
          ∃ own, Phrase (next :: words) own ∧ behind = own ++ rest :=
        ih (List.cons_ne_nil next words) hmore
      show (keyword? word text >>= blanks? >>= keywords? (next :: words)) = some rest ↔ _
      simp only [Option.bind_eq_bind, Option.bind_eq_some_iff, keyword?_eq_some_iff hword.2]
      constructor
      · rintro ⟨behind, ⟨gap, ⟨first, hfirst, rfl⟩, hgap⟩, hread⟩
        obtain ⟨blanks, hblank, hblanks, rfl⟩ := exists_of_blanks? hgap
        obtain ⟨own, hown, rfl⟩ := hnext.mp hread
        exact ⟨first ++ blanks ++ own, .cons hfirst hblank hblanks hown, by simp⟩
      · rintro ⟨own, hphrase, rfl⟩
        cases hphrase with
        | @cons _ first blanks more _ hfirst hblank hblanks hrest =>
          obtain ⟨c, tail, rfl, hc⟩ := hrest.first hmore
          refine ⟨c :: tail ++ rest, ⟨blanks ++ (c :: tail ++ rest), ⟨first, hfirst, by simp⟩, ?_⟩,
            hnext.mpr ⟨c :: tail, hrest, rfl⟩⟩
          exact blanks?_append hblank hblanks (not_isBlank_of_not_isSeparator hc) (tail ++ rest)

/-! ## Endings -/

variable {p : Char → Bool} {ending : List Char}

theorem forall_mem_getLast? {c : Char} (hlast : text.getLast? = some c) (hc : p c = false) :
    ∀ d ∈ text.getLast?, p d = false := by
  intro d hd
  obtain rfl := Option.some.inj (hlast.symm.trans hd)
  exact hc

theorem dropEndWhile_concat {c : Char} (hc : p c = false) (more : List Char) :
    dropEndWhile p (more ++ [c]) = more ++ [c] :=
  List.rdropWhile_concat_neg p more c (by simp [hc])

theorem dropEndWhile_append_of_all (h : ∀ c ∈ ending, p c = true) (text : List Char) :
    dropEndWhile p (text ++ ending) = dropEndWhile p text := by
  unfold dropEndWhile
  rw [List.reverse_append, List.dropWhile_append_of_pos]
  exact fun c hc => h c (List.mem_reverse.mp hc)

/-- A character that stays protects all of the text in front of it. -/
theorem dropEndWhile_concat_append {c : Char} (hc : p c = false) (more ending : List Char) :
    dropEndWhile p (more ++ [c] ++ ending) = more ++ [c] ++ dropEndWhile p ending := by
  unfold dropEndWhile
  rw [List.reverse_append, List.dropWhile_append]
  split
  · rename_i hnil
    rw [List.isEmpty_iff.mp hnil, List.reverse_nil, List.append_nil]
    exact dropEndWhile_concat hc more
  · rw [List.reverse_append, List.reverse_reverse]

theorem mem_of_mem_dropEndWhile {c : Char} {text : List Char} (h : c ∈ dropEndWhile p text) :
    c ∈ text := (List.rdropWhile_prefix p text).subset h

end ObjectCatalog.Text
