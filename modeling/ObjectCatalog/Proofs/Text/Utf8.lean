import Mathlib.Tactic.SplitIfs
import ObjectCatalog.Text.Utf8

/-! # Texts as bytes

Decoding accepts exactly the bytes that a text is written with, and gives that text. So bytes cannot
be decoded only if no text is written with them.
-/
namespace ObjectCatalog.Text

open String (utf8EncodeChar)

variable {c : Char} {b b₁ b₂ b₃ : UInt8} {lead count low high code out start : Nat}
  {rest bytes : List UInt8}

/-! ## Characters -/

theorem toNat_range (c : Char) : c.toNat < 0xd800 ∨ 0xdfff < c.toNat ∧ c.toNat < 0x110000 :=
  c.valid

theorem toNat_ofNat_of_valid (h : code.isValidChar) : (Char.ofNat code).toNat = code := by
  rw [Char.ofNat, dif_pos h]
  rfl

/-- How a character is written, by the length of what is written. -/
theorem utf8EncodeChar_cases (c : Char) :
    (c.toNat < 0x80 ∧ utf8EncodeChar c = [.ofNat c.toNat]) ∨
    (0x80 ≤ c.toNat ∧ c.toNat < 0x800 ∧ utf8EncodeChar c =
      [.ofNat (c.toNat / 64 % 32 + 0xc0), .ofNat (c.toNat % 64 + 0x80)]) ∨
    (0x800 ≤ c.toNat ∧ c.toNat < 0x10000 ∧ utf8EncodeChar c =
      [.ofNat (c.toNat / 4096 % 16 + 0xe0), .ofNat (c.toNat / 64 % 64 + 0x80),
        .ofNat (c.toNat % 64 + 0x80)]) ∨
    (0x10000 ≤ c.toNat ∧ utf8EncodeChar c =
      [.ofNat (c.toNat / 262144 % 8 + 0xf0), .ofNat (c.toNat / 4096 % 64 + 0x80),
        .ofNat (c.toNat / 64 % 64 + 0x80), .ofNat (c.toNat % 64 + 0x80)]) := by
  have hval : c.val.toNat = c.toNat := rfl
  unfold utf8EncodeChar
  simp only [hval]
  split
  · exact .inl ⟨by omega, rfl⟩
  · split
    · exact .inr (.inl ⟨by omega, by omega, rfl⟩)
    · split
      · exact .inr (.inr (.inl ⟨by omega, by omega, rfl⟩))
      · exact .inr (.inr (.inr ⟨by omega, rfl⟩))

theorem exists_lead (c : Char) : (∃ b, utf8EncodeChar c = [b]) ∨
    ∃ b tail, utf8EncodeChar c = b :: tail ∧ 0x80 ≤ b.toNat := by
  have hlarge {n : Nat} (h : 0x80 ≤ n) (h' : n < 256) : 0x80 ≤ (UInt8.ofNat n).toNat := by
    rwa [UInt8.toNat_ofNat', Nat.mod_eq_of_lt h']
  rcases utf8EncodeChar_cases c with ⟨-, hc⟩ | ⟨-, -, hc⟩ | ⟨-, -, hc⟩ | ⟨-, hc⟩
  · exact .inl ⟨_, hc⟩
  all_goals exact .inr ⟨_, _, hc, hlarge (by omega) (by omega)⟩

/-- A byte is given by its number. -/
theorem ofNat_eq_iff {n : Nat} (h : n < 256) : UInt8.ofNat n = b ↔ b.toNat = n := by
  rw [← UInt8.toNat_inj, UInt8.toNat_ofNat', Nat.mod_eq_of_lt h, eq_comm]

theorem utf8EncodeChar_eq_one_iff :
    utf8EncodeChar c = [b] ↔ b.toNat < 0x80 ∧ c.toNat = b.toNat := by
  rcases utf8EncodeChar_cases c with ⟨h, hc⟩ | ⟨h, -, hc⟩ | ⟨h, -, hc⟩ | ⟨h, hc⟩ <;> rw [hc]
  · rw [List.cons.injEq, ofNat_eq_iff (by omega)]
    constructor
    · rintro ⟨hb, -⟩
      omega
    · rintro ⟨hb, hcode⟩
      exact ⟨hcode.symm, rfl⟩
  all_goals
    simp only [List.cons.injEq, reduceCtorEq, and_false, false_iff]
    omega

theorem utf8EncodeChar_eq_two_iff : utf8EncodeChar c = [b, b₁] ↔
    (0xc2 ≤ b.toNat ∧ b.toNat ≤ 0xdf) ∧ (0x80 ≤ b₁.toNat ∧ b₁.toNat ≤ 0xbf) ∧
      c.toNat = b.toNat % 32 * 64 + b₁.toNat % 64 := by
  rcases utf8EncodeChar_cases c with ⟨h, hc⟩ | ⟨h, h', hc⟩ | ⟨h, -, hc⟩ | ⟨h, hc⟩ <;> rw [hc]
  case inr.inl =>
    rw [List.cons.injEq, List.cons.injEq, ofNat_eq_iff (by omega), ofNat_eq_iff (by omega)]
    constructor
    · rintro ⟨hb, h₁, -⟩
      omega
    · rintro ⟨hb, h₁, hcode⟩
      exact ⟨by omega, by omega, rfl⟩
  all_goals
    simp only [List.cons.injEq, reduceCtorEq, and_false, false_iff]
    omega

theorem utf8EncodeChar_eq_three_iff : utf8EncodeChar c = [b, b₁, b₂] ↔
    (0xe0 ≤ b.toNat ∧ b.toNat ≤ 0xef) ∧ (0x80 ≤ b₁.toNat ∧ b₁.toNat ≤ 0xbf) ∧
      (0x80 ≤ b₂.toNat ∧ b₂.toNat ≤ 0xbf) ∧ (b.toNat = 0xe0 → 0xa0 ≤ b₁.toNat) ∧
      (b.toNat = 0xed → b₁.toNat ≤ 0x9f) ∧
      c.toNat = (b.toNat % 16 * 64 + b₁.toNat % 64) * 64 + b₂.toNat % 64 := by
  rcases utf8EncodeChar_cases c with ⟨h, hc⟩ | ⟨-, h, hc⟩ | ⟨h, h', hc⟩ | ⟨h, hc⟩ <;> rw [hc]
  case inr.inr.inl =>
    have hrange := toNat_range c
    rw [List.cons.injEq, List.cons.injEq, List.cons.injEq, ofNat_eq_iff (by omega),
      ofNat_eq_iff (by omega), ofNat_eq_iff (by omega)]
    constructor
    · rintro ⟨hb, h₁, h₂, -⟩
      omega
    · rintro ⟨hb, h₁, h₂, hfirst, hlast, hcode⟩
      exact ⟨by omega, by omega, by omega, rfl⟩
  all_goals
    simp only [List.cons.injEq, reduceCtorEq, and_false, false_iff]
    omega

theorem utf8EncodeChar_eq_four_iff : utf8EncodeChar c = [b, b₁, b₂, b₃] ↔
    (0xf0 ≤ b.toNat ∧ b.toNat ≤ 0xf4) ∧ (0x80 ≤ b₁.toNat ∧ b₁.toNat ≤ 0xbf) ∧
      (0x80 ≤ b₂.toNat ∧ b₂.toNat ≤ 0xbf) ∧ (0x80 ≤ b₃.toNat ∧ b₃.toNat ≤ 0xbf) ∧
      (b.toNat = 0xf0 → 0x90 ≤ b₁.toNat) ∧ (b.toNat = 0xf4 → b₁.toNat ≤ 0x8f) ∧
      c.toNat = ((b.toNat % 8 * 64 + b₁.toNat % 64) * 64 + b₂.toNat % 64) * 64 + b₃.toNat % 64 := by
  rcases utf8EncodeChar_cases c with ⟨h, hc⟩ | ⟨-, h, hc⟩ | ⟨-, h, hc⟩ | ⟨h, hc⟩ <;> rw [hc]
  case inr.inr.inr =>
    have hrange := toNat_range c
    rw [List.cons.injEq, List.cons.injEq, List.cons.injEq, List.cons.injEq,
      ofNat_eq_iff (by omega), ofNat_eq_iff (by omega), ofNat_eq_iff (by omega),
      ofNat_eq_iff (by omega)]
    constructor
    · rintro ⟨hb, h₁, h₂, h₃, -⟩
      omega
    · rintro ⟨hb, h₁, h₂, h₃, hfirst, hlast, hcode⟩
      exact ⟨by omega, by omega, by omega, by omega, rfl⟩
  all_goals
    simp only [List.cons.injEq, reduceCtorEq, and_false, false_iff]
    omega

/-! ## Sequences of bytes -/

theorem leadShape_eq_some_iff : leadShape lead = some (count, low, high) ↔
    (count = 1 ∧ (0xc2 ≤ lead ∧ lead ≤ 0xdf) ∧ low = 0x80 ∧ high = 0xbf) ∨
    (count = 2 ∧ (0xe0 ≤ lead ∧ lead ≤ 0xef) ∧ low = (if lead = 0xe0 then 0xa0 else 0x80) ∧
      high = if lead = 0xed then 0x9f else 0xbf) ∨
    (count = 3 ∧ (0xf0 ≤ lead ∧ lead ≤ 0xf4) ∧ low = (if lead = 0xf0 then 0x90 else 0x80) ∧
      high = if lead = 0xf4 then 0x8f else 0xbf) := by
  unfold leadShape
  simp only [Bool.and_eq_true, decide_eq_true_eq, beq_iff_eq]
  split_ifs <;> simp only [Option.some.injEq, Prod.mk.injEq, false_iff] <;> omega

theorem leadBits_one : leadBits lead 1 = lead % 32 := rfl

theorem leadBits_two : leadBits lead 2 = lead % 16 := rfl

theorem leadBits_three : leadBits lead 3 = lead % 8 := rfl

theorem low_le_iff {x y n : Nat} (hy : 0x80 ≤ y) :
    (if lead = x then y else 0x80) ≤ n ↔ 0x80 ≤ n ∧ (lead = x → y ≤ n) := by
  split <;> omega

theorem le_high_iff {x y n : Nat} (hy : y ≤ 0xbf) :
    n ≤ (if lead = x then y else 0xbf) ↔ n ≤ 0xbf ∧ (lead = x → n ≤ y) := by
  split <;> omega

theorem readTail_zero_iff : readTail 0 low high code rest = .inl out ↔ code = out := by
  simp [readTail]

theorem readTail_succ_iff : readTail (count + 1) low high code rest = .inl out ↔
    ∃ b more, rest = b :: more ∧ (low ≤ b.toNat ∧ b.toNat ≤ high) ∧
      readTail count 0x80 0xbf (code * 64 + b.toNat % 64) more = .inl out := by
  cases rest with
  | nil => simp [readTail]
  | cons b more =>
    have hread : readTail (count + 1) low high code (b :: more) = .inl out ↔
        (low ≤ b.toNat ∧ b.toNat ≤ high) ∧
          readTail count 0x80 0xbf (code * 64 + b.toNat % 64) more = .inl out := by
      rw [readTail, ← decide_eq_true_iff (p := low ≤ b.toNat ∧ _), Bool.decide_and]
      split
      next hb =>
        rw [hb]
        split <;> simp_all
      next hb => simp [hb]
    rw [hread]
    constructor
    · intro h
      exact ⟨b, more, rfl, h⟩
    · rintro ⟨_, _, hsame, h⟩
      cases hsame
      exact h

/-- The bytes that a lead byte asks for write a character together with it. -/
theorem exists_of_readTail (hshape : leadShape b.toNat = some (count, low, high))
    (htail : readTail count low high (leadBits b.toNat count) rest = .inl code) :
    ∃ tail more, rest = tail ++ more ∧ tail.length = count ∧
      utf8EncodeChar (Char.ofNat code) = b :: tail := by
  rcases leadShape_eq_some_iff.mp hshape with
    ⟨rfl, hb, rfl, rfl⟩ | ⟨rfl, hb, rfl, rfl⟩ | ⟨rfl, hb, rfl, rfl⟩
  · obtain ⟨b₁, more, rfl, h₁, htail⟩ := readTail_succ_iff.mp htail
    obtain rfl := readTail_zero_iff.mp htail
    refine ⟨[b₁], more, rfl, rfl, utf8EncodeChar_eq_two_iff.mpr ⟨hb, h₁, ?_⟩⟩
    exact toNat_ofNat_of_valid (.inl (by rw [leadBits_one]; omega))
  · obtain ⟨b₁, _, rfl, ⟨hlow, hhigh⟩, htail⟩ := readTail_succ_iff.mp htail
    obtain ⟨b₂, more, rfl, h₂, htail⟩ := readTail_succ_iff.mp htail
    obtain rfl := readTail_zero_iff.mp htail
    obtain ⟨hlow, hfirst⟩ := (low_le_iff (by decide)).mp hlow
    obtain ⟨hhigh, hlast⟩ := (le_high_iff (by decide)).mp hhigh
    refine ⟨[b₁, b₂], more, rfl, rfl, utf8EncodeChar_eq_three_iff.mpr
      ⟨hb, ⟨hlow, hhigh⟩, h₂, hfirst, hlast, ?_⟩⟩
    refine toNat_ofNat_of_valid ?_
    rw [leadBits_two, Nat.isValidChar]
    omega
  · obtain ⟨b₁, _, rfl, ⟨hlow, hhigh⟩, htail⟩ := readTail_succ_iff.mp htail
    obtain ⟨b₂, _, rfl, h₂, htail⟩ := readTail_succ_iff.mp htail
    obtain ⟨b₃, more, rfl, h₃, htail⟩ := readTail_succ_iff.mp htail
    obtain rfl := readTail_zero_iff.mp htail
    obtain ⟨hlow, hfirst⟩ := (low_le_iff (by decide)).mp hlow
    obtain ⟨hhigh, hlast⟩ := (le_high_iff (by decide)).mp hhigh
    refine ⟨[b₁, b₂, b₃], more, rfl, rfl, utf8EncodeChar_eq_four_iff.mpr
      ⟨hb, ⟨hlow, hhigh⟩, h₂, h₃, hfirst, hlast, ?_⟩⟩
    refine toNat_ofNat_of_valid ?_
    rw [leadBits_three, Nat.isValidChar]
    omega

/-- A character that takes several bytes is read from its lead byte and the bytes behind it. -/
theorem exists_readTail {tail : List UInt8} (hc : utf8EncodeChar c = b :: tail) (hb : 0x80 ≤ b.toNat)
    (more : List UInt8) : ∃ low high, leadShape b.toNat = some (tail.length, low, high) ∧
      readTail tail.length low high (leadBits b.toNat tail.length) (tail ++ more) = .inl c.toNat := by
  match tail, hc with
  | [], hc =>
    have hsmall := (utf8EncodeChar_eq_one_iff.mp hc).1
    omega
  | [b₁], hc =>
    obtain ⟨hb, h₁, hcode⟩ := utf8EncodeChar_eq_two_iff.mp hc
    refine ⟨_, _, leadShape_eq_some_iff.mpr (.inl ⟨rfl, hb, rfl, rfl⟩), ?_⟩
    refine readTail_succ_iff.mpr ⟨b₁, more, rfl, h₁, readTail_zero_iff.mpr hcode.symm⟩
  | [b₁, b₂], hc =>
    obtain ⟨hb, h₁, h₂, hfirst, hlast, hcode⟩ := utf8EncodeChar_eq_three_iff.mp hc
    have hlow := (low_le_iff (by decide)).mpr ⟨h₁.1, hfirst⟩
    have hhigh := (le_high_iff (by decide)).mpr ⟨h₁.2, hlast⟩
    refine ⟨_, _, leadShape_eq_some_iff.mpr (.inr (.inl ⟨rfl, hb, rfl, rfl⟩)), ?_⟩
    refine readTail_succ_iff.mpr ⟨b₁, b₂ :: more, rfl, ⟨hlow, hhigh⟩, ?_⟩
    refine readTail_succ_iff.mpr ⟨b₂, more, rfl, h₂, readTail_zero_iff.mpr hcode.symm⟩
  | [b₁, b₂, b₃], hc =>
    obtain ⟨hb, h₁, h₂, h₃, hfirst, hlast, hcode⟩ := utf8EncodeChar_eq_four_iff.mp hc
    have hlow := (low_le_iff (by decide)).mpr ⟨h₁.1, hfirst⟩
    have hhigh := (le_high_iff (by decide)).mpr ⟨h₁.2, hlast⟩
    refine ⟨_, _, leadShape_eq_some_iff.mpr (.inr (.inr ⟨rfl, hb, rfl, rfl⟩)), ?_⟩
    refine readTail_succ_iff.mpr ⟨b₁, b₂ :: b₃ :: more, rfl, ⟨hlow, hhigh⟩, ?_⟩
    refine readTail_succ_iff.mpr ⟨b₂, b₃ :: more, rfl, h₂, ?_⟩
    refine readTail_succ_iff.mpr ⟨b₃, more, rfl, h₃, readTail_zero_iff.mpr hcode.symm⟩
  | b₁ :: b₂ :: b₃ :: b₄ :: tail, hc =>
    have hlength := congrArg List.length hc
    have hsize := c.utf8Size_le_four
    rw [String.length_utf8EncodeChar] at hlength
    simp only [List.length_cons] at hlength
    omega

/-! ## Texts -/

theorem decodeFrom_skip (start : Nat) (tail more : List UInt8) :
    decodeFrom start tail.length (tail ++ more) = decodeFrom (start + tail.length) 0 more := by
  induction tail generalizing start with
  | nil => rfl
  | cons b tail ih =>
    have hstart : start + (b :: tail).length = start + 1 + tail.length := by
      simp only [List.length_cons]
      omega
    rw [hstart, ← ih (start + 1)]
    rfl

theorem decodeFrom_utf8EncodeChar_append (start : Nat) (c : Char) (more : List UInt8) :
    ∃ behind, decodeFrom start 0 (utf8EncodeChar c ++ more) = (do
      return c :: (← decodeFrom behind 0 more)) := by
  rcases exists_lead c with ⟨b, hc⟩ | ⟨b, tail, hc, hb⟩
  · obtain ⟨hb, hcode⟩ := utf8EncodeChar_eq_one_iff.mp hc
    refine ⟨start + 1, ?_⟩
    rw [hc, List.singleton_append, decodeFrom, if_pos hb, ← hcode, Char.ofNat_toNat]
  · obtain ⟨low, high, hshape, htail⟩ := exists_readTail hc hb more
    have hlarge : ¬ b.toNat < 0x80 := by omega
    refine ⟨start + 1 + tail.length, ?_⟩
    rw [hc, List.cons_append, decodeFrom, if_neg hlarge]
    simp only [hshape, htail, Char.ofNat_toNat, decodeFrom_skip]

theorem decodeFrom_flatMap (start : Nat) (text : List Char) :
    decodeFrom start 0 (text.flatMap utf8EncodeChar) = .ok text := by
  induction text generalizing start with
  | nil => rfl
  | cons c text ih =>
    obtain ⟨behind, hdecode⟩ :=
      decodeFrom_utf8EncodeChar_append start c (text.flatMap utf8EncodeChar)
    rw [List.flatMap_cons, hdecode, ih behind]
    rfl

theorem exists_of_decoded {decoded : Except Utf8Error (List Char)} {text : List Char}
    (h : (do return c :: (← decoded)) = Except.ok text) :
    ∃ rest, decoded = .ok rest ∧ text = c :: rest := by
  cases decoded with
  | error e => cases h
  | ok rest =>
    cases h
    exact ⟨rest, rfl, rfl⟩

theorem drop_eq_of_decodeFrom {skip : Nat} {text : List Char}
    (h : decodeFrom start skip bytes = .ok text) : bytes.drop skip = text.flatMap utf8EncodeChar := by
  fun_induction decodeFrom start skip bytes generalizing text with
  | case1 start skip =>
    cases h
    simp
  | case2 start skip b rest ih => exact ih h
  | case3 start b rest hb ih =>
    obtain ⟨more, hmore, rfl⟩ := exists_of_decoded h
    have hvalid : b.toNat.isValidChar := .inl (by omega)
    have hc := utf8EncodeChar_eq_one_iff.mpr ⟨hb, toNat_ofNat_of_valid hvalid⟩
    rw [List.flatMap_cons, hc, ← ih hmore]
    rfl
  | case4 => cases h
  | case5 => cases h
  | case6 start b rest hb count low high hshape code htail ih =>
    obtain ⟨cs, hmore, rfl⟩ := exists_of_decoded h
    obtain ⟨tail, more, rfl, rfl, hc⟩ := exists_of_readTail hshape htail
    rw [List.flatMap_cons, hc, ← ih hmore, List.drop_left]
    rfl

/-- Decoding gives a text from the bytes that it is written with, and from no others. -/
theorem decodeUtf8_eq_ok_iff {text : List Char} :
    decodeUtf8 bytes = .ok text ↔ bytes = text.flatMap utf8EncodeChar := by
  constructor
  · intro h
    exact drop_eq_of_decodeFrom h
  · rintro rfl
    exact decodeFrom_flatMap 0 text

def IsUtf8 (bytes : List UInt8) : Prop := ∃ text : List Char, bytes = text.flatMap utf8EncodeChar

theorem isUtf8_iff : IsUtf8 bytes ↔ ∃ text, decodeUtf8 bytes = .ok text := by
  simp only [IsUtf8, decodeUtf8_eq_ok_iff]

end ObjectCatalog.Text
