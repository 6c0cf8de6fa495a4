import ObjectCatalog.Proofs.Decimal.Numerals
import ObjectCatalog.Text.Quoted

/-! # The grammar of JSON texts

What a JSON text stands for, told by what is left of it behind each of its phrases. The texts of the
standard know three names; many readers also take three words for the numbers that have no numeral.
Main statement: a text stands for one thing at most, with or without these words.
-/
namespace ObjectCatalog.Json

inductive Word
  | nan
  | infinity
  | minusInfinity

def Word.chars : Word → List Char
  | .nan => ['N', 'a', 'N']
  | .infinity => ['I', 'n', 'f', 'i', 'n', 'i', 't', 'y']
  | .minusInfinity => ['-', 'I', 'n', 'f', 'i', 'n', 'i', 't', 'y']

inductive Data
  | null
  | bool (b : Bool)
  | number (numeral : List Char)
  | word (w : Word)
  | text (s : String)
  | array (items : List Data)
  | object (members : List (String × Data))

/-! ## Signs and texts -/

def isBlank (c : Char) : Bool := [' ', '\t', '\n', '\r'].contains c

def skip (text : List Char) : List Char := text.dropWhile isBlank

def escapes : List (Char × Nat) :=
  [('"', 0x22), ('\\', 0x5c), ('/', 0x2f), ('b', 0x08), ('f', 0x0c), ('n', 0x0a), ('r', 0x0d),
    ('t', 0x09)]

def hexNumber? (digits : List Char) : Option Nat :=
  digits.foldlM (fun n c => (Text.hexValue? c).map (16 * n + ·)) 0

/-- A text up to its quotation mark. Its characters stand for themselves, or are written as a
backslash and a sign, or as one or two numbers of four hexadecimal digits. -/
inductive Codes : List Char → List Nat → List Char → Prop
  | close (t : List Char) : Codes ('"' :: t) [] t
  | plain {c : Char} {s t : List Char} {codes : List Nat} (hcontrol : 0x20 ≤ c.toNat)
    (hquote : c ≠ '"') (hescape : c ≠ '\\') (h : Codes s codes t) : Codes (c :: s) (c.toNat :: codes) t
  | escape {sign : Char} {code : Nat} {s t : List Char} {codes : List Nat}
    (hsign : escapes.lookup sign = some code) (h : Codes s codes t) :
    Codes ('\\' :: sign :: s) (code :: codes) t
  | number {a b c d : Char} {code : Nat} {s t : List Char} {codes : List Nat}
    (hcode : hexNumber? [a, b, c, d] = some code) (h : Codes s codes t) :
    Codes ('\\' :: 'u' :: a :: b :: c :: d :: s) (code :: codes) t

def isHighHalf (code : Nat) : Bool := 0xd800 ≤ code && code < 0xdc00

def isLowHalf (code : Nat) : Bool := 0xdc00 ≤ code && code < 0xe000

def character (code : Nat) : Char :=
  if code.isValidChar then Char.ofNat code else Char.ofNat 0xfffd

def characters : List Nat → List Char
  | [] => []
  | [code] => [character code]
  | high :: low :: codes =>
    if isHighHalf high && isLowHalf low then
      Char.ofNat (0x10000 + (high - 0xd800) * 0x400 + (low - 0xdc00)) :: characters codes
    else character high :: characters (low :: codes)

def textOf (codes : List Nat) : String := String.ofList (characters codes)

/-! ## Phrases -/

inductive IsName (words : Bool) : List Char → Data → Prop
  | null : IsName words ['n', 'u', 'l', 'l'] .null
  | ofTrue : IsName words ['t', 'r', 'u', 'e'] (.bool true)
  | ofFalse : IsName words ['f', 'a', 'l', 's', 'e'] (.bool false)
  | word (hwords : words = true) (w : Word) : IsName words w.chars (.word w)

/-- What may stand in a text: a value, the items of an array with the bracket behind them, one
member of an object, or its members with the brace behind them. -/
inductive Phrase
  | value (d : Data)
  | items (ds : List Data)
  | member (m : String × Data)
  | members (ms : List (String × Data))

/-- A phrase at the beginning of a text, and what is left behind it. -/
inductive Reads (words : Bool) : List Char → Phrase → List Char → Prop
  | name {name t : List Char} {d : Data} (h : IsName words name d) :
    Reads words (name ++ t) (.value d) t
  | number {s : List Char} (h : Decimal.IsNumeral (s.takeWhile Decimal.isNumeralSign)) :
    Reads words s (.value (.number (s.takeWhile Decimal.isNumeralSign)))
      (s.dropWhile Decimal.isNumeralSign)
  | text {s t : List Char} {codes : List Nat} (h : Codes s codes t) :
    Reads words ('"' :: s) (.value (.text (textOf codes))) t
  | noItems {s t : List Char} (h : skip s = ']' :: t) : Reads words ('[' :: s) (.value (.array [])) t
  | array {s t : List Char} {ds : List Data} (h : Reads words s (.items ds) t) :
    Reads words ('[' :: s) (.value (.array ds)) t
  | noMembers {s t : List Char} (h : skip s = '\x7d' :: t) :
    Reads words ('\x7b' :: s) (.value (.object [])) t
  | object {s t : List Char} {ms : List (String × Data)} (h : Reads words s (.members ms) t) :
    Reads words ('\x7b' :: s) (.value (.object ms)) t
  | lastItem {s t u : List Char} {d : Data} (hitem : Reads words (skip s) (.value d) u)
    (hclose : skip u = ']' :: t) : Reads words s (.items [d]) t
  | item {s t u v : List Char} {d : Data} {ds : List Data}
    (hitem : Reads words (skip s) (.value d) u) (hcomma : skip u = ',' :: v)
    (hitems : Reads words v (.items ds) t) : Reads words s (.items (d :: ds)) t
  | member {s t u v k : List Char} {codes : List Nat} {d : Data} (hopen : skip s = '"' :: k)
    (hkey : Codes k codes u) (hcolon : skip u = ':' :: v)
    (hvalue : Reads words (skip v) (.value d) t) : Reads words s (.member (textOf codes, d)) t
  | lastMember {s t u : List Char} {m : String × Data} (hmember : Reads words s (.member m) u)
    (hclose : skip u = '\x7d' :: t) : Reads words s (.members [m]) t
  | members {s t u v : List Char} {m : String × Data} {ms : List (String × Data)}
    (hmember : Reads words s (.member m) u) (hcomma : skip u = ',' :: v)
    (hmembers : Reads words v (.members ms) t) : Reads words s (.members (m :: ms)) t

/-- A whole text, which may have blanks around what it stands for. -/
def Denotes (words : Bool) (text : String) (d : Data) : Prop :=
  ∃ t, Reads words (skip text.toList) (.value d) t ∧ skip t = []

def IsJson (text : String) : Prop := ∃ d, Denotes false text d

/-! ## One reading at most -/

theorem Codes.unique {s t u : List Char} {codes others : List Nat} (h : Codes s codes t)
    (hother : Codes s others u) : codes = others ∧ t = u := by
  have hname : escapes.lookup 'u' = none := by decide
  induction h generalizing others with
  | close t =>
    cases hother with
    | close => exact ⟨rfl, rfl⟩
    | plain _ hquote => exact absurd rfl hquote
  | plain hcontrol hquote hescape h ih =>
    cases hother with
    | close => exact absurd rfl hquote
    | plain _ _ _ hother =>
      obtain ⟨rfl, rfl⟩ := ih hother
      exact ⟨rfl, rfl⟩
    | escape => exact absurd rfl hescape
    | number => exact absurd rfl hescape
  | escape hsign h ih =>
    cases hother with
    | plain _ _ hescape => exact absurd rfl hescape
    | escape hother hrest =>
      obtain ⟨rfl, rfl⟩ := ih hrest
      exact ⟨by simp_all, rfl⟩
    | number => simp_all
  | number hcode h ih =>
    cases hother with
    | plain _ _ hescape => exact absurd rfl hescape
    | escape hother => simp_all
    | number hother hrest =>
      obtain ⟨rfl, rfl⟩ := ih hrest
      exact ⟨by simp_all, rfl⟩

variable {words : Bool}

theorem IsName.unique {name other t u : List Char} {d e : Data} (h : IsName words name d)
    (hother : IsName words other e) (heq : name ++ t = other ++ u) : d = e ∧ t = u := by
  cases h with
  | word hwords w =>
    cases hother with
    | word _ v => cases w <;> cases v <;> simp_all [Word.chars]
    | _ => cases w <;> simp [Word.chars] at heq
  | _ =>
    cases hother with
    | word _ v => cases v <;> simp [Word.chars] at heq
    | _ => simp_all

/-- No numeral begins like a name. -/
theorem IsName.not_isNumeral {name : List Char} {d : Data} (h : IsName words name d)
    (t : List Char) : ¬ Decimal.IsNumeral ((name ++ t).takeWhile Decimal.isNumeralSign) := by
  intro hnumeral
  obtain ⟨first, rest, heq, hfirst⟩ := hnumeral.exists_cons
  cases h with
  | word _ w =>
    cases w with
    | minusInfinity =>
      obtain ⟨rfl, rfl⟩ : '-' = first ∧ [] = rest := by
        simpa [Word.chars, Decimal.isNumeralSign, List.takeWhile_cons] using heq
      simp at hfirst
    | _ => simp [Word.chars, Decimal.isNumeralSign] at heq
  | _ => simp [Decimal.isNumeralSign] at heq

theorem IsName.head {name : List Char} {d : Data} (h : IsName words name d) :
    ∃ c rest, name = c :: rest ∧ c ∈ ['n', 't', 'f', 'N', 'I', '-'] := by
  cases h with
  | word _ w => cases w <;> exact ⟨_, _, rfl, by decide⟩
  | _ => exact ⟨_, _, rfl, by decide⟩

/-- The ways in which a text may begin with a value. -/
theorem Reads.value_cases {s t : List Char} {d : Data} (h : Reads words s (.value d) t) :
    (∃ name, IsName words name d ∧ s = name ++ t) ∨
      (Decimal.IsNumeral (s.takeWhile Decimal.isNumeralSign) ∧
        d = .number (s.takeWhile Decimal.isNumeralSign) ∧ t = s.dropWhile Decimal.isNumeralSign) ∨
      (∃ k codes, s = '"' :: k ∧ Codes k codes t ∧ d = .text (textOf codes)) ∨
      (∃ k, s = '[' :: k ∧ ((skip k = ']' :: t ∧ d = .array []) ∨
        ∃ ds, Reads words k (.items ds) t ∧ d = .array ds)) ∨
      ∃ k, s = '\x7b' :: k ∧ ((skip k = '\x7d' :: t ∧ d = .object []) ∨
        ∃ ms, Reads words k (.members ms) t ∧ d = .object ms) := by
  cases h with
  | name h => exact .inl ⟨_, h, rfl⟩
  | number h => exact .inr (.inl ⟨h, rfl, rfl⟩)
  | text h => exact .inr (.inr (.inl ⟨_, _, rfl, h, rfl⟩))
  | noItems h => exact .inr (.inr (.inr (.inl ⟨_, rfl, .inl ⟨h, rfl⟩⟩)))
  | array h => exact .inr (.inr (.inr (.inl ⟨_, rfl, .inr ⟨_, h, rfl⟩⟩)))
  | noMembers h => exact .inr (.inr (.inr (.inr ⟨_, rfl, .inl ⟨h, rfl⟩⟩)))
  | object h => exact .inr (.inr (.inr (.inr ⟨_, rfl, .inr ⟨_, h, rfl⟩⟩)))

theorem not_isNumeral_of_head {c : Char} (hc : Decimal.isNumeralSign c = false) (s : List Char) :
    ¬ Decimal.IsNumeral ((c :: s).takeWhile Decimal.isNumeralSign) := by
  intro h
  obtain ⟨first, rest, heq, -⟩ := h.exists_cons
  simp [hc] at heq

/-- Behind a mark or a bracket that opens a value there is neither a name nor a numeral. -/
theorem IsName.ne_of_opening {name s t : List Char} {d : Data} {c : Char} (h : IsName words name d)
    (hc : c ∈ ['"', '[', '\x7b', ']', '\x7d']) : c :: s ≠ name ++ t := by
  obtain ⟨first, rest, rfl, hfirst⟩ := h.head
  intro heq
  obtain ⟨rfl, -⟩ := List.cons.inj heq
  have hapart : ∀ x ∈ ['"', '[', '\x7b', ']', '\x7d'], x ∉ ['n', 't', 'f', 'N', 'I', '-'] := by
    simp
  exact hapart c hc hfirst

namespace Reads

variable {s t u : List Char} {d : Data}

theorem of_name {name : List Char} {e : Data} (hname : IsName words name e)
    (h : Reads words (name ++ u) (.value d) t) : e = d ∧ u = t := by
  have hopening : name ++ u ≠ [] := by
    obtain ⟨c, rest, rfl, -⟩ := hname.head
    simp
  rcases h.value_cases with ⟨other, hother, heq⟩ | ⟨hnumeral, -, -⟩ | ⟨k, codes, heq, -, -⟩ |
    ⟨k, heq, -⟩ | ⟨k, heq, -⟩
  · exact hname.unique hother heq
  · exact absurd hnumeral (hname.not_isNumeral u)
  · exact absurd heq.symm (hname.ne_of_opening (by decide))
  · exact absurd heq.symm (hname.ne_of_opening (by decide))
  · exact absurd heq.symm (hname.ne_of_opening (by decide))

theorem of_numeral (hnumeral : Decimal.IsNumeral (s.takeWhile Decimal.isNumeralSign))
    (h : Reads words s (.value d) t) : .number (s.takeWhile Decimal.isNumeralSign) = d ∧
      s.dropWhile Decimal.isNumeralSign = t := by
  rcases h.value_cases with ⟨name, hname, rfl⟩ | ⟨-, rfl, rfl⟩ | ⟨k, codes, rfl, -, -⟩ |
    ⟨k, rfl, -⟩ | ⟨k, rfl, -⟩
  · exact absurd hnumeral (hname.not_isNumeral t)
  · exact ⟨rfl, rfl⟩
  · exact absurd hnumeral (not_isNumeral_of_head (by decide) k)
  · exact absurd hnumeral (not_isNumeral_of_head (by decide) k)
  · exact absurd hnumeral (not_isNumeral_of_head (by decide) k)

theorem of_quote {k : List Char} (h : Reads words ('"' :: k) (.value d) t) :
    ∃ codes, Codes k codes t ∧ d = .text (textOf codes) := by
  rcases h.value_cases with ⟨name, hname, heq⟩ | ⟨hnumeral, -, -⟩ | ⟨_, codes, heq, hcodes, hd⟩ |
    ⟨_, heq, -⟩ | ⟨_, heq, -⟩
  · exact absurd heq (hname.ne_of_opening (by decide))
  · exact absurd hnumeral (not_isNumeral_of_head (by decide) k)
  · obtain ⟨-, rfl⟩ := List.cons.inj heq
    exact ⟨codes, hcodes, hd⟩
  · simp at heq
  · simp at heq

theorem not_close (h : Reads words (']' :: s) (.value d) t) : False := by
  rcases h.value_cases with ⟨name, hname, heq⟩ | ⟨hnumeral, -, -⟩ | ⟨_, codes, heq, -, -⟩ |
    ⟨_, heq, -⟩ | ⟨_, heq, -⟩
  · exact absurd heq (hname.ne_of_opening (by decide))
  · exact absurd hnumeral (not_isNumeral_of_head (by decide) s)
  · simp at heq
  · simp at heq
  · simp at heq

theorem of_bracket {k : List Char} (h : Reads words ('[' :: k) (.value d) t) :
    (skip k = ']' :: t ∧ d = .array []) ∨ ∃ ds, Reads words k (.items ds) t ∧ d = .array ds := by
  rcases h.value_cases with ⟨name, hname, heq⟩ | ⟨hnumeral, -, -⟩ | ⟨_, codes, heq, -, -⟩ |
    ⟨_, heq, hrest⟩ | ⟨_, heq, -⟩
  · exact absurd heq (hname.ne_of_opening (by decide))
  · exact absurd hnumeral (not_isNumeral_of_head (by decide) k)
  · simp at heq
  · obtain ⟨-, rfl⟩ := List.cons.inj heq
    exact hrest
  · simp at heq

theorem of_brace {k : List Char} (h : Reads words ('\x7b' :: k) (.value d) t) :
    (skip k = '\x7d' :: t ∧ d = .object []) ∨
      ∃ ms, Reads words k (.members ms) t ∧ d = .object ms := by
  rcases h.value_cases with ⟨name, hname, heq⟩ | ⟨hnumeral, -, -⟩ | ⟨_, codes, heq, -, -⟩ |
    ⟨_, heq, -⟩ | ⟨_, heq, hrest⟩
  · exact absurd heq (hname.ne_of_opening (by decide))
  · exact absurd hnumeral (not_isNumeral_of_head (by decide) k)
  · simp at heq
  · simp at heq
  · obtain ⟨-, rfl⟩ := List.cons.inj heq
    exact hrest

/-- A bracket that closes an array is no item of it, and a brace no member. -/
theorem not_items {ds : List Data} (h : Reads words s (.items ds) t) : skip s ≠ ']' :: u := by
  intro hclose
  cases h with
  | lastItem hitem => exact not_close (hclose ▸ hitem)
  | item hitem => exact not_close (hclose ▸ hitem)

theorem not_members {ms : List (String × Data)} (h : Reads words s (.members ms) t) :
    skip s ≠ '\x7d' :: u := by
  intro hclose
  have hmember {m : String × Data} {v : List Char} (hm : Reads words s (.member m) v) : False := by
    cases hm with
    | member hopen => simp [hclose] at hopen
  cases h with
  | lastMember hm => exact hmember hm
  | members hm => exact hmember hm

end Reads

def Phrase.SameSort : Phrase → Phrase → Prop
  | .value _, .value _ | .items _, .items _ | .member _, .member _ | .members _, .members _ => True
  | _, _ => False

theorem Phrase.SameSort.exists_value {d : Data} {q : Phrase} (h : (Phrase.value d).SameSort q) :
    ∃ e, q = .value e := by
  cases q with
  | value e => exact ⟨e, rfl⟩
  | _ => cases h

/-- A text begins with one phrase of a sort at most. -/
theorem Reads.unique {s t u : List Char} {p q : Phrase} (h : Reads words s p t)
    (hother : Reads words s q u) (hsort : p.SameSort q) : p = q ∧ t = u := by
  induction h generalizing q u with
  | name hname =>
    obtain ⟨e, rfl⟩ := hsort.exists_value
    obtain ⟨rfl, rfl⟩ := of_name hname hother
    exact ⟨rfl, rfl⟩
  | number hnumeral =>
    obtain ⟨e, rfl⟩ := hsort.exists_value
    obtain ⟨rfl, rfl⟩ := of_numeral hnumeral hother
    exact ⟨rfl, rfl⟩
  | text hcodes =>
    obtain ⟨e, rfl⟩ := hsort.exists_value
    obtain ⟨others, hothers, rfl⟩ := of_quote hother
    obtain ⟨rfl, rfl⟩ := hcodes.unique hothers
    exact ⟨rfl, rfl⟩
  | noItems hclose =>
    obtain ⟨e, rfl⟩ := hsort.exists_value
    rcases of_bracket hother with ⟨hagain, rfl⟩ | ⟨ds, hds, rfl⟩
    · rw [hclose] at hagain
      cases hagain
      exact ⟨rfl, rfl⟩
    · exact absurd hclose hds.not_items
  | array hitems ih =>
    obtain ⟨e, rfl⟩ := hsort.exists_value
    rcases of_bracket hother with ⟨hclose, rfl⟩ | ⟨ds, hds, rfl⟩
    · exact absurd hclose hitems.not_items
    · obtain ⟨heq, rfl⟩ := ih hds trivial
      cases heq
      exact ⟨rfl, rfl⟩
  | noMembers hclose =>
    obtain ⟨e, rfl⟩ := hsort.exists_value
    rcases of_brace hother with ⟨hagain, rfl⟩ | ⟨ms, hms, rfl⟩
    · rw [hclose] at hagain
      cases hagain
      exact ⟨rfl, rfl⟩
    · exact absurd hclose hms.not_members
  | object hmembers ih =>
    obtain ⟨e, rfl⟩ := hsort.exists_value
    rcases of_brace hother with ⟨hclose, rfl⟩ | ⟨ms, hms, rfl⟩
    · exact absurd hclose hmembers.not_members
    · obtain ⟨heq, rfl⟩ := ih hms trivial
      cases heq
      exact ⟨rfl, rfl⟩
  | lastItem hitem hclose ih =>
    cases hother with
    | lastItem hother hagain =>
      obtain ⟨heq, rfl⟩ := ih hother trivial
      cases heq
      rw [hclose] at hagain
      cases hagain
      exact ⟨rfl, rfl⟩
    | item hother hagain =>
      obtain ⟨-, rfl⟩ := ih hother trivial
      simp [hclose] at hagain
    | _ => cases hsort
  | item hitem hcomma hitems ih ihrest =>
    cases hother with
    | lastItem hother hagain =>
      obtain ⟨-, rfl⟩ := ih hother trivial
      simp [hcomma] at hagain
    | item hother hagain hrest =>
      obtain ⟨heq, rfl⟩ := ih hother trivial
      cases heq
      rw [hcomma] at hagain
      cases hagain
      obtain ⟨heq, rfl⟩ := ihrest hrest trivial
      cases heq
      exact ⟨rfl, rfl⟩
    | _ => cases hsort
  | member hopen hkey hcolon hvalue ih =>
    cases hother with
    | member hopens hkeys hcolons hvalues =>
      rw [hopen] at hopens
      cases hopens
      obtain ⟨rfl, rfl⟩ := hkey.unique hkeys
      rw [hcolon] at hcolons
      cases hcolons
      obtain ⟨heq, rfl⟩ := ih hvalues trivial
      cases heq
      exact ⟨rfl, rfl⟩
    | _ => cases hsort
  | lastMember hmember hclose ih =>
    cases hother with
    | lastMember hother hagain =>
      obtain ⟨heq, rfl⟩ := ih hother trivial
      cases heq
      rw [hclose] at hagain
      cases hagain
      exact ⟨rfl, rfl⟩
    | members hother hagain =>
      obtain ⟨-, rfl⟩ := ih hother trivial
      simp [hclose] at hagain
    | _ => cases hsort
  | members hmember hcomma hmembers ih ihrest =>
    cases hother with
    | lastMember hother hagain =>
      obtain ⟨-, rfl⟩ := ih hother trivial
      simp [hcomma] at hagain
    | members hother hagain hrest =>
      obtain ⟨heq, rfl⟩ := ih hother trivial
      cases heq
      rw [hcomma] at hagain
      cases hagain
      obtain ⟨heq, rfl⟩ := ihrest hrest trivial
      cases heq
      exact ⟨rfl, rfl⟩
    | _ => cases hsort

/-- A text stands for one thing at most. -/
theorem Denotes.unique {text : String} {d e : Data} (h : Denotes words text d)
    (hother : Denotes words text e) : d = e := by
  obtain ⟨t, hread, -⟩ := h
  obtain ⟨u, hagain, -⟩ := hother
  obtain ⟨heq, -⟩ := hread.unique hagain trivial
  cases heq
  rfl

/-! ## Texts of the standard -/

mutual

def Data.isPlain : Data → Bool
  | .word _ => false
  | .array items => allPlain items
  | .object members => membersPlain members
  | _ => true

def allPlain : List Data → Bool
  | [] => true
  | d :: ds => d.isPlain && allPlain ds

def membersPlain : List (String × Data) → Bool
  | [] => true
  | (_, d) :: ms => d.isPlain && membersPlain ms

end

def Phrase.isPlain : Phrase → Bool
  | .value d => d.isPlain
  | .items ds => allPlain ds
  | .member (_, d) => d.isPlain
  | .members ms => membersPlain ms

@[simp] theorem Phrase.isPlain_array (ds : List Data) :
    (Phrase.value (.array ds)).isPlain = (Phrase.items ds).isPlain := by
  simp [isPlain, Data.isPlain]

@[simp] theorem Phrase.isPlain_object (ms : List (String × Data)) :
    (Phrase.value (.object ms)).isPlain = (Phrase.members ms).isPlain := by
  simp [isPlain, Data.isPlain]

@[simp] theorem Phrase.isPlain_items_nil : (Phrase.items []).isPlain = true := rfl

@[simp] theorem Phrase.isPlain_members_nil : (Phrase.members []).isPlain = true := rfl

@[simp] theorem Phrase.isPlain_items_cons (d : Data) (ds : List Data) :
    (Phrase.items (d :: ds)).isPlain =
      ((Phrase.value d).isPlain && (Phrase.items ds).isPlain) := by
  simp [isPlain, allPlain]

@[simp] theorem Phrase.isPlain_members_cons (m : String × Data) (ms : List (String × Data)) :
    (Phrase.members (m :: ms)).isPlain =
      ((Phrase.member m).isPlain && (Phrase.members ms).isPlain) := by
  simp [isPlain, membersPlain]

theorem IsName.change {others : Bool} {name : List Char} {d : Data} (h : IsName words name d)
    (hplain : others = false → d.isPlain = true) : IsName others name d := by
  cases h with
  | null => exact .null
  | ofTrue => exact .ofTrue
  | ofFalse => exact .ofFalse
  | word _ w =>
    refine .word ?_ w
    by_contra hothers
    have := hplain (by simpa using hothers)
    simp [Data.isPlain] at this

/-- Readers that know the words and readers that do not agree on a phrase without words. -/
theorem Reads.change {others : Bool} {s t : List Char} {p : Phrase} (h : Reads words s p t)
    (hplain : others = false → p.isPlain = true) : Reads others s p t := by
  induction h with
  | name h => exact .name (h.change hplain)
  | number h => exact .number h
  | text h => exact .text h
  | noItems h => exact .noItems h
  | array _ ih => exact .array (ih (by simpa using hplain))
  | noMembers h => exact .noMembers h
  | object _ ih => exact .object (ih (by simpa using hplain))
  | lastItem _ hclose ih => exact .lastItem (ih fun h => by simp_all) hclose
  | item _ hcomma _ ih ihrest =>
    exact .item (ih fun h => by simp_all) hcomma (ihrest fun h => by simp_all)
  | member hopen hkey hcolon _ ih => exact .member hopen hkey hcolon (ih hplain)
  | lastMember _ hclose ih => exact .lastMember (ih fun h => by simp_all) hclose
  | members _ hcomma _ ih ihrest =>
    exact .members (ih fun h => by simp_all) hcomma (ihrest fun h => by simp_all)

theorem Reads.isPlain {s t : List Char} {p : Phrase} (h : Reads false s p t) : p.isPlain = true := by
  induction h with
  | name h =>
    cases h with
    | word hwords => cases hwords
    | _ => rfl
  | number | text | noItems | noMembers => rfl
  | array _ ih => exact ih
  | object _ ih => exact ih
  | lastItem _ _ ih => simpa using ih
  | item _ _ _ ih ihrest => simp [ih, ihrest]
  | member _ _ _ _ ih => exact ih
  | lastMember _ _ ih => simpa using ih
  | members _ _ _ ih ihrest => simp [ih, ihrest]

/-- A text that may have words for numbers is one of the standard if there are none in what it
stands for. -/
theorem isJson_iff_isPlain {text : String} {d : Data} (h : Denotes true text d) :
    IsJson text ↔ d.isPlain = true := by
  constructor
  · rintro ⟨e, t, hread, hrest⟩
    have hsame : d = e := h.unique ⟨t, hread.change (by simp), hrest⟩
    exact hsame ▸ hread.isPlain
  · intro hplain
    obtain ⟨t, hread, hrest⟩ := h
    exact ⟨d, t, hread.change fun _ => hplain, hrest⟩

end ObjectCatalog.Json
