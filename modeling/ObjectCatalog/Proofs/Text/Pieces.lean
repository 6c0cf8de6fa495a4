import Mathlib.Data.List.TakeWhile
import ObjectCatalog.Text.Split
import ObjectCatalog.Text.WordChar

/-! # Texts put together from pieces

A text is split at the first of a sign in one way only. So a text in which pieces are joined by a
separator comes from one list of pieces alone, as long as some sign of the separator is in none of
them; where the separator is a single sign, splitting gives these pieces. A name of word characters
ends where another character begins.
-/
namespace ObjectCatalog.Text

variable {sign : Char}

/-! ## Signs -/

theorem takeWhile_append_stop {p : Char → Bool} (hx : p x = false) (text more : List Char) :
    (text ++ x :: more).takeWhile p = text.takeWhile p := by
  induction text with
  | nil => simp [hx]
  | cons c text ih =>
    rw [List.cons_append, List.takeWhile_cons, List.takeWhile_cons, ih]

theorem dropWhile_append_stop {p : Char → Bool} (hx : p x = false) (text more : List Char) :
    (text ++ x :: more).dropWhile p = text.dropWhile p ++ x :: more := by
  induction text with
  | nil => simp [hx]
  | cons c text ih =>
    rw [List.cons_append, List.dropWhile_cons, List.dropWhile_cons, ih]
    split <;> rfl

/-- Two ways to split a text at a sign, the second at its first one. -/
theorem append_cons_cases {sign : Char} {x y rest tail : List Char} (hy : sign ∉ y)
    (h : x ++ sign :: rest = y ++ sign :: tail) :
    (x = y ∧ rest = tail) ∨
      ∃ between, x = y ++ sign :: between ∧ tail = between ++ sign :: rest := by
  rcases List.append_eq_append_iff.mp h with ⟨between, rfl, hrest⟩ | ⟨between, rfl, htail⟩
  · cases between with
    | nil => exact .inl ⟨by simp, by simpa using hrest⟩
    | cons c between =>
      obtain ⟨rfl, -⟩ := List.cons.inj hrest
      exact absurd (by simp) hy
  · cases between with
    | nil => exact .inl ⟨by simp, by simpa using htail.symm⟩
    | cons c between =>
      obtain ⟨rfl, hmore⟩ := List.cons.inj htail
      exact .inr ⟨between, rfl, hmore⟩

/-- A text without a sign stands whole behind any such sign of a text that it ends. -/
theorem split_of_append_cons {sign : Char} {x y front tail : List Char} (hy : sign ∉ y)
    (h : x ++ y = front ++ sign :: tail) :
    ∃ between, x = front ++ sign :: between ∧ tail = between ++ y := by
  rcases List.append_eq_append_iff.mp h with ⟨between, -, rfl⟩ | ⟨between, rfl, htail⟩
  · exact absurd (by simp) hy
  · cases between with
    | nil =>
      rw [List.nil_append] at htail
      exact absurd (htail ▸ List.mem_cons_self) hy
    | cons c between =>
      obtain ⟨rfl, hmore⟩ := List.cons.inj htail
      exact ⟨between, rfl, hmore⟩

/-- A text is split at the first of a sign in one way only. -/
theorem append_cons_inj {sign : Char} {x y rest tail : List Char} (hx : sign ∉ x)
    (hy : sign ∉ y) : x ++ sign :: rest = y ++ sign :: tail ↔ x = y ∧ rest = tail := by
  constructor
  · intro h
    rcases append_cons_cases hy h with hsame | ⟨between, rfl, -⟩
    · exact hsame
    · exact absurd (by simp) hx
  · rintro ⟨rfl, rfl⟩
    rfl

/-! ## Joined pieces -/

def PiecesWithout (sign : Char) (pieces : List (List Char)) : Prop :=
  ∀ piece ∈ pieces, piece ≠ [] ∧ sign ∉ piece

theorem ne_nil_of_intercalate {separator piece : List Char} {pieces : List (List Char)}
    (h : piece ≠ []) : separator.intercalate (piece :: pieces) ≠ [] := by
  cases pieces with
  | nil => rwa [List.intercalate_singleton]
  | cons next pieces =>
    rw [List.intercalate_cons_cons]
    simp [h]

theorem notMem_intercalate {separator : List Char} {pieces : List (List Char)}
    (hseparator : sign ∉ separator) (h : ∀ piece ∈ pieces, sign ∉ piece) :
    sign ∉ separator.intercalate pieces := by
  induction pieces with
  | nil => exact List.not_mem_nil
  | cons piece pieces ih =>
    obtain ⟨hpiece, hpieces⟩ := List.forall_mem_cons.mp h
    cases pieces with
    | nil => rwa [List.intercalate_singleton]
    | cons next pieces =>
      rw [List.intercalate_cons_cons, List.mem_append, List.mem_append]
      exact not_or.mpr ⟨not_or.mpr ⟨hpiece, hseparator⟩, ih hpieces⟩

/-- Pieces can be told apart by a sign that the separator has and they do not have. -/
theorem intercalate_inj (front back : List Char) {xs ys : List (List Char)} (hfront : sign ∉ front)
    (hxs : PiecesWithout sign xs) (hys : PiecesWithout sign ys)
    (h : (front ++ sign :: back).intercalate xs = (front ++ sign :: back).intercalate ys) :
    xs = ys := by
  induction xs generalizing ys with
  | nil =>
    cases ys with
    | nil => rfl
    | cons y ys => exact absurd h.symm (ne_nil_of_intercalate (hys y List.mem_cons_self).1)
  | cons x xs ih =>
    obtain ⟨hx, hxs⟩ := List.forall_mem_cons.mp hxs
    cases ys with
    | nil => exact absurd h (ne_nil_of_intercalate hx.1)
    | cons y ys =>
      obtain ⟨hy, hys⟩ := List.forall_mem_cons.mp hys
      have hcut {piece : List Char} (hpiece : sign ∉ piece) : sign ∉ piece ++ front := by
        simp [hpiece, hfront]
      cases xs with
      | nil =>
        cases ys with
        | nil => rw [List.intercalate_singleton, List.intercalate_singleton] at h; rw [h]
        | cons z ys =>
          rw [List.intercalate_singleton, List.intercalate_cons_cons] at h
          exact absurd (by simp [h]) hx.2
      | cons w xs =>
        cases ys with
        | nil =>
          rw [List.intercalate_singleton, List.intercalate_cons_cons] at h
          exact absurd (by simp [← h]) hy.2
        | cons z ys =>
          have hsplit :
              (x ++ front) ++ sign :: (back ++ (front ++ sign :: back).intercalate (w :: xs)) =
              (y ++ front) ++ sign :: (back ++ (front ++ sign :: back).intercalate (z :: ys)) := by
            simpa [List.intercalate_cons_cons] using h
          obtain ⟨hfirst, hrest⟩ := (append_cons_inj (hcut hx.2) (hcut hy.2)).mp hsplit
          rw [List.append_cancel_right hfirst, ih hxs hys (List.append_cancel_left hrest)]

/-- What a separator has behind its sign may stand in front of the next piece. -/
theorem intercalate_cons_cons_eq (back x : List Char) (xs : List (List Char)) :
    (sign :: back).intercalate (x :: xs) = [sign].intercalate (x :: xs.map (back ++ ·)) := by
  induction xs generalizing x with
  | nil => rfl
  | cons y xs ih =>
    rw [List.intercalate_cons_cons, ih, List.map_cons, List.intercalate_cons_cons]
    cases xs with
    | nil => simp
    | cons z xs => simp [List.intercalate_cons_cons]

/-! ## Pieces between separators -/

theorem split_cons_self (sign : Char) (rest : List Char) :
    split sign (sign :: rest) = [] :: split sign rest := by
  rw [split]
  split
  · rename_i hnil
    exact absurd hnil (split_ne_nil sign rest)
  · rename_i first others hrest
    simp [hrest]

theorem split_cons_of_ne {c : Char} {rest first : List Char} {others : List (List Char)}
    (hc : c ≠ sign) (hrest : split sign rest = first :: others) :
    split sign (c :: rest) = (c :: first) :: others := by
  simp [split, hrest, hc]

theorem split_of_notMem {piece : List Char} (h : sign ∉ piece) : split sign piece = [piece] := by
  induction piece with
  | nil => rfl
  | cons c piece ih =>
    rw [List.mem_cons, not_or] at h
    exact split_cons_of_ne (Ne.symm h.1) (ih h.2)

theorem split_append_cons {piece : List Char} (h : sign ∉ piece) (rest : List Char) :
    split sign (piece ++ sign :: rest) = piece :: split sign rest := by
  induction piece with
  | nil => exact split_cons_self sign rest
  | cons c piece ih =>
    rw [List.mem_cons, not_or] at h
    exact split_cons_of_ne (Ne.symm h.1) (ih h.2)

theorem split_intercalate {pieces : List (List Char)} (hnil : pieces ≠ [])
    (h : ∀ piece ∈ pieces, sign ∉ piece) : split sign ([sign].intercalate pieces) = pieces := by
  induction pieces with
  | nil => exact absurd rfl hnil
  | cons piece pieces ih =>
    obtain ⟨hpiece, hpieces⟩ := List.forall_mem_cons.mp h
    cases pieces with
    | nil => rw [List.intercalate_singleton, split_of_notMem hpiece]
    | cons next pieces =>
      rw [List.intercalate_cons_cons, List.append_assoc, List.singleton_append,
        split_append_cons hpiece, ih (List.cons_ne_nil _ _) hpieces]

theorem split_spec (sign : Char) (text : List Char) :
    (∀ piece ∈ split sign text, sign ∉ piece) ∧ [sign].intercalate (split sign text) = text := by
  induction text with
  | nil => simp [split]
  | cons c text ih =>
    obtain ⟨first, others, hsplit⟩ := List.exists_cons_of_ne_nil (split_ne_nil sign text)
    rw [hsplit] at ih
    obtain ⟨hpieces, hjoined⟩ := ih
    by_cases hc : c = sign
    · subst hc
      rw [split_cons_self, hsplit]
      refine ⟨List.forall_mem_cons.mpr ⟨List.not_mem_nil, hpieces⟩, ?_⟩
      rw [List.intercalate_cons_cons, hjoined]
      rfl
    · rw [split_cons_of_ne hc hsplit]
      obtain ⟨hfirst, hothers⟩ := List.forall_mem_cons.mp hpieces
      refine ⟨List.forall_mem_cons.mpr ⟨?_, hothers⟩, ?_⟩
      · rw [List.mem_cons, not_or]
        exact ⟨Ne.symm hc, hfirst⟩
      · rw [← hjoined]
        cases others with
        | nil => rw [List.intercalate_singleton, List.intercalate_singleton]
        | cons next others =>
          rw [List.intercalate_cons_cons, List.intercalate_cons_cons]
          rfl

/-- Splitting gives the one list of pieces that the separator joins to the text. -/
theorem split_eq_iff {text : List Char} {pieces : List (List Char)} :
    split sign text = pieces ↔
      pieces ≠ [] ∧ (∀ piece ∈ pieces, sign ∉ piece) ∧ [sign].intercalate pieces = text := by
  constructor
  · rintro rfl
    exact ⟨split_ne_nil sign text, split_spec sign text⟩
  · rintro ⟨hnil, hpieces, rfl⟩
    exact split_intercalate hnil hpieces

/-! ## Numbers and names -/

theorem notMem_repr {c : Char} (hc : c.isDigit = false) (n : Nat) : c ∉ n.repr.toList := by
  intro hmem
  rw [Nat.repr, String.toList_ofList] at hmem
  rw [Nat.isDigit_of_mem_toDigits (by decide) (by decide) hmem] at hc
  cases hc

theorem notMem_toString {c : Char} (hc : c.isDigit = false) (hminus : c ≠ '-') (n : Int) :
    c ∉ (toString n).toList := by
  cases n with
  | ofNat n => exact notMem_repr hc n
  | negSucc n =>
    show c ∉ ("-" ++ n.succ.repr).toList
    rw [String.toList_append, List.mem_append, not_or]
    exact ⟨fun hmem => hminus (List.mem_singleton.mp hmem), notMem_repr hc n.succ⟩

structure PlainName (name : String) : Prop where
  ne_nil : name.toList ≠ []
  wordChar : ∀ c ∈ name.toList, isWordChar c = true

instance (name : String) : Decidable (PlainName name) :=
  decidable_of_iff (name.toList ≠ [] ∧ name.toList.all isWordChar = true)
    ⟨fun h => ⟨h.1, List.all_eq_true.mp h.2⟩, fun h => ⟨h.ne_nil, List.all_eq_true.mpr h.wordChar⟩⟩

namespace PlainName

variable {name : String} {c : Char}

theorem notMem (h : PlainName name) (hc : isWordChar c = false) : c ∉ name.toList := by
  intro hmem
  rw [h.wordChar c hmem] at hc
  cases hc

theorem notMem_intercalate {separator : List Char} {names : List String}
    (h : ∀ name ∈ names, PlainName name) (hc : isWordChar c = false) (hseparator : c ∉ separator) :
    c ∉ separator.intercalate (names.map String.toList) := by
  refine Text.notMem_intercalate hseparator fun piece hpiece => ?_
  obtain ⟨name, hname, rfl⟩ := List.mem_map.mp hpiece
  exact (h name hname).notMem hc

theorem takeWhile_append (h : PlainName name) (hc : isWordChar c = false) (rest : List Char) :
    (name.toList ++ c :: rest).takeWhile isWordChar = name.toList := by
  rw [takeWhile_append_stop hc, List.takeWhile_eq_self_iff.mpr h.wordChar]

theorem dropWhile_append (h : PlainName name) (hc : isWordChar c = false) (rest : List Char) :
    (name.toList ++ c :: rest).dropWhile isWordChar = c :: rest := by
  rw [dropWhile_append_stop hc, List.dropWhile_eq_nil_iff.mpr h.wordChar, List.nil_append]

end PlainName

end ObjectCatalog.Text
