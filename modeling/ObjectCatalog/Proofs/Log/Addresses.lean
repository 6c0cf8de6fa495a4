import Mathlib.Data.List.TakeWhile
import ObjectCatalog.Proofs.Log.Directives
import ObjectCatalog.Proofs.Log.Passwords
import ObjectCatalog.Proofs.Text.Phrases

/-! # Addresses look the same whatever their password

Wherever an address stands in a text, redacting the text gives the same for every password that the
address may have. The text in front can begin an address of its own, which ends before this one or
runs into its password, but which of these happens is settled before the password is read.
-/
namespace ObjectCatalog.Redaction

open Text (takeWhile_append_stop dropWhile_append_stop)

/-- What stands in front of the password of an address. -/
structure Address where
  scheme : List Char
  user : List Char
  letter : startsWithLetter scheme = true
  scheme_chars : ∀ c ∈ scheme, isSchemeChar c = true
  user_ne : user ≠ []
  user_chars : ∀ c ∈ user, isUserChar c = true

structure IsPassword (p : List Char) : Prop where
  ne : p ≠ []
  chars : ∀ c ∈ p, isPasswordChar c = true

namespace Address

def behind (a : Address) (p after : List Char) : List Char :=
  '/' :: '/' :: (a.user ++ ':' :: (p ++ '@' :: after))

def text (a : Address) (p after : List Char) : List Char := a.scheme ++ ':' :: a.behind p after

end Address

/-! ## Characters -/

theorem isPasswordChar_of_isAlphanum {c : Char} (h : c.isAlphanum = true) :
    isPasswordChar c = true := by
  have hat : c ≠ '@' := by
    rintro rfl
    exact absurd h (by decide)
  have hblank : Text.isBlank c = false := by
    rw [← Bool.not_eq_true]
    intro hblank
    have hword := Text.isWordChar_of_isAlphanum h (Text.toNat_of_isAlphanum h).2
    rw [Text.not_isWordChar_of_isBlank hblank] at hword
    cases hword
  unfold isPasswordChar
  rw [hblank]
  simpa using hat

theorem isPasswordChar_of_isSchemeChar {c : Char} (h : isSchemeChar c = true) :
    isPasswordChar c = true := by
  simp only [isSchemeChar, Bool.or_eq_true, beq_iff_eq] at h
  rcases h with ((h | rfl) | rfl) | rfl
  · exact isPasswordChar_of_isAlphanum h
  all_goals decide

theorem isPasswordChar_of_isUserChar {c : Char} (h : isUserChar c = true) :
    isPasswordChar c = true := by
  simp only [isUserChar, isPasswordChar, Bool.and_eq_true] at h ⊢
  exact ⟨h.1.2, h.2⟩

/-! ## Readers in front of an address -/

theorem split_of_dropWhile {p : Char → Bool} {text rest : List Char} {x : Char}
    (h : text.dropWhile p = x :: rest) :
    ∃ front, text = front ++ x :: rest ∧ (∀ c ∈ front, p c = true) ∧ p x = false := by
  refine ⟨text.takeWhile p, ?_, fun c hc => List.mem_takeWhile_imp hc, ?_⟩
  · rw [← h, List.takeWhile_append_dropWhile]
  · have hstop := List.head?_dropWhile_not p text
    rw [h] at hstop
    exact hstop

theorem password?_stop {x : Char} {text : List Char} (hx : isPasswordChar x = false)
    (htext : ∀ c ∈ text, isPasswordChar c = true) (head rest : List Char) :
    password? head (text ++ x :: rest) =
      if x = '@' ∧ text ≠ [] then some ⟨head, text, rest⟩ else none := by
  unfold password?
  rw [takeWhile_append_stop hx, dropWhile_append_stop hx, List.takeWhile_eq_self_iff.mpr htext,
    List.dropWhile_eq_nil_iff.mpr htext, List.nil_append]
  split
  · rename_i after heq
    cases heq
    cases text <;> simp
  · rename_i hne
    have : x ≠ '@' := by
      rintro rfl
      exact hne rest rfl
    simp [this]

theorem user?_stop {text : List Char} (scheme rest : List Char) :
    user? scheme (text ++ ':' :: rest) =
      match text.dropWhile isUserChar with
      | [] =>
        if text.isEmpty then none
        else password? (scheme ++ ':' :: '/' :: '/' :: text ++ [':']) rest
      | ':' :: more =>
        if (text.takeWhile isUserChar).isEmpty then none
        else password? (scheme ++ ':' :: '/' :: '/' :: text.takeWhile isUserChar ++ [':'])
          (more ++ ':' :: rest)
      | _ => none := by
  unfold user?
  rw [takeWhile_append_stop (by decide), dropWhile_append_stop (by decide)]
  cases h : text.dropWhile isUserChar with
  | nil =>
    have htext : text.takeWhile isUserChar = text :=
      List.takeWhile_eq_self_iff.mpr (List.dropWhile_eq_nil_iff.mp h)
    rw [htext]
    rfl
  | cons c more =>
    by_cases hc : c = ':'
    · subst hc
      rfl
    · simp [hc]

/-! ## The first address of a text -/

variable {a : Address} {before after : List Char}

/-- What is read at the front of a text that goes on with the address, by its password: always
nothing, always an address with the same password at its end, or always one that ends before it. -/
inductive Settled (a : Address) (before after : List Char) :
    (List Char → Option Credentials) → Prop
  | none {read : List Char → Option Credentials} (h : ∀ p, IsPassword p → read p = none) :
    Settled a before after read
  | within {read : List Char → Option Credentials} (head lead : List Char)
    (h : ∀ p, IsPassword p → read p = some ⟨head, lead ++ p, after⟩) :
    Settled a before after read
  | ahead {read : List Char → Option Credentials} (head password rest : List Char)
    (hrest : rest.length < before.length)
    (h : ∀ p, IsPassword p → read p = some ⟨head, password, rest ++ a.text p after⟩) :
    Settled a before after read

theorem password?_own {p : List Char} (hp : IsPassword p) (lead : List Char)
    (hlead : ∀ c ∈ lead, isPasswordChar c = true) (head after : List Char) :
    password? head (lead ++ (p ++ '@' :: after)) = some ⟨head, lead ++ p, after⟩ := by
  have hall : ∀ c ∈ lead ++ p, isPasswordChar c = true := by
    intro c hc
    rcases List.mem_append.mp hc with h | h
    · exact hlead c h
    · exact hp.chars c h
  rw [← List.append_assoc, password?_stop (by decide) hall, if_pos]
  exact ⟨rfl, List.append_ne_nil_of_right_ne_nil lead hp.ne⟩

/-- The part of an address between its scheme and its password could be part of a password. -/
theorem Address.isPasswordChar_of_mem (a : Address) {c : Char}
    (hc : c ∈ '/' :: '/' :: a.user ++ [':']) : isPasswordChar c = true := by
  simp only [List.cons_append, List.mem_cons, List.mem_append, List.not_mem_nil, or_false] at hc
  rcases hc with rfl | rfl | h | rfl
  · decide
  · decide
  · exact isPasswordChar_of_isUserChar (a.user_chars c h)
  · decide

theorem Address.behind_eq (a : Address) (p after : List Char) :
    a.behind p after = ('/' :: '/' :: a.user ++ [':']) ++ (p ++ '@' :: after) := by
  simp [behind]

theorem settled_password?_behind (head : List Char) :
    Settled a before after fun p => password? head (a.behind p after) := by
  refine .within head ('/' :: '/' :: a.user ++ [':']) fun p hp => ?_
  rw [a.behind_eq, password?_own hp _ fun c hc => a.isPasswordChar_of_mem hc]

/-- What is left of a text after a sign that the scheme does not have still holds the scheme. -/
theorem exists_of_suffix {x : Char} {text scheme : List Char} (hx : x ∉ scheme)
    (h : (x :: text) <:+ before ++ scheme) :
    ∃ rest, text = rest ++ scheme ∧ rest.length < before.length := by
  obtain ⟨front, hfront⟩ := h
  rcases List.append_eq_append_iff.mp hfront with ⟨more, hbefore, htext⟩ | ⟨more, -, hscheme⟩
  · cases more with
    | nil =>
      rw [List.nil_append] at htext
      exact absurd (htext ▸ List.mem_cons_self) hx
    | cons y rest =>
      obtain ⟨-, htail⟩ := List.cons.inj htext
      refine ⟨rest, htail, ?_⟩
      rw [hbefore, List.length_append, List.length_cons]
      omega
  · exact absurd (hscheme ▸ List.mem_append_cons_self) hx

theorem settled_password? {text : List Char} (htext : text <:+ before ++ a.scheme)
    (head : List Char) :
    Settled a before after fun p => password? head (text ++ ':' :: a.behind p after) := by
  cases hstop : text.dropWhile isPasswordChar with
  | nil =>
    have hall := List.dropWhile_eq_nil_iff.mp hstop
    refine .within head (text ++ ':' :: '/' :: '/' :: a.user ++ [':']) fun p hp => ?_
    rw [← password?_own hp (text ++ ':' :: '/' :: '/' :: a.user ++ [':'])]
    · simp [Address.behind]
    · intro c hc
      simp only [List.append_assoc, List.mem_append, List.cons_append] at hc
      rcases hc with hc | hc
      · exact hall c hc
      · rcases List.mem_cons.mp hc with rfl | hc
        · decide
        · exact a.isPasswordChar_of_mem hc
  | cons x rest =>
    obtain ⟨front, rfl, hfront, hx⟩ := split_of_dropWhile hstop
    obtain ⟨rest, rfl, hlt⟩ : ∃ more, rest = more ++ a.scheme ∧ more.length < before.length := by
      refine exists_of_suffix ?_ ((List.suffix_append front _).trans htext)
      intro hmem
      rw [isPasswordChar_of_isSchemeChar (a.scheme_chars x hmem)] at hx
      cases hx
    have hread : ∀ p, password? head (front ++ x :: (rest ++ a.scheme) ++ ':' :: a.behind p after) =
        if x = '@' ∧ front ≠ [] then some ⟨head, front, rest ++ a.text p after⟩ else none := by
      intro p
      rw [List.append_assoc, List.cons_append, password?_stop hx hfront, List.append_assoc]
      rfl
    by_cases hcase : x = '@' ∧ front ≠ []
    · refine .ahead head front rest hlt fun p _ => ?_
      rw [hread, if_pos hcase]
    · refine .none fun p _ => ?_
      rw [hread, if_neg hcase]

theorem settled_user? {text : List Char} (htext : text <:+ before ++ a.scheme)
    (scheme : List Char) :
    Settled a before after fun p => user? scheme (text ++ ':' :: a.behind p after) := by
  simp only [user?_stop]
  cases hstop : text.dropWhile isUserChar with
  | nil =>
    cases text.isEmpty with
    | true => exact .none fun p _ => rfl
    | false => exact settled_password?_behind _
  | cons c rest =>
    have hrest : rest <:+ before ++ a.scheme :=
      ((List.suffix_cons c rest).trans (hstop ▸ List.dropWhile_suffix _)).trans htext
    by_cases hc : c = ':'
    · subst hc
      cases (text.takeWhile isUserChar).isEmpty with
      | true => exact .none fun p _ => rfl
      | false => exact settled_password? hrest _
    · refine .none fun p _ => ?_
      simp [hc]

theorem user?_own {p : List Char} (hp : IsPassword p) (scheme after : List Char) :
    user? scheme (a.user ++ ':' :: (p ++ '@' :: after)) =
      some ⟨scheme ++ ':' :: '/' :: '/' :: a.user ++ [':'], p, after⟩ := by
  have hstop : a.user.dropWhile isUserChar = [] := List.dropWhile_eq_nil_iff.mpr a.user_chars
  have hne : a.user.isEmpty = false := by
    simpa using a.user_ne
  rw [user?_stop, hstop]
  simp only [hne, Bool.false_eq_true, if_false]
  exact password?_own hp [] (fun c hc => absurd hc List.not_mem_nil) _ after

theorem signs_of_append {text tail more : List Char} (hne : text ≠ [])
    (h : text ++ ':' :: tail = ':' :: '/' :: '/' :: more) :
    ∃ own, text = ':' :: '/' :: '/' :: own := by
  rcases text with _ | ⟨x, _ | ⟨y, _ | ⟨z, own⟩⟩⟩
  · exact absurd rfl hne
  · simp at h
  · simp at h
  · simp only [List.cons_append, List.cons.injEq] at h
    obtain ⟨rfl, rfl, rfl, -⟩ := h
    exact ⟨own, rfl⟩

theorem credentials?_eq (text : List Char) : credentials? text =
    match text.dropWhile isSchemeChar with
    | ':' :: '/' :: '/' :: rest =>
      if startsWithLetter (text.takeWhile isSchemeChar) then
        user? (text.takeWhile isSchemeChar) rest
      else none
    | _ => none := rfl

theorem settled_credentials? (a : Address) (before after : List Char) :
    Settled a before after fun p => credentials? (before ++ a.text p after) := by
  have hread : ∀ p, credentials? (before ++ a.text p after) =
      match (before ++ a.scheme).dropWhile isSchemeChar ++ ':' :: a.behind p after with
      | ':' :: '/' :: '/' :: rest =>
        if startsWithLetter ((before ++ a.scheme).takeWhile isSchemeChar) then
          user? ((before ++ a.scheme).takeWhile isSchemeChar) rest
        else none
      | _ => none := by
    intro p
    have htext : before ++ a.text p after = (before ++ a.scheme) ++ ':' :: a.behind p after := by
      simp [Address.text]
    rw [htext, credentials?_eq, takeWhile_append_stop (by decide), dropWhile_append_stop (by decide)]
  simp only [hread]
  have hsuffix := List.dropWhile_suffix isSchemeChar (l := before ++ a.scheme)
  generalize (before ++ a.scheme).takeWhile isSchemeChar = scheme
  generalize (before ++ a.scheme).dropWhile isSchemeChar = rest at hsuffix
  cases rest with
  | nil =>
    cases startsWithLetter scheme with
    | false => exact .none fun p _ => rfl
    | true => exact .within _ [] fun p hp => user?_own hp scheme after
  | cons x rest =>
    by_cases hsigns : ∃ more, x :: rest = ':' :: '/' :: '/' :: more
    · obtain ⟨more, hmore⟩ := hsigns
      rw [hmore] at hsuffix ⊢
      have htext : more <:+ before ++ a.scheme :=
        (List.suffix_append [':', '/', '/'] more).trans hsuffix
      cases startsWithLetter scheme with
      | false => exact .none fun p _ => rfl
      | true => exact settled_user? htext scheme
    · refine .none fun p _ => ?_
      split
      · rename_i heq
        exact absurd (signs_of_append (List.cons_ne_nil x rest) heq) hsigns
      · rfl

theorem credentials?_own {p : List Char} (hp : IsPassword p) (a : Address) (after : List Char) :
    credentials? (a.text p after) =
      some ⟨a.scheme ++ ':' :: '/' :: '/' :: a.user ++ [':'], p, after⟩ := by
  unfold credentials? Address.text
  rw [takeWhile_append_stop (by decide), dropWhile_append_stop (by decide),
    List.takeWhile_eq_self_iff.mpr a.scheme_chars, List.dropWhile_eq_nil_iff.mpr a.scheme_chars]
  show (if startsWithLetter a.scheme then user? a.scheme _ else none) = _
  rw [a.letter, if_pos rfl, user?_own hp]

theorem redactChars_of_some {text : List Char} {found : Credentials}
    (h : credentials? text = some found) :
    redactChars text = found.head ++ stars ++ '@' :: redactChars found.rest := by
  cases text with
  | nil => cases h
  | cons c text => exact (redactChars_of_credentials h).1

/-- The password of an address makes no difference to the redacted text. -/
theorem redactChars_text_eq {p q : List Char} (hp : IsPassword p) (hq : IsPassword q)
    (a : Address) (before after : List Char) :
    redactChars (before ++ a.text p after) = redactChars (before ++ a.text q after) := by
  induction hlen : before.length using Nat.strongRecOn generalizing before with
  | ind n ih =>
    subst hlen
    cases before with
    | nil =>
      rw [List.nil_append, List.nil_append, redactChars_of_some (credentials?_own hp a after),
        redactChars_of_some (credentials?_own hq a after)]
    | cons c before =>
      rcases settled_credentials? a (c :: before) after with
        h | ⟨head, lead, h⟩ | ⟨head, password, rest, hrest, h⟩
      · have hshorter := ih before.length (Nat.lt_succ_self _) before rfl
        simp only [List.cons_append] at h ⊢
        rw [(redactChars_of_none (h p hp)).1, (redactChars_of_none (h q hq)).1, hshorter]
      · rw [redactChars_of_some (h p hp), redactChars_of_some (h q hq)]
      · rw [redactChars_of_some (h p hp), redactChars_of_some (h q hq), ih rest.length hrest rest rfl]

end ObjectCatalog.Redaction
