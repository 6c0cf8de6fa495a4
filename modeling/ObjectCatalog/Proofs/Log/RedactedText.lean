import Mathlib.Data.List.Basic
import ObjectCatalog.Proofs.Log.Addresses

/-! # Redacted texts show stars alone

A redacted text holds no address, at whatever place, with a password other than three stars. The
addresses that the scan replaces show their stars; one that it passes over, or that only the stars
complete, would have been an address of the text itself, and the scan would have found it first. So
redacting again changes nothing, and a text that shows stars alone is its own redaction.
-/
namespace ObjectCatalog.Redaction

open Text (append_cons_cases split_of_append_cons)

/-! ## Addresses as they are read -/

def Address.head (a : Address) : List Char := a.scheme ++ ':' :: '/' :: '/' :: a.user ++ [':']

theorem Address.text_eq (a : Address) (p after : List Char) :
    a.text p after = a.head ++ p ++ '@' :: after := by
  simp [text, behind, head]

theorem isPassword_of_password? {head text : List Char} {found : Credentials}
    (h : password? head text = some found) : IsPassword found.password := by
  unfold password? at h
  split at h
  · split at h
    · cases h
    · rename_i hne
      cases h
      exact ⟨fun hnil => hne (List.isEmpty_iff.mpr hnil), fun c hc => List.mem_takeWhile_imp hc⟩
  · cases h

theorem parts_of_user? {scheme text : List Char} {found : Credentials}
    (h : user? scheme text = some found) : IsPassword found.password ∧
      text.takeWhile isUserChar ≠ [] ∧
      found.head = scheme ++ ':' :: '/' :: '/' :: text.takeWhile isUserChar ++ [':'] := by
  unfold user? at h
  split at h
  · split at h
    · cases h
    · rename_i hne
      exact ⟨isPassword_of_password? h, fun hnil => hne (List.isEmpty_iff.mpr hnil),
        (eq_of_password? h).1⟩
  · cases h

/-- What is read at the front of a text is an address with its password. -/
theorem exists_of_credentials? {text : List Char} {found : Credentials}
    (h : credentials? text = some found) : ∃ a : Address, IsPassword found.password ∧
      found.head = a.head ∧ text = a.text found.password found.rest := by
  have htext := eq_of_credentials? h
  unfold credentials? at h
  split at h
  · rename_i rest hrest
    split at h
    · rename_i hletter
      obtain ⟨hpassword, huser, hhead⟩ := parts_of_user? h
      let a : Address := {
        scheme := text.takeWhile isSchemeChar
        user := rest.takeWhile isUserChar
        letter := hletter
        scheme_chars := fun c hc => List.mem_takeWhile_imp hc
        user_ne := huser
        user_chars := fun c hc => List.mem_takeWhile_imp hc }
      exact ⟨a, hpassword, hhead, by rw [a.text_eq, htext, hhead]; rfl⟩
    · cases h
  · cases h

/-! ## At signs and colons -/

variable {a own : Address} {p before after lead text : List Char}

theorem Address.isPasswordChar_of_mem_head {c : Char} (hc : c ∈ a.head) :
    isPasswordChar c = true := by
  rcases List.mem_append.mp (show c ∈ a.scheme ++ ([':'] ++ ('/' :: '/' :: a.user ++ [':'])) by
    simpa [head] using hc) with hscheme | hbehind
  · exact isPasswordChar_of_isSchemeChar (a.scheme_chars c hscheme)
  · rcases List.mem_append.mp hbehind with hcolon | huser
    · rw [List.mem_singleton.mp hcolon]
      decide
    · exact a.isPasswordChar_of_mem huser

theorem at_notMem {text : List Char} (h : ∀ c ∈ text, isPasswordChar c = true) : '@' ∉ text := by
  intro hmem
  exact absurd (h '@' hmem) (by decide)

theorem isPasswordChar_of_mem_stars : ∀ c ∈ stars, isPasswordChar c = true :=
  List.all_eq_true.mp (by decide)

theorem IsPassword.at_notMem_head (hp : IsPassword p) : '@' ∉ a.head ++ p :=
  at_notMem fun c hc => (List.mem_append.mp hc).elim a.isPasswordChar_of_mem_head (hp.chars c)

theorem isPassword_stars : IsPassword stars := ⟨by decide, isPasswordChar_of_mem_stars⟩

theorem colon_notMem_stars : ':' ∉ stars := by
  decide

/-- The part in front of a password ends with its colon. -/
theorem eq_nil_of_colon_notMem {front ending : List Char} (lead : List Char)
    (h : lead ++ a.head = front ++ ending) (hcolon : ':' ∉ ending) : ending = [] := by
  by_contra hne
  have hlast := congrArg List.getLast? h
  rw [Address.head, ← List.append_assoc, List.getLast?_concat,
    List.getLast?_append_of_ne_nil front hne] at hlast
  exact hcolon (List.mem_of_getLast? hlast.symm)

theorem Address.count_head (a : Address) : a.head.count ':' = 2 := by
  have hscheme : a.scheme.count ':' = 0 := by
    rw [List.count_eq_zero]
    exact fun hmem => absurd (a.scheme_chars ':' hmem) (by decide)
  have huser : a.user.count ':' = 0 := by
    rw [List.count_eq_zero]
    exact fun hmem => absurd (a.user_chars ':' hmem) (by decide)
  simp [head, hscheme, huser]

/-- An address that ends in the stars of another shows stars itself. -/
theorem eq_stars_of_append_eq (h : before ++ a.head ++ p = own.head ++ stars) : p = stars := by
  rcases List.append_eq_append_iff.mp h with ⟨ending, hown, hp⟩ | ⟨ending, hfront, hstars⟩
  · -- the other part in front of a password holds all of this one, with the same two colons
    have hcount := congrArg (List.count ':') hown
    rw [List.count_append, List.count_append, own.count_head, a.count_head] at hcount
    have hcolon : ':' ∉ ending := List.count_eq_zero.mp (by omega)
    rw [hp, eq_nil_of_colon_notMem [] hown hcolon, List.nil_append]
  · have hcolon : ':' ∉ ending := fun hmem =>
      colon_notMem_stars (hstars ▸ List.mem_append_left p hmem)
    rw [hstars, eq_nil_of_colon_notMem before hfront hcolon, List.nil_append]

/-- The stars of one address can end the password of another, but not begin it. -/
theorem exists_front_of_append_eq (h : lead ++ (own.head ++ stars) = a.head ++ p) :
    ∃ front, lead ++ own.head = a.head ++ front ∧ p = front ++ stars := by
  rw [← List.append_assoc] at h
  rcases List.append_eq_append_iff.mp h with ⟨ending, hhead, hstars⟩ | hfront
  · have hcolon : ':' ∉ ending := fun hmem =>
      colon_notMem_stars (hstars ▸ List.mem_append_left p hmem)
    obtain rfl := eq_nil_of_colon_notMem [] hhead hcolon
    rw [List.append_nil] at hhead
    exact ⟨[], by rw [List.append_nil, hhead], hstars.symm⟩
  · exact hfront

/-! ## Addresses in a redacted text -/

/-- Behind any text, an address in the redacted text stands for one in the text itself, perhaps with
another password. -/
theorem exists_address_of_redacted (lead : List Char) (hp : IsPassword p)
    (h : lead ++ redactChars text = a.text p after) :
    ∃ q rest, IsPassword q ∧ lead ++ text = a.text q rest := by
  induction text using redactChars.induct generalizing lead with
  | case1 => exact ⟨p, after, hp, by simpa [redactChars] using h⟩
  | case2 c text found hfound =>
    obtain ⟨own, hpassword, hhead, htext⟩ := exists_of_credentials? hfound
    rw [redactChars_of_some hfound, hhead, a.text_eq] at h
    have hsplit : (lead ++ (own.head ++ stars)) ++ '@' :: redactChars found.rest =
        (a.head ++ p) ++ '@' :: after := by
      simpa using h
    rw [htext, own.text_eq]
    rcases append_cons_cases hp.at_notMem_head hsplit with ⟨hsame, -⟩ | ⟨between, hfront, -⟩
    · -- it ends in the stars of the address that was found: the password was in their place
      obtain ⟨front, hlead, hrest⟩ := exists_front_of_append_eq hsame
      refine ⟨front ++ found.password, found.rest, ⟨?_, ?_⟩, ?_⟩
      · exact List.append_ne_nil_of_right_ne_nil front hpassword.ne
      · intro c hc
        rcases List.mem_append.mp hc with hfirst | hown
        · exact hp.chars c (hrest ▸ List.mem_append_left stars hfirst)
        · exact hpassword.chars c hown
      · rw [a.text_eq, ← List.append_assoc, ← List.append_assoc, hlead, List.append_assoc a.head]
    · -- it ends in front of the address that was found
      obtain ⟨more, rfl, -⟩ := split_of_append_cons isPassword_stars.at_notMem_head hfront
      refine ⟨p, more ++ (own.head ++ found.password ++ '@' :: found.rest), hp, ?_⟩
      rw [a.text_eq, List.append_assoc (a.head ++ p), List.cons_append]
  | case3 c text hnone ih =>
    rw [(redactChars_of_none hnone).1] at h
    obtain ⟨q, rest, hq, htext⟩ := @ih (lead ++ [c]) (by simpa using h)
    exact ⟨q, rest, hq, by simpa using htext⟩

/-- Wherever an address stands in the text, it shows stars. -/
def Starred (text : List Char) : Prop :=
  ∀ (a : Address) (before p after : List Char), IsPassword p →
    text = before ++ a.text p after → p = stars

theorem Starred.of_append (front : List Char) (h : Starred (front ++ text)) : Starred text := by
  intro a before p after hp htext
  refine h a (front ++ before) p after hp ?_
  rw [htext, List.append_assoc]

theorem starred_redactChars (text : List Char) : Starred (redactChars text) := by
  induction text using redactChars.induct with
  | case1 =>
    intro a before p after hp h
    simp [redactChars, a.text_eq] at h
  | case2 c text found hfound ih =>
    intro a before p after hp h
    obtain ⟨own, hpassword, hhead, -⟩ := exists_of_credentials? hfound
    have hsplit : (before ++ (a.head ++ p)) ++ '@' :: after =
        (own.head ++ stars) ++ '@' :: redactChars found.rest := by
      rw [redactChars_of_some hfound, hhead, a.text_eq] at h
      simpa using h.symm
    rcases append_cons_cases isPassword_stars.at_notMem_head hsplit with
      ⟨hsame, -⟩ | ⟨between, hfront, hrest⟩
    · exact eq_stars_of_append_eq (by simpa using hsame)
    · obtain ⟨more, -, rfl⟩ := split_of_append_cons hp.at_notMem_head hfront
      exact ih a more p after hp (by rw [hrest, a.text_eq, List.append_assoc])
  | case3 c text hnone ih =>
    intro a before p after hp h
    rw [(redactChars_of_none hnone).1] at h
    cases before with
    | nil =>
      obtain ⟨q, rest, hq, htext⟩ := exists_address_of_redacted [c] hp h
      rw [show c :: text = a.text q rest from htext, credentials?_own hq] at hnone
      cases hnone
    | cons d before => exact ih a before p after hp (List.cons.inj h).2

theorem redactChars_of_starred {text : List Char} (h : Starred text) : redactChars text = text := by
  induction text using redactChars.induct with
  | case1 => rw [redactChars]
  | case2 c text found hfound ih =>
    obtain ⟨own, hpassword, hhead, htext⟩ := exists_of_credentials? hfound
    have hstars : found.password = stars := h own [] _ _ hpassword htext
    have hrest : Starred found.rest := by
      refine Starred.of_append (own.head ++ found.password ++ ['@']) ?_
      rw [htext, own.text_eq] at h
      simpa using h
    rw [redactChars_of_some hfound, ih hrest, htext, own.text_eq, hhead, hstars]
  | case3 c text hnone ih =>
    rw [(redactChars_of_none hnone).1, ih (Starred.of_append [c] h)]

/-! ## Texts and their redaction -/

def Address.withPassword (a : Address) (p : String) : String :=
  String.ofList a.scheme ++ "://" ++ String.ofList a.user ++ ":" ++ p ++ "@"

theorem Address.toList_withPassword (a : Address) (before p after : String) :
    (before ++ a.withPassword p ++ after).toList =
      before.toList ++ a.text p.toList after.toList := by
  simp [withPassword, text, behind]

/-- Wherever an address stands in the text, its password is three stars. -/
def ShowsStars (s : String) : Prop :=
  ∀ (a : Address) (before p after : String), IsPassword p.toList →
    s = before ++ a.withPassword p ++ after → p = "***"

theorem toList_stars : "***".toList = stars := by
  decide

theorem showsStars_iff {s : String} : ShowsStars s ↔ Starred s.toList := by
  constructor
  · intro h a before p after hp hs
    have htext :
        s = String.ofList before ++ a.withPassword (String.ofList p) ++ String.ofList after := by
      rw [← String.toList_inj, hs, a.toList_withPassword]
      simp only [String.toList_ofList]
    have hstars := h a _ _ _ (by rw [String.toList_ofList]; exact hp) htext
    rw [← String.toList_inj, String.toList_ofList] at hstars
    rw [hstars, toList_stars]
  · intro h a before p after hp hs
    rw [← String.toList_inj, a.toList_withPassword] at hs
    rw [← String.toList_inj, toList_stars]
    exact h a _ _ _ hp hs

theorem toList_redact (s : String) : (redact s).toList = redactChars s.toList := by
  rw [redact, String.toList_ofList]

theorem redact_of_showsStars {s : String} (h : ShowsStars s) : redact s = s := by
  rw [← String.toList_inj, toList_redact]
  exact redactChars_of_starred (showsStars_iff.mp h)

/-- Wherever an address stands in a redacted text, it shows stars. So a redacted text is left as it
is, and of all texts just those are that show stars alone. -/
theorem redact_shows_stars (s : String) :
    ShowsStars (redact s) ∧ redact (redact s) = redact s ∧ (redact s = s ↔ ShowsStars s) := by
  have hstarred : ShowsStars (redact s) := by
    rw [showsStars_iff, toList_redact]
    exact starred_redactChars s.toList
  refine ⟨hstarred, redact_of_showsStars hstarred, ?_, redact_of_showsStars⟩
  intro hsame
  rw [← hsame]
  exact hstarred

/-- Whatever stands around an address, its password makes no difference to the redacted text. -/
theorem redact_ignores_password (a : Address) (pre post p q : String) (hp : IsPassword p.toList)
    (hq : IsPassword q.toList) :
    redact (pre ++ a.withPassword p ++ post) = redact (pre ++ a.withPassword q ++ post) := by
  rw [← String.toList_inj, toList_redact, toList_redact, a.toList_withPassword,
    a.toList_withPassword]
  exact redactChars_text_eq hp hq a pre.toList post.toList

def rootAddress : Address where
  scheme := ['s', '3', '+', 'v', '4']
  user := ['r', 'o', 'o', 't']
  letter := by decide
  scheme_chars := List.all_eq_true.mp (by decide)
  user_ne := by decide
  user_chars := List.all_eq_true.mp (by decide)

/-- An earlier address runs into this one, whose password looks like an address itself. -/
theorem redact_ignores_password_nested :
    let p := "x://y:z"
    let q := "secret"
    (IsPassword p.toList ∧ IsPassword q.toList) ∧
      redact ("via http://proxy:" ++ rootAddress.withPassword p ++ "store") =
        redact ("via http://proxy:" ++ rootAddress.withPassword q ++ "store") := by
  intro p q
  have hp : IsPassword p.toList := ⟨by decide, List.all_eq_true.mp (by decide)⟩
  have hq : IsPassword q.toList := ⟨by decide, List.all_eq_true.mp (by decide)⟩
  exact ⟨⟨hp, hq⟩, redact_ignores_password rootAddress "via http://proxy:" "store" p q hp hq⟩

end ObjectCatalog.Redaction
