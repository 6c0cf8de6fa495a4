import ObjectCatalog.Log.Redaction

/-! # What redacting takes out of a text

Redacting a text leaves everything in its place but the passwords of its addresses. Each of them
stands between a colon and an at sign, which stay. Every address has the mark of one, so that a text
without the mark need not be searched.
-/
namespace ObjectCatalog.Redaction

/-- The passwords that redacting a text replaces, from left to right. -/
def passwords : List Char → List (List Char)
  | [] => []
  | c :: text =>
    match _h : credentials? (c :: text) with
    | some found => found.password :: passwords found.rest
    | none => passwords text
termination_by text => text.length
decreasing_by
  · exact length_rest_lt _h
  · simp

theorem redactChars_of_credentials {c : Char} {text : List Char} {found : Credentials}
    (h : credentials? (c :: text) = some found) :
    redactChars (c :: text) = found.head ++ stars ++ '@' :: redactChars found.rest ∧
      passwords (c :: text) = found.password :: passwords found.rest := by
  constructor
  · rw [redactChars]
    split <;> simp_all
  · rw [passwords]
    split <;> simp_all

theorem redactChars_of_none {c : Char} {text : List Char} (h : credentials? (c :: text) = none) :
    redactChars (c :: text) = c :: redactChars text ∧
      passwords (c :: text) = passwords text := by
  constructor
  · rw [redactChars]
    split <;> simp_all
  · rw [passwords]
    split <;> simp_all

theorem redact_ne_empty {text : String} (h : text ≠ "") : redact text ≠ "" := by
  have hchars : redactChars text.toList ≠ [] := by
    cases htext : text.toList with
    | nil => exact absurd (String.toList_eq_nil_iff.mp htext) h
    | cons c rest =>
      cases hfound : credentials? (c :: rest) with
      | some found => simp [(redactChars_of_credentials hfound).1, stars]
      | none => simp [(redactChars_of_none hfound).1]
  simpa [redact] using hchars

/-- A text of one character has no address in it. -/
theorem redact_singleton {text : String} {c : Char} (h : text.toList = [c]) :
    redact text = text := by
  have hnone : credentials? [c] = none := by
    unfold credentials?
    cases hc : isSchemeChar c <;> simp [hc]
  have hchars : redactChars [c] = [c] := by
    rw [(redactChars_of_none hnone).1, redactChars]
  unfold redact
  rw [h, hchars, ← h, String.ofList_toList]

theorem head_of_user? {scheme text : List Char} {found : Credentials}
    (h : user? scheme text = some found) : ∃ before, found.head = before ++ [':'] := by
  unfold user? at h
  split at h
  · rename_i rest hrest
    split at h
    · cases h
    · obtain ⟨hhead, -⟩ := eq_of_password? h
      exact ⟨scheme ++ ':' :: '/' :: '/' :: text.takeWhile isUserChar, hhead⟩
  · cases h

/-- What stands in front of a password ends with a colon. -/
theorem head_of_credentials? {text : List Char} {found : Credentials}
    (h : credentials? text = some found) : ∃ before, found.head = before ++ [':'] := by
  unfold credentials? at h
  split at h
  · split at h
    · exact head_of_user? h
    · cases h
  · cases h

/-! ## The mark of an address -/

theorem isMarked_iff {text : List Char} : isMarked text = true ↔ [':', '/', '/'] <:+: text := by
  induction text with
  | nil => simp [isMarked]
  | cons c text ih =>
    rw [isMarked, Bool.or_eq_true, List.isPrefixOf_iff_prefix, ih, List.infix_cons_iff]

theorem isMarked_of_credentials? {text : List Char} {found : Credentials}
    (h : credentials? text = some found) : isMarked text = true := by
  unfold credentials? at h
  split at h
  · rename_i rest hrest
    rw [isMarked_iff]
    refine ⟨text.takeWhile isSchemeChar, rest, ?_⟩
    rw [List.append_assoc]
    exact (congrArg (_ ++ ·) hrest.symm).trans List.takeWhile_append_dropWhile
  · cases h

theorem redactChars_of_not_isMarked {text : List Char} (h : isMarked text = false) :
    redactChars text = text := by
  induction text with
  | nil => rw [redactChars]
  | cons c text ih =>
    have hrest : isMarked text = false := by
      rw [isMarked, Bool.or_eq_false_iff] at h
      exact h.2
    cases hfound : credentials? (c :: text) with
    | none => rw [(redactChars_of_none hfound).1, ih hrest]
    | some found =>
      rw [isMarked_of_credentials? hfound] at h
      cases h

/-- A text is searched exactly if that can make a difference. -/
theorem redactMarked_eq (text : String) : redactMarked text = redact text := by
  unfold redactMarked redact
  cases h : isMarked text.toList with
  | true => rfl
  | false =>
    rw [redactChars_of_not_isMarked h, String.ofList_toList]
    rfl

/-! ## Passwords and what replaces them -/

/-- The second text is the first with each of these passwords replaced by stars. -/
inductive Redacts : List Char → List Char → List (List Char) → Prop
  | clear (text : List Char) : Redacts text text []
  | address (before password : List Char) {rest out : List Char} {secrets : List (List Char)}
    (h : Redacts rest out secrets) :
    Redacts (before ++ ':' :: (password ++ '@' :: rest)) (before ++ ':' :: (stars ++ '@' :: out))
      (password :: secrets)

theorem Redacts.cons {text out : List Char} {secrets : List (List Char)} (c : Char)
    (h : Redacts text out secrets) : Redacts (c :: text) (c :: out) secrets := by
  cases h with
  | clear => exact .clear (c :: text)
  | address before password h => exact .address (c :: before) password h

theorem redacts_redactChars (text : List Char) :
    Redacts text (redactChars text) (passwords text) := by
  induction text using redactChars.induct with
  | case1 =>
    rw [redactChars, passwords]
    exact .clear []
  | case2 c text found h ih =>
    obtain ⟨before, hbefore⟩ := head_of_credentials? h
    have htext : c :: text = before ++ ':' :: (found.password ++ '@' :: found.rest) := by
      rw [eq_of_credentials? h, hbefore]
      simp
    have hout : redactChars (c :: text) =
        before ++ ':' :: (stars ++ '@' :: redactChars found.rest) := by
      rw [(redactChars_of_credentials h).1, hbefore]
      simp
    rw [hout, (redactChars_of_credentials h).2, htext]
    exact .address before found.password ih
  | case3 c text h ih =>
    rw [(redactChars_of_none h).1, (redactChars_of_none h).2]
    exact ih.cons c

end ObjectCatalog.Redaction
