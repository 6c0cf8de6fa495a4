import ObjectCatalog.Proofs.Toml.Numbers
import ObjectCatalog.Toml.Read

/-! # What readers leave of a text

Every reader leaves an end of its text, in which no sign is changed. So it only reports what the
text has: where it stops for a number with too many digits, they really stand there in a row.
-/
namespace ObjectCatalog.Toml

variable {text rest : List Char}

/-! ## Readers -/

/-- A reading leaves an end of the text, or fails. Too many digits are reported where they are. -/
def Within {α : Type} (left : α → List Char) (text : List Char) : Except Fault α → Prop
  | .ok a => left a <:+ text
  | .error fault => ∀ count, fault.cause = .tooManyDigits count → HasLong count text

section Readers

variable {α β : Type} {left : α → List Char} {next : β → List Char} {here : List Char}
  {r : Except Fault α}

theorem Within.mono (h : Within left here r) (hhere : here <:+ text) : Within left text r := by
  cases r with
  | ok a => exact h.trans hhere
  | error fault => exact fun count hcause => (h count hcause).mono hhere.isInfix

theorem Within.bind {f : α → Except Fault β} (h : Within left text r)
    (hf : ∀ a, left a <:+ text → Within next text (f a)) : Within next text (r >>= f) := by
  cases r with
  | ok a => exact hf a h
  | error fault => exact h

theorem within_refuse {cause : Cause} (hcause : ∀ count, cause ≠ .tooManyDigits count) :
    Within left text (refuse cause here) :=
  fun count h => absurd h (hcause count)

theorem within_refuse_bind {cause : Cause} {f : α → Except Fault β}
    (hcause : ∀ count, cause ≠ .tooManyDigits count) :
    Within next text (refuse cause here >>= f) :=
  within_refuse hcause

theorem within_error {cause : Cause} {remaining : Nat}
    (hcause : ∀ count, cause ≠ .tooManyDigits count) :
    Within left text (.error ⟨cause, remaining⟩) :=
  fun count h => absurd h (hcause count)

end Readers

theorem number_suffix {v : Value}
    (h : (based? text).or ((decimal? text).or (special? text)) = some (v, rest)) :
    rest <:+ text := by
  rcases Option.or_eq_some_iff.mp h with hbased | ⟨-, h⟩
  · exact based?_suffix hbased
  · rcases Option.or_eq_some_iff.mp h with hdecimal | ⟨-, hspecial⟩
    · exact decimal?_suffix hdecimal
    · exact special?_suffix hspecial

theorem within_number (text : List Char) : Within Prod.snd text (number text) := by
  unfold number
  split
  · exact within_refuse (by simp)
  · rename_i n rest hfound
    split
    · rename_i hlimit
      intro count hcause
      cases hcause
      exact hasLong_of_wholeLength hlimit
    · exact number_suffix hfound
  · rename_i found hfound
    exact number_suffix hfound

theorem within_scalar (text : List Char) : Within Prod.snd text (scalar text) := by
  unfold scalar
  split
  · rename_i date rest hdate
    split
    · exact (skipTime_suffix rest).trans (date?_suffix hdate)
    · exact within_refuse (by simp)
  · split
    · rename_i rest htime
      exact time?_suffix htime
    · exact within_number text

/-! ## Blanks and comments -/

theorem skipSpace_suffix (text : List Char) : skipSpace text <:+ text := List.dropWhile_suffix _

theorem within_skipComment (text : List Char) : Within id text (skipComment text) := by
  unfold skipComment
  split
  · rename_i comment
    split
    · exact List.nil_suffix
    · rename_i c rest hrest
      split
      · show c :: rest <:+ '#' :: comment
        rw [← hrest]
        exact (List.dropWhile_suffix _).trans (List.suffix_cons '#' comment)
      · exact within_refuse (by simp)
  · exact List.suffix_rfl

theorem within_skipLines (fuel : Nat) (text : List Char) :
    Within id text (skipLines fuel text) := by
  induction fuel generalizing text with
  | zero => exact List.suffix_rfl
  | succ fuel ih =>
    unfold skipLines
    split
    · rename_i comment hcomment
      have hsuffix : '#' :: comment <:+ text := by
        rw [← hcomment]
        exact List.dropWhile_suffix _
      exact ((within_skipComment _).mono hsuffix).bind fun rest hrest => (ih rest).mono hrest
    · exact List.dropWhile_suffix _

/-! ## Strings and keys -/

theorem within_literalLine (text : List Char) : Within Prod.snd text (literalLine text) := by
  unfold literalLine
  split
  · exact within_refuse (by simp)
  · split
    · exact within_refuse (by simp)
    · rename_i c rest hrest
      have hsuffix : c :: rest <:+ text := by
        rw [← hrest]
        exact List.dropWhile_suffix _
      split
      · exact (List.suffix_cons c rest).trans hsuffix
      · exact within_refuse (by simp)

theorem splitAtThree_suffix {body : List Char} (h : splitAtThree text = some (body, rest)) :
    rest <:+ text := by
  induction text generalizing body with
  | nil => cases h
  | cons c text ih =>
    unfold splitAtThree at h
    split at h
    · cases h
      exact (List.drop_suffix 2 text).trans (List.suffix_cons c text)
    · obtain ⟨⟨inner, after⟩, hinner, hpair⟩ := Option.map_eq_some_iff.mp h
      cases hpair
      exact (ih hinner).trans (List.suffix_cons c text)

theorem dropFirstBreak_suffix (text : List Char) : dropFirstBreak text <:+ text := by
  unfold dropFirstBreak
  split
  · exact List.suffix_cons _ _
  · exact List.suffix_rfl

theorem within_literalLines (text : List Char) : Within Prod.snd text (literalLines text) := by
  unfold literalLines
  split
  · exact within_refuse (by simp)
  · rename_i body rest hsplit
    split
    · exact (List.drop_suffix _ rest).trans
        ((splitAtThree_suffix hsplit).trans (dropFirstBreak_suffix text))
    · exact within_error (by simp)

theorem within_codedCharacter (count : Nat) (text : List Char) :
    Within Prod.snd text (codedCharacter count text) := by
  unfold codedCharacter
  dsimp only
  split
  · exact within_refuse (by simp)
  · split
    · exact List.drop_suffix count text
    · exact within_refuse (by simp)

theorem within_escape (severalLines : Bool) (text : List Char) :
    Within Prod.snd text (escape severalLines text) := by
  unfold escape
  split
  · exact within_refuse (by simp)
  · rename_i c text
    have hcons := List.suffix_cons c text
    split
    · exact (List.dropWhile_suffix _).trans hcons
    · split
      · split
        · exact List.nil_suffix
        · rename_i rest hspace
          have hrest : '\n' :: rest <:+ text := by
            rw [← hspace]
            exact skipSpace_suffix text
          exact (List.dropWhile_suffix _).trans
            ((List.suffix_cons '\n' rest).trans (hrest.trans hcons))
        · exact within_refuse (by simp)
      · split
        · exact (within_codedCharacter 4 text).mono hcons
        · split
          · exact (within_codedCharacter 8 text).mono hcons
          · split
            · exact hcons
            · exact within_refuse (by simp)

theorem within_basicBody (severalLines : Bool) (fuel : Nat) (text : List Char) :
    Within Prod.snd text (basicBody severalLines fuel text) := by
  induction fuel generalizing text with
  | zero => exact within_refuse (by simp)
  | succ fuel ih =>
    cases text with
    | nil => exact within_refuse (by simp)
    | cons c text =>
      have hcons := List.suffix_cons c text
      unfold basicBody
      split
      · exact hcons
      · split
        · exact (List.drop_suffix 2 text).trans hcons
        · split
          · refine ((within_escape severalLines text).mono hcons).bind
              fun (written, after) hafter => ?_
            refine ((ih after).mono hafter).bind fun (body, rest) hrest => ?_
            exact hrest
          · split
            · exact within_refuse (by simp)
            · refine ((ih text).mono hcons).bind fun (body, rest) hrest => ?_
              exact hrest

theorem within_basicLine (text : List Char) : Within Prod.snd text (basicLine text) :=
  within_basicBody false _ text

theorem within_basicLines (text : List Char) : Within Prod.snd text (basicLines text) := by
  unfold basicLines
  refine ((within_basicBody true _ _).mono (dropFirstBreak_suffix text)).bind
    fun (body, rest) hrest => ?_
  exact (List.drop_suffix _ rest).trans hrest

theorem within_keyPart (text : List Char) : Within Prod.snd text (keyPart text) := by
  unfold keyPart
  split
  · exact within_refuse (by simp)
  · rename_i c after
    have hcons := List.suffix_cons c after
    split
    · exact List.dropWhile_suffix _
    · split
      · exact ((within_literalLine after).mono hcons).bind fun _ hrest => hrest
      · split
        · exact ((within_basicLine after).mono hcons).bind fun _ hrest => hrest
        · exact within_refuse (by simp)

theorem within_keyPath (fuel : Nat) (text : List Char) :
    Within Prod.snd text (keyPath fuel text) := by
  induction fuel generalizing text with
  | zero => exact within_refuse (by simp)
  | succ fuel ih =>
    unfold keyPath
    refine (within_keyPart text).bind fun (part, after) hafter => ?_
    have hspace := (skipSpace_suffix after).trans hafter
    dsimp only
    split
    · rename_i rest hrest
      have hparts : skipSpace rest <:+ text := by
        rw [hrest] at hspace
        exact ((skipSpace_suffix rest).trans (List.suffix_cons '.' rest)).trans hspace
      exact ((ih _).mono hparts).bind fun _ hparts => hparts
    · exact hspace

theorem within_key (text : List Char) : Within Prod.snd text (key text) :=
  within_keyPath _ text

/-! ## Values -/

/-- All of the readers of values stay within their texts, with this fuel. -/
structure ValuesWithin (fuel : Nat) : Prop where
  value (text : List Char) : Within Prod.snd text (readValue fuel text)
  items (text : List Char) : Within Prod.snd text (readItems fuel text)
  members (known : Members) (text : List Char) : Within Prod.snd text (readMembers fuel known text)

theorem within_readValue {fuel : Nat} (h : ValuesWithin fuel) (text : List Char) :
    Within Prod.snd text (readValue (fuel + 1) text) := by
  cases text with
  | nil => exact within_refuse (by simp)
  | cons c text =>
    have hcons := List.suffix_cons c text
    have hdrop (n : Nat) : text.drop n <:+ c :: text := (List.drop_suffix n text).trans hcons
    unfold readValue
    split
    · dsimp only
      split
      · exact ((within_basicLines _).mono (hdrop 2)).bind fun _ hrest => hrest
      · exact ((within_basicLine text).mono hcons).bind fun _ hrest => hrest
    · split
      · dsimp only
        split
        · exact ((within_literalLines _).mono (hdrop 2)).bind fun _ hrest => hrest
        · exact ((within_literalLine text).mono hcons).bind fun _ hrest => hrest
      · split
        · exact hdrop 3
        · split
          · exact hdrop 4
          · split
            · refine ((within_skipLines _ text).mono hcons).bind fun after hafter => ?_
              split
              · rename_i rest
                exact (List.suffix_cons ']' rest).trans hafter
              · exact ((h.items after).mono hafter).bind fun _ hrest => hrest
            · split
              · have hspace := (skipSpace_suffix text).trans hcons
                split
                · rename_i rest hrest
                  rw [hrest] at hspace
                  exact (List.suffix_cons _ rest).trans hspace
                · exact ((h.members [] _).mono hspace).bind fun _ hrest => hrest
              · exact within_scalar (c :: text)

theorem within_readItems {fuel : Nat} (h : ValuesWithin fuel) (text : List Char) :
    Within Prod.snd text (readItems (fuel + 1) text) := by
  unfold readItems
  refine (h.value text).bind fun (item, after) hafter => ?_
  refine ((within_skipLines _ after).mono hafter).bind fun behind hbehind => ?_
  split
  · rename_i rest
    exact (List.suffix_cons ']' rest).trans hbehind
  · rename_i rest
    have hrest : rest <:+ text := (List.suffix_cons ',' rest).trans hbehind
    refine ((within_skipLines _ rest).mono hrest).bind fun next hnext => ?_
    split
    · rename_i last
      exact (List.suffix_cons ']' last).trans hnext
    · exact ((h.items next).mono hnext).bind fun _ hrest => hrest
  · exact within_refuse (by simp)

theorem within_readMembers {fuel : Nat} (h : ValuesWithin fuel) (known : Members)
    (text : List Char) : Within Prod.snd text (readMembers (fuel + 1) known text) := by
  unfold readMembers
  refine (within_key text).bind fun (path, behindKey) hkey => ?_
  dsimp only
  split
  · rename_i afterEquals
    have hequals : skipSpace afterEquals <:+ text :=
      ((skipSpace_suffix _).trans (List.suffix_cons '=' afterEquals)).trans hkey
    refine ((h.value _).mono hequals).bind fun (v, behindValue) hvalue => ?_
    dsimp only
    split
    · exact within_refuse_bind (by simp)
    · split
      · exact within_refuse (by simp)
      · split
        · exact within_refuse (by simp)
        · have hspace := (skipSpace_suffix behindValue).trans hvalue
          split
          · rename_i rest hrest
            rw [hrest] at hspace
            exact (List.suffix_cons _ rest).trans hspace
          · rename_i rest hrest
            rw [hrest] at hspace
            have hnext : skipSpace rest <:+ text :=
              ((skipSpace_suffix rest).trans (List.suffix_cons ',' rest)).trans hspace
            exact (h.members _ _).mono hnext
          · exact within_refuse (by simp)
  · exact within_refuse (by simp)

theorem valuesWithin (fuel : Nat) : ValuesWithin fuel := by
  induction fuel with
  | zero =>
    exact ⟨fun _ => within_refuse (by simp), fun _ => within_refuse (by simp),
      fun _ _ => within_refuse (by simp)⟩
  | succ fuel ih => exact ⟨within_readValue ih, within_readItems ih, within_readMembers ih⟩

/-! ## Statements -/

theorem within_readPair (p : Progress) (text : List Char) :
    Within Prod.snd text (readPair p text) := by
  unfold readPair
  refine (within_key text).bind fun (path, behindKey) hkey => ?_
  dsimp only
  split
  · rename_i afterEquals
    have hequals : skipSpace afterEquals <:+ text :=
      ((skipSpace_suffix _).trans (List.suffix_cons '=' afterEquals)).trans hkey
    refine (((valuesWithin _).value _).mono hequals).bind fun (v, rest) hrest => ?_
    dsimp only
    split
    · exact within_refuse (by simp)
    · split
      · exact within_refuse_bind (by simp)
      · split
        · exact within_refuse (by simp)
        · exact hrest
  · exact within_refuse (by simp)

theorem within_readTableHeader (p : Progress) (text : List Char) :
    Within Prod.snd text (readTableHeader p text) := by
  unfold readTableHeader
  refine ((within_key _).mono (skipSpace_suffix text)).bind fun (path, behindKey) hkey => ?_
  dsimp only
  split
  · exact within_refuse_bind (by simp)
  · split
    · exact within_refuse (by simp)
    · split
      · rename_i rest
        exact (List.suffix_cons ']' rest).trans hkey
      · exact within_refuse (by simp)

theorem within_readArrayHeader (p : Progress) (text : List Char) :
    Within Prod.snd text (readArrayHeader p text) := by
  unfold readArrayHeader
  refine ((within_key _).mono (skipSpace_suffix text)).bind fun (path, behindKey) hkey => ?_
  dsimp only
  split
  · exact within_refuse_bind (by simp)
  · split
    · exact within_refuse (by simp)
    · split
      · rename_i rest
        exact ((List.suffix_cons ']' rest).trans (List.suffix_cons ']' _)).trans hkey
      · exact within_refuse (by simp)

theorem within_readStatement (p : Progress) (text : List Char) :
    Within Prod.snd text (readStatement p text) := by
  unfold readStatement
  split
  · exact List.suffix_rfl
  · rename_i rest
    exact (within_readArrayHeader p.close rest).mono
      ((List.suffix_cons '[' rest).trans (List.suffix_cons '[' _))
  · rename_i rest _
    exact (within_readTableHeader p.close rest).mono (List.suffix_cons '[' rest)
  · split
    · exact within_readPair p _
    · split
      · exact List.suffix_rfl
      · exact within_refuse (by simp)

theorem within_readStatements (fuel : Nat) (p : Progress) (text : List Char) :
    Within (fun _ => []) text (readStatements fuel p text) := by
  induction fuel generalizing p text with
  | zero => exact List.nil_suffix
  | succ fuel ih =>
    have hspace := skipSpace_suffix text
    unfold readStatements
    split
    · exact List.nil_suffix
    · rename_i rest hrest
      rw [hrest] at hspace
      exact (ih p rest).mono ((List.suffix_cons '\n' rest).trans hspace)
    · refine ((within_readStatement p _).mono hspace).bind fun (read, behind) hbehind => ?_
      refine ((within_skipComment _).mono ((skipSpace_suffix behind).trans hbehind)).bind
        fun after hafter => ?_
      split
      · exact List.nil_suffix
      · rename_i rest
        exact (ih read rest).mono ((List.suffix_cons '\n' rest).trans hafter)
      · exact within_refuse (by simp)

/-! ## Documents -/

theorem normalizeBreaks_cons {c : Char} (hc : ∀ after, c = '\r' → text = '\n' :: after → False) :
    normalizeBreaks (c :: text) = c :: normalizeBreaks text := by
  rw [normalizeBreaks]
  exact hc

theorem prefix_of_normalizeBreaks {row : List Char} (hrow : '\n' ∉ row)
    (h : row <+: normalizeBreaks text) : row <+: text := by
  fun_induction normalizeBreaks text generalizing row with
  | case1 => exact h
  | case2 text ih =>
    cases row with
    | nil => exact List.nil_prefix
    | cons c row =>
      obtain ⟨rfl, -⟩ := List.cons_prefix_cons.mp h
      exact absurd List.mem_cons_self hrow
  | case3 c text _ ih =>
    cases row with
    | nil => exact List.nil_prefix
    | cons d row =>
      obtain ⟨rfl, hrest⟩ := List.cons_prefix_cons.mp h
      exact List.cons_prefix_cons.mpr ⟨rfl, ih (fun hmem => hrow (List.mem_cons_of_mem _ hmem)) hrest⟩

/-- What stands on one line stands there before the line breaks are normalized. -/
theorem infix_of_normalizeBreaks {row : List Char} (hrow : '\n' ∉ row)
    (h : row <:+: normalizeBreaks text) : row <:+: text := by
  fun_induction normalizeBreaks text with
  | case1 => exact h
  | case2 text ih =>
    rcases List.infix_cons_iff.mp h with hprefix | hinfix
    · have hnormal : normalizeBreaks ('\r' :: '\n' :: text) = '\n' :: normalizeBreaks text := rfl
      rw [← hnormal] at hprefix
      exact (prefix_of_normalizeBreaks hrow hprefix).isInfix
    · exact (ih hinfix).trans (List.suffix_append ['\r', '\n'] text).isInfix
  | case3 c text hc ih =>
    rcases List.infix_cons_iff.mp h with hprefix | hinfix
    · rw [← normalizeBreaks_cons hc] at hprefix
      exact (prefix_of_normalizeBreaks hrow hprefix).isInfix
    · exact (ih hinfix).trans (List.suffix_cons c text).isInfix

theorem HasLong.of_normalizeBreaks {count : Nat} (h : HasLong count (normalizeBreaks text)) :
    HasLong count text := by
  obtain ⟨hlimit, row, hrow, hsigns, hcount⟩ := h
  have hbreak : '\n' ∉ row := fun hmem => by simpa using hsigns _ hmem
  exact ⟨hlimit, row, infix_of_normalizeBreaks hbreak hrow, hsigns, hcount⟩

/-- Too many digits are only reported of a text in which they stand. -/
theorem hasLong_of_readText {count : Nat} (h : readText text = .error (.tooManyDigits count)) :
    HasLong count text := by
  have hwithin := within_readStatements ((normalizeBreaks text).length + 1) .empty
    (normalizeBreaks text)
  unfold readText at h
  dsimp only at h
  split at h
  · cases h
  · rename_i fault hfault
    rw [hfault] at hwithin
    refine HasLong.of_normalizeBreaks (hwithin count ?_)
    unfold ReadError.ofFault at h
    split at h
    · rename_i n hcause
      cases h
      exact hcause
    · cases h

end ObjectCatalog.Toml
