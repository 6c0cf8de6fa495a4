import Mathlib
import ObjectCatalog.Log.Filter
import ObjectCatalog.Proofs.Log.Fits
import ObjectCatalog.Proofs.Log.Passwords

/-! # Whether a redacted record still has a message

Redacting a record takes passwords out of its template and out of its arguments. The arguments
still fit every directive that is left, but a directive that was part of a password is gone: a
list of arguments is then too long, while a mapping may have entries that nothing refers to.
-/
namespace ObjectCatalog

open Template

/-! ## Redacted arguments -/

section Arguments

variable {v : Value} {t : String} {letter : Char} {index : Nat} {alternate : Bool}
  {precision : Option Nat} {written : Written}

theorem redactArgument_of_text (h : v.asText? = some t) :
    Record.redactArgument v = .text (Redaction.redact t) := by
  unfold Record.redactArgument
  rw [h]

theorem redactArgument_of_not_text (h : v.asText? = none) : Record.redactArgument v = v := by
  unfold Record.redactArgument
  rw [h]

theorem not_number_of_text (h : v.asText? = some t) :
    (∀ letter n, wholeNumber letter v ≠ .ok n) ∧ (∀ letter n, exactInteger letter v ≠ .ok n) ∧
      ∀ x, realNumber v ≠ .ok x := by
  cases v with
  | text s => exact ⟨by rintro _ _ ⟨⟩, by rintro _ _ ⟨⟩, by rintro _ ⟨⟩⟩
  | member m => exact ⟨by rintro _ _ ⟨⟩, by rintro _ _ ⟨⟩, by rintro _ ⟨⟩⟩
  | _ => cases h

theorem writeCharacter_of_text (h : v.asText? = some t) :
    writeCharacter v = match t.toList with
      | [c] => .ok (.text [c])
      | _ => .error .notACharacter := by
  cases v with
  | text s =>
    cases h
    simp only [writeCharacter, Value.asText?, Option.map_some]
    split <;> simp_all
  | member m =>
    cases h
    simp only [writeCharacter, Value.asText?, Option.map_some]
    split <;> simp_all
  | _ => cases h

/-- Of the conversions of a text only one looks at what the text is. -/
theorem letter_of_convert_text (h : v.asText? = some t)
    (hc : convert letter index alternate precision v = .ok written) :
    letter ∈ ['s', 'r', 'a'] ∨ letter = 'c' ∧ ∃ c, t.toList = [c] := by
  obtain ⟨hwhole, hinteger, hreal⟩ := not_number_of_text h
  unfold convert at hc
  generalize (if alternate then ['0', letter] else []) = mark at hc
  dsimp only at hc
  split at hc
  case h_16 =>
    rw [writeCharacter_of_text h] at hc
    split at hc
    · rename_i c hsingle
      exact .inr ⟨rfl, c, hsingle⟩
    · cases hc
  case h_1 | h_2 | h_3 => exact .inl (by decide)
  case h_4 | h_5 | h_6 =>
    obtain ⟨n, hn, -⟩ := Except.bind_eq_ok_iff.mp hc
    exact absurd hn (hwhole _ n)
  case h_7 | h_8 | h_9 =>
    obtain ⟨n, hn, -⟩ := Except.bind_eq_ok_iff.mp hc
    exact absurd hn (hinteger _ n)
  case h_17 => cases hc
  all_goals
    obtain ⟨x, hx, -⟩ := Except.bind_eq_ok_iff.mp hc
    exact absurd hx (hreal x)

theorem convert_redactArgument (h : convert letter index alternate precision v = .ok written) :
    ∃ written, convert letter index alternate precision (Record.redactArgument v) = .ok written := by
  cases ht : v.asText? with
  | none =>
    rw [redactArgument_of_not_text ht]
    exact ⟨written, h⟩
  | some t =>
    rw [redactArgument_of_text ht]
    rcases letter_of_convert_text ht h with hletter | ⟨rfl, c, hc⟩
    · simp only [List.mem_cons, List.not_mem_nil, or_false] at hletter
      rcases hletter with rfl | rfl | rfl <;> exact ⟨_, rfl⟩
    · rw [Redaction.redact_singleton hc]
      refine ⟨.text [c], ?_⟩
      show writeCharacter (.text t) = .ok (.text [c])
      rw [writeCharacter_of_text rfl, hc]

end Arguments

namespace Template

variable {s rest : Supply} {d : Directive} {ds : List Directive} {v : Value}

def Supply.redacted (s : Supply) : Supply :=
  { s with waiting := s.waiting.map Record.redactArgument }

theorem next_redacted (h : s.next = .ok (v, rest)) :
    s.redacted.next = .ok (Record.redactArgument v, rest.redacted) := by
  obtain ⟨hwaiting, hentries⟩ := waiting_of_next h
  simp only [Supply.redacted, Supply.next, hwaiting, hentries, List.map_cons]

theorem measure_redacted {ofPrecision : Bool} {e : Extent} {n : Option Int}
    (h : s.measure ofPrecision e = .ok (n, rest)) :
    s.redacted.measure ofPrecision e = .ok (n, rest.redacted) := by
  by_cases he : e.need = 0
  · obtain ⟨rfl, hany⟩ := measure_fixed he h
    exact hany _
  · cases e with
    | argument =>
      obtain ⟨v, hnext, htext, hany⟩ := measure_argument h
      have hredacted := next_redacted hnext
      rw [redactArgument_of_not_text htext] at hredacted
      exact hany _ _ hredacted
    | _ => exact absurd rfl he

theorem render_redacted {body : List Char} (he : s.entries = none)
    (h : d.render s = .ok (body, rest)) :
    ∃ body, d.render s.redacted = .ok (body, rest.redacted) := by
  obtain ⟨u⟩ := Directive.use h
  have hselect : s.redacted.select d.key = .ok u.selected.redacted := by
    rcases select_eq_ok_cases u.select with ⟨habsent, hs⟩ | ⟨name, entries, w, -, hentries, -⟩
    · rw [habsent, hs]
      rfl
    · cases he.symm.trans hentries
  obtain ⟨written, hconvert⟩ := convert_redactArgument u.convert
  exact Directive.exists_render_iff.mpr ⟨{ u with
    selected := u.selected.redacted
    afterWidth := u.afterWidth.redacted
    afterPrecision := u.afterPrecision.redacted
    value := Record.redactArgument u.value
    written
    select := hselect
    measureWidth := measure_redacted u.measureWidth
    measurePrecision := measure_redacted u.measurePrecision
    next := next_redacted u.next
    convert := hconvert }⟩

/-- A list that fits some directives fits them without its passwords. -/
theorem Fits.redacted (he : s.entries = none) (h : Fits s ds) : Fits s.redacted ds := by
  induction ds generalizing s with
  | nil => simpa [Fits, Supply.redacted] using h
  | cons d ds ih =>
    obtain ⟨body, rest, hd, hrest⟩ := h
    obtain ⟨body', hd'⟩ := render_redacted he hd
    exact ⟨body', rest.redacted, hd', ih ((entries_of_render hd).trans he) hrest⟩

/-! ## The redacted template -/

theorem directives_stars : directives Redaction.stars = [] := by
  unfold Redaction.stars
  rw [directives_verbatim (by decide), directives_verbatim (by decide),
    directives_verbatim (by decide), directives_nil]

theorem whole_stars : Whole Redaction.stars := by
  unfold Whole
  rw [directives_stars]
  exact fun d hd => absurd hd List.not_mem_nil

/-- Redacting a template leaves out the directives within its passwords, and no others. -/
theorem directives_of_redacts {text out : List Char} {secrets : List (List Char)}
    (h : Redaction.Redacts text out secrets)
    (havoids : ∀ d ∈ directives text, d.Avoids ':' ∧ d.Avoids '@') :
    (directives out).Sublist (directives text) ∧
      (directives text).Perm (directives out ++ secrets.flatMap directives) := by
  induction h with
  | clear text => exact ⟨List.Sublist.refl _, by simp⟩
  | @address before password rest out secrets h ih =>
    -- The text and what is left of it come apart at the same two signs.
    have hbefore : Whole before := whole_of_avoids isApart_colon fun d hd => (havoids d hd).1
    have hrest := directives_append isApart_colon hbefore (password ++ '@' :: rest)
    rw [hrest] at havoids
    have hpassword : Whole password := whole_of_avoids isApart_at fun d hd =>
      (havoids d (List.mem_append_right _ hd)).2
    have htext : directives (before ++ ':' :: (password ++ '@' :: rest)) =
        directives before ++ (directives password ++ directives rest) := by
      rw [hrest, directives_append isApart_at hpassword]
    have hout : directives (before ++ ':' :: (Redaction.stars ++ '@' :: out)) =
        directives before ++ directives out := by
      rw [directives_append isApart_colon hbefore, directives_append isApart_at whole_stars,
        directives_stars, List.nil_append]
    rw [directives_append isApart_at hpassword] at havoids
    obtain ⟨hsub, hperm⟩ := ih fun d hd =>
      havoids d (List.mem_append_right _ (List.mem_append_right _ hd))
    rw [htext, hout]
    constructor
    · exact (hsub.trans (List.sublist_append_right _ _)).append_left _
    · rw [List.append_assoc, List.flatMap_cons]
      exact ((hperm.append_left _).trans (List.perm_append_comm_assoc _ _ _)).append_left _

end Template

namespace Record

open Redaction (passwords redacts_redactChars)

variable {r : Record} {t : String} {values : List Value} {entries : List (String × Value)}

def Formats (r : Record) : Prop := ∃ text, r.message = .ok text

theorem formats_of_isEmpty (h : r.arguments.isEmpty = true) : r.Formats := by
  refine ⟨r.template.display, ?_⟩
  unfold message render
  rw [if_pos h]
  rfl

theorem formats_iff_fits (h : r.arguments.isEmpty = false) :
    r.Formats ↔ Fits (.ofArguments r.arguments) (directives r.template.display.toList) := by
  rw [← renderPieces_iff_fits _ 0]
  unfold Formats message render
  simp only [h, Bool.false_eq_true, if_false]
  constructor
  · rintro ⟨text, htext⟩
    obtain ⟨out, hout, -⟩ := Except.bind_eq_ok_iff.mp htext
    exact ⟨out, hout⟩
  · rintro ⟨out, hout⟩
    exact ⟨String.ofList out, Except.bind_eq_ok_iff.mpr ⟨out, hout, rfl⟩⟩

theorem isEmpty_redactArguments (a : Arguments) : (redactArguments a).isEmpty = a.isEmpty := by
  cases a with
  | positional values => simp [redactArguments, Arguments.isEmpty]
  | named entries => rfl

theorem redactText_of_ne {v : Value} (h : ∀ t, v ≠ .text t) : redactText v = v := by
  cases v with
  | text t => exact absurd rfl (h t)
  | _ => rfl

theorem directives_redact (havoids : ∀ d ∈ directives t.toList, d.Avoids ':' ∧ d.Avoids '@') :
    (directives (Redaction.redactMarked t).toList).Sublist (directives t.toList) ∧
      (directives t.toList).Perm
        (directives (Redaction.redactMarked t).toList ++ (passwords t.toList).flatMap directives) := by
  rw [Redaction.redactMarked_eq, Redaction.redact, String.toList_ofList]
  exact directives_of_redacts (redacts_redactChars t.toList) havoids

theorem avoids_signs_of_fits {s : Supply} {ds : List Directive} (h : Fits s ds)
    (hkeys : ∀ d ∈ ds, ∀ key, d.key = .name key → ':' ∉ key.toList ∧ '@' ∉ key.toList) :
    ∀ d ∈ ds, d.Avoids ':' ∧ d.Avoids '@' := by
  intro d hd
  constructor
  · exact avoids_of_fits (by decide) h (fun e he key hname => (hkeys e he key hname).1) d hd
  · exact avoids_of_fits (by decide) h (fun e he key hname => (hkeys e he key hname).2) d hd

/-- A list that fits a template fits what redacting leaves of both, unless a password of the
template held a directive. -/
theorem fits_redact_iff (h : Fits ⟨values, none⟩ (directives t.toList)) :
    Fits ⟨values.map redactArgument, none⟩ (directives (Redaction.redactMarked t).toList) ↔
      ∀ password ∈ passwords t.toList, directives password = [] := by
  have hkeys := key_ne_name_of_fits rfl h
  have havoids := avoids_signs_of_fits h fun d hd key hname => absurd hname (hkeys d hd key)
  obtain ⟨hsub, hperm⟩ := directives_redact havoids
  rw [← List.flatMap_eq_nil_iff]
  constructor
  · intro hfits
    have hbefore : values.length = demand (directives t.toList) := length_waiting_of_fits rfl h
    -- The list is used up with and without the passwords, so their directives took nothing.
    have hafter : values.length = demand (directives (Redaction.redactMarked t).toList) := by
      rw [← length_waiting_of_fits rfl hfits, List.length_map]
    have hsum : demand (directives t.toList) =
        demand (directives (Redaction.redactMarked t).toList) +
          demand ((passwords t.toList).flatMap directives) := by
      rw [← demand_append]
      exact demand_perm hperm
    exact demand_eq_zero_iff.mp (by omega)
  · intro hnone
    rw [hnone, List.append_nil] at hperm
    rw [hsub.eq_of_length hperm.length_eq.symm]
    exact h.redacted rfl

theorem formats_redact_iff_fits (h : r.arguments.isEmpty = false) :
    r.redact.Formats ↔ Fits (.ofArguments (redactArguments r.arguments))
      (directives (redactText r.template).display.toList) :=
  formats_iff_fits (r := r.redact) ((isEmpty_redactArguments r.arguments).trans h)

/-- A template that is no text stays, and so does a mapping; a list still fits it. -/
theorem formats_redact_of_not_text (hs : r.arguments.isEmpty = false)
    (ht : ∀ t, r.template ≠ .text t) (h : r.Formats) : r.redact.Formats := by
  rw [formats_iff_fits hs] at h
  rw [formats_redact_iff_fits hs, redactText_of_ne ht]
  cases ha : r.arguments with
  | positional values =>
    rw [ha] at h
    exact Fits.redacted rfl h
  | named entries =>
    rw [ha] at h
    exact h

/-- Redacting a record that has a message leaves it one if there are no arguments or the template is
no text. It also does for a list of arguments exactly if no password in the template holds a
directive, and for a mapping at least if no key holds a sign that passwords stand between. -/
theorem formats_redact (h : r.Formats) :
    (r.arguments.isEmpty = true ∨ (∀ t, r.template ≠ .text t) → r.redact.Formats) ∧
      (∀ t values, r.template = .text t → r.arguments = .positional values → values ≠ [] →
        (r.redact.Formats ↔ ∀ password ∈ passwords t.toList, directives password = [])) ∧
      ∀ t entries, r.template = .text t → r.arguments = .named entries →
        (∀ d ∈ directives t.toList, ∀ key, d.key = .name key →
          ':' ∉ key.toList ∧ '@' ∉ key.toList) → r.redact.Formats := by
  have hfree : r.arguments.isEmpty = true → r.redact.Formats := fun hempty =>
    formats_of_isEmpty ((isEmpty_redactArguments r.arguments).trans hempty)
  refine ⟨?_, ?_, ?_⟩
  · intro hcase
    cases hs : r.arguments.isEmpty with
    | true => exact hfree hs
    | false =>
      have ht := hcase.resolve_left (by rw [hs]; exact Bool.false_ne_true)
      exact formats_redact_of_not_text hs ht h
  · intro t values ht ha hne
    have hs : r.arguments.isEmpty = false := by
      rw [ha]
      simpa [Arguments.isEmpty] using hne
    rw [formats_iff_fits hs, ht, ha] at h
    rw [formats_redact_iff_fits hs, ht, ha]
    exact fits_redact_iff h
  · intro t entries ht ha hkeys
    cases hs : r.arguments.isEmpty with
    | true => exact hfree hs
    | false =>
      rw [formats_iff_fits hs, ht, ha] at h
      rw [formats_redact_iff_fits hs, ht, ha]
      have havoids := avoids_signs_of_fits h hkeys
      exact Fits.sublist (Nat.le_refl 1) h (directives_redact havoids).1

def saying (template : String) (arguments : Arguments) : Record where
  logger := "catalog"
  level := 20
  severity := "INFO"
  template := .text template
  arguments := arguments
  pathname := ""
  line := 0
  created := 0
  milliseconds := 0
  extras := []
  failure := none
  stack := ""

def connected : Record :=
  saying "postgresql://%s:50%%@%s is up" (.positional [.text "admin", .text "x://a:b@db"])

theorem formats_redact_connected :
    connected.Formats ∧ connected.redact.Formats := by
  have h : connected.Formats := ⟨"postgresql://admin:50%@x://a:b@db is up", by cbv⟩
  refine ⟨h, ((formats_redact h).2.1 _ _ rfl rfl (List.cons_ne_nil _ _)).mpr ?_⟩
  have hpasswords : passwords "postgresql://%s:50%%@%s is up".toList = ["50%%".toList] := by cbv
  have hverbatim : directives "50%%".toList = [] := by cbv
  rw [hpasswords]
  simpa using hverbatim

/-- A password that is an argument of its own, and a key that looks like an address. -/
theorem message_lost_to_redaction :
    (saying "connecting to postgresql://admin:%s@db" (.positional [.text "pw"])).message =
        .ok "connecting to postgresql://admin:pw@db" ∧
      (saying "connecting to postgresql://admin:%s@db" (.positional [.text "pw"])).redact.message =
        .error .unused ∧
      (saying "%(x://a:b@db)s" (.named [(.text "x://a:b@db", .text "up")])).message = .ok "up" ∧
      (saying "%(x://a:b@db)s" (.named [(.text "x://a:b@db", .text "up")])).redact.message =
        .error (.missingKey "x://a:***@db") := by
  refine ⟨?_, ?_, ?_, ?_⟩ <;> cbv

end Record

end ObjectCatalog
