import ObjectCatalog.Proofs.Log.Addresses
import ObjectCatalog.Proofs.Log.RedactedMessage

/-! # Whether the arguments of a message lose their passwords

Every text in a list of arguments loses the passwords of its addresses, and with them every trace of
these in the message: two lists that differ in such passwords alone are written in the same way. A
mapping of arguments is left as it is, so that its texts lose nothing.
-/
namespace ObjectCatalog

/-- One text is the other with another password in one of its addresses. -/
inductive Redaction.Rekeyed : String → String → Prop
  | address (a : Address) (before after : List Char) {p q : List Char} (hp : IsPassword p)
    (hq : IsPassword q) :
    Rekeyed (String.ofList (before ++ a.text p after)) (String.ofList (before ++ a.text q after))

theorem Redaction.Rekeyed.redact_eq {s t : String} (h : Rekeyed s t) : redact s = redact t := by
  cases h with
  | address a before after hp hq =>
    unfold redact
    rw [String.toList_ofList, String.toList_ofList, redactChars_text_eq hp hq]

/-- The same value, or texts that differ in passwords of addresses. -/
inductive Value.AlikeButPasswords : Value → Value → Prop
  | same (v : Value) : AlikeButPasswords v v
  | texts {s t : String} (h : Relation.ReflTransGen Redaction.Rekeyed s t) :
    AlikeButPasswords (.text s) (.text t)

namespace Arguments

def values : Arguments → List Value
  | .positional values => values
  | .named entries => entries.map Prod.snd

/-- Every text among the arguments has become the text without its passwords. -/
def Cleared (before after : Arguments) : Prop :=
  List.Forall₂ (fun v w => ∀ t, Value.asText? v = some t →
    Value.asText? w = some (Redaction.redact t)) before.values after.values

/-- The same arguments in the same shape, but for passwords of addresses. -/
inductive AlikeButPasswords : Arguments → Arguments → Prop
  | positional {values others : List Value}
    (h : List.Forall₂ Value.AlikeButPasswords values others) :
    AlikeButPasswords (.positional values) (.positional others)
  | named {entries others : List (Value × Value)}
    (h : List.Forall₂ (fun e f => e.1 = f.1 ∧ Value.AlikeButPasswords e.2 f.2) entries others) :
    AlikeButPasswords (.named entries) (.named others)

end Arguments

namespace Value.AlikeButPasswords

variable {v w : Value}

theorem redact_eq {s t : String} (h : Relation.ReflTransGen Redaction.Rekeyed s t) :
    Redaction.redact s = Redaction.redact t := by
  induction h with
  | refl => rfl
  | tail _ hlast ih => exact ih.trans hlast.redact_eq

theorem redactArgument_eq (h : AlikeButPasswords v w) :
    Record.redactArgument v = Record.redactArgument w := by
  cases h with
  | same => rfl
  | texts h => rw [redactArgument_of_text rfl, redactArgument_of_text rfl, redact_eq h]

/-- Values without passwords are alike only if they are the same. -/
theorem eq_of_redact_eq (h : AlikeButPasswords v w)
    (hv : ∀ t, v.asText? = some t → Redaction.redact t = t)
    (hw : ∀ t, w.asText? = some t → Redaction.redact t = t) : v = w := by
  cases h with
  | same => rfl
  | @texts s t h => rw [← hv s rfl, ← hw t rfl, redact_eq h]

end Value.AlikeButPasswords

namespace Record

variable {r : Record} {values others : List Value} {entries : List (Value × Value)}

def ArgumentsCleared (r : Record) : Prop := r.arguments.Cleared r.redact.arguments

def withArguments (r : Record) (arguments : Arguments) : Record := { r with arguments }

theorem cleared_positional (values : List Value) :
    (Arguments.positional values).Cleared (redactArguments (.positional values)) := by
  show List.Forall₂ _ values (values.map redactArgument)
  rw [List.forall₂_map_right_iff, List.forall₂_same]
  intro v _ t ht
  rw [redactArgument_of_text ht]
  rfl

theorem cleared_named_iff : (Arguments.named entries).Cleared (redactArguments (.named entries)) ↔
    ∀ e ∈ entries, ∀ t, e.2.asText? = some t → Redaction.redact t = t := by
  show List.Forall₂ _ (entries.map Prod.snd) (entries.map Prod.snd) ↔ _
  rw [List.forall₂_same, List.forall_mem_map]
  constructor
  · intro h e he t ht
    have hsame := h e he t ht
    rw [ht] at hsame
    exact (Option.some.inj hsame).symm
  · intro h e he t ht
    rw [h e he t ht, ht]

theorem map_redactArgument_eq (h : List.Forall₂ Value.AlikeButPasswords values others) :
    values.map redactArgument = others.map redactArgument := by
  rw [← List.forall₂_eq_eq_eq, List.forall₂_map_left_iff, List.forall₂_map_right_iff]
  exact h.imp fun _ _ hv => hv.redactArgument_eq

theorem redactArguments_eq {a b : Arguments} (h : a.AlikeButPasswords b)
    (ha : a.Cleared (redactArguments a)) (hb : b.Cleared (redactArguments b)) :
    redactArguments a = redactArguments b := by
  cases h with
  | positional h => exact congrArg Arguments.positional (map_redactArgument_eq h)
  | named h =>
    rw [cleared_named_iff] at ha hb
    refine congrArg Arguments.named ?_
    induction h with
    | nil => rfl
    | cons hentry _ ih =>
      have hsame := hentry.2.eq_of_redact_eq (ha _ List.mem_cons_self) (hb _ List.mem_cons_self)
      rw [Prod.ext hentry.1 hsame, ih (fun e he => ha e (List.mem_cons_of_mem _ he))
        (fun e he => hb e (List.mem_cons_of_mem _ he))]

/-- All texts among the arguments lose their passwords exactly if no text of a mapping has any.
Where they do, the message is the same whatever the passwords are. -/
theorem arguments_cleared_iff (r : Record) :
    (r.ArgumentsCleared ↔ ∀ entries, r.arguments = .named entries →
      ∀ e ∈ entries, ∀ t, e.2.asText? = some t → Redaction.redact t = t) ∧
    (r.ArgumentsCleared → ∀ other : Arguments, r.arguments.AlikeButPasswords other →
      (r.withArguments other).ArgumentsCleared →
      (r.withArguments other).redact.message = r.redact.message) := by
  constructor
  · show r.arguments.Cleared (redactArguments r.arguments) ↔ _
    cases r.arguments with
    | positional values =>
      refine iff_of_true (cleared_positional values) ?_
      intro entries h
      cases h
    | named entries =>
      rw [cleared_named_iff]
      constructor
      · rintro h _ ⟨⟩
        exact h
      · exact fun h => h entries rfl
  · intro hr other halike hother
    have hsame : redactArguments r.arguments = redactArguments other :=
      redactArguments_eq halike hr hother
    show Template.render _ (redactArguments other) = Template.render _ (redactArguments r.arguments)
    rw [hsame]
    rfl

def adminAddress : Redaction.Address where
  scheme := ['p', 'o', 's', 't', 'g', 'r', 'e', 's', 'q', 'l']
  user := ['a', 'd', 'm', 'i', 'n']
  letter := by decide
  scheme_chars := List.all_eq_true.mp (by decide)
  user_ne := by decide
  user_chars := List.all_eq_true.mp (by decide)

def trying (password : List Char) : Record :=
  saying "%05d: trying %s"
    (.positional [.int 7, .text (String.ofList (adminAddress.text password ['d', 'b']))])

theorem arguments_cleared_trying :
    (trying ['a', ':', '/']).redact.message = (trying ['p', 'w']).redact.message ∧
      (trying ['p', 'w']).redact.message = .ok "00007: trying postgresql://admin:***@db" := by
  obtain ⟨hcleared, hmessage⟩ := arguments_cleared_iff (trying ['p', 'w'])
  obtain ⟨hother, -⟩ := arguments_cleared_iff (trying ['a', ':', '/'])
  have hp : Redaction.IsPassword ['p', 'w'] := ⟨by decide, List.all_eq_true.mp (by decide)⟩
  have hq : Redaction.IsPassword ['a', ':', '/'] := ⟨by decide, List.all_eq_true.mp (by decide)⟩
  have haddress : Value.AlikeButPasswords
      (.text (String.ofList (adminAddress.text ['p', 'w'] ['d', 'b'])))
      (.text (String.ofList (adminAddress.text ['a', ':', '/'] ['d', 'b']))) :=
    .texts (.single (.address adminAddress [] ['d', 'b'] hp hq))
  refine ⟨hmessage (hcleared.mpr ?_) _ (.positional (.cons (.same _) (.cons haddress .nil)))
    (hother.mpr ?_), by cbv⟩
  all_goals
    intro entries h
    cases h

/-- The values of a mapping keep their passwords, and the message shows them. -/
theorem password_kept_in_mapping :
    let r := saying "connecting to %(url)s"
      (.named [(.text "url", .text "postgresql://admin:hunter2@db")])
    ¬ r.ArgumentsCleared ∧
      r.redact.message = .ok "connecting to postgresql://admin:hunter2@db" := by
  refine ⟨?_, by cbv⟩
  have hshort : Redaction.redact "postgresql://admin:hunter2@db" = "postgresql://admin:***@db" := by
    cbv
  intro h
  have hsame := cleared_named_iff.mp h _ List.mem_cons_self _ rfl
  rw [hshort] at hsame
  exact absurd hsame (by decide)

end Record

end ObjectCatalog
