import ObjectCatalog.Diff.Builder
import ObjectCatalog.Validation.Coercion

/-! # Requests by the values given last

However often the values of a builder are set and requests are made in between, only the last
value of each part counts. A request is made or sent if these are acceptable, with just these
values; otherwise all parts whose values are not are reported in their order, and nothing changes.
What has been made or sent stays as it is.
-/
namespace ObjectCatalog

/-! ## Validation -/

namespace Validated

variable {α β : Type} {P : α → Prop} {Q : (α → β) → Prop} {r : Except Issue α}
  {f : Validated (α → β)} {a : Validated α} {issues more : List FieldIssue}

/-- These are the issues of a validated value, and without any there is a value as it should be. -/
def Reports (a : Validated α) (issues : List FieldIssue) (P : α → Prop) : Prop :=
  (issues = [] ∧ ∃ x, a = .ok x ∧ P x) ∨ (issues ≠ [] ∧ a = .error issues)

theorem Reports.apply (hf : f.Reports issues Q) (ha : a.Reports more P) :
    (f.apply a).Reports (issues ++ more) fun y => ∃ g x, Q g ∧ P x ∧ y = g x := by
  rcases hf with ⟨rfl, g, rfl, hg⟩ | ⟨hissues, rfl⟩
  · rcases ha with ⟨rfl, x, rfl, hx⟩ | ⟨hmore, rfl⟩
    · exact .inl ⟨rfl, g x, rfl, g, x, hg, hx, rfl⟩
    · exact .inr ⟨hmore, rfl⟩
  · rcases ha with ⟨rfl, x, rfl, hx⟩ | ⟨hmore, rfl⟩
    · rw [List.append_nil]
      exact .inr ⟨hissues, rfl⟩
    · exact .inr ⟨by simp [hissues], rfl⟩

theorem Reports.imp {R : α → Prop} (h : a.Reports issues P) (hR : ∀ x, P x → R x) :
    a.Reports issues R := by
  rcases h with ⟨hnil, x, hok, hx⟩ | herror
  · exact .inl ⟨hnil, x, hok, hR x hx⟩
  · exact .inr herror

theorem reports_ok {x : α} (hx : P x) : Reports (.ok x) [] P := .inl ⟨rfl, x, rfl, hx⟩

theorem reports_field_ok {name : String} {x : α} (h : r = .ok x) (hx : P x) :
    (field name r).Reports [] P := by
  subst h
  exact reports_ok hx

theorem reports_field_error {name : String} {issue : Issue} (h : r = .error issue) :
    (field name r).Reports [⟨name, issue⟩] P := by
  subst h
  exact .inr ⟨List.cons_ne_nil _ _, rfl⟩

end Validated

namespace Diff

open Validated (Reports)

variable {readText : TextReader} {part : Part} {v : Value} {given : Part → Value}

/-! ## Values of parts -/

def Part.isReference : Part → Bool
  | .fromRef | .toRef => true
  | .fromHash | .toHash => false

/-- References are texts that are not empty; commits are texts, and may be left out. -/
def Part.Accepts (readText : TextReader) (part : Part) (v : Value) : Prop :=
  if part.isReference then ∃ s, readText v = .ok s ∧ 0 < s.length
  else v = .null ∨ ∃ s, readText v = .ok s

def Part.issue? (readText : TextReader) (part : Part) (v : Value) : Option Issue :=
  match readText v with
  | .ok s => if part.isReference && s == "" then some .textTooShort else none
  | .error issue => if !part.isReference && v.isNull then none else some issue

def Part.issues (readText : TextReader) (part : Part) (v : Value) : List FieldIssue :=
  ((part.issue? readText v).map (FieldIssue.mk part.name)).toList

def issuesOf (readText : TextReader) (given : Part → Value) : List FieldIssue :=
  Part.all.flatMap fun part => part.issues readText (given part)

def Params.text? (p : Params) : Part → Option String
  | .fromRef => some p.fromRef
  | .fromHash => p.fromHash
  | .toRef => some p.toRef
  | .toHash => p.toHash

/-- A value is the text that stands for it, or null where none does. -/
def IsTextOf (readText : TextReader) (v : Value) (text : Option String) : Prop :=
  match text with
  | some s => readText v = .ok s
  | none => v = .null

/-- The request has exactly these values. -/
def Params.Carries (readText : TextReader) (p : Params) (given : Part → Value) : Prop :=
  ∀ part, IsTextOf readText (given part) (p.text? part)

theorem isNull_iff : v.isNull = true ↔ v = .null := by
  cases v <;> simp [Value.isNull]

theorem length_pos_iff {s : String} : 0 < s.length ↔ s ≠ "" := by
  rw [Nat.pos_iff_ne_zero, ne_eq, String.length_eq_zero_iff]

theorem issue?_eq_none_iff : part.issue? readText v = none ↔ part.Accepts readText v := by
  unfold Part.issue? Part.Accepts
  cases htext : readText v with
  | ok s => cases hpart : part.isReference <;> simp [length_pos_iff]
  | error issue => cases hpart : part.isReference <;> simp [isNull_iff]

instance (part : Part) (v : Value) : Decidable (part.Accepts readText v) :=
  decidable_of_iff (part.issue? readText v = none) issue?_eq_none_iff

theorem issues_eq_nil_iff : part.issues readText v = [] ↔ part.Accepts readText v := by
  rw [← issue?_eq_none_iff, Part.issues]
  cases part.issue? readText v <;> simp

theorem mem_all (part : Part) : part ∈ Part.all := by
  cases part <;> decide

theorem issuesOf_eq_nil_iff :
    issuesOf readText given = [] ↔ ∀ part : Part, part.Accepts readText (given part) := by
  simp [issuesOf, List.flatMap_eq_nil_iff, issues_eq_nil_iff, mem_all]

/-- The parts whose values are not acceptable are reported, each once and in their order. -/
theorem fields_issuesOf (readText : TextReader) (given : Part → Value) :
    (issuesOf readText given).map FieldIssue.field =
    (Part.all.filter fun part => ¬ part.Accepts readText (given part)).map Part.name := by
  unfold issuesOf
  induction Part.all with
  | nil => rfl
  | cons part parts ih =>
    rw [List.flatMap_cons, List.map_append, ih]
    cases hissue : part.issue? readText (given part) with
    | none =>
      have haccepts : part.Accepts readText (given part) := issue?_eq_none_iff.mp hissue
      rw [List.filter_cons_of_neg (by simpa using haccepts), issues_eq_nil_iff.mpr haccepts]
      rfl
    | some issue =>
      have hrejects : ¬ part.Accepts readText (given part) := by
        rw [← issue?_eq_none_iff, hissue]
        exact Option.some_ne_none issue
      rw [List.filter_cons_of_pos (by simpa using hrejects), Part.issues, hissue]
      rfl

theorem reports_reference (readText : TextReader) (part : Part) (hpart : part.isReference = true)
    (v : Value) :
    (Validated.field part.name (reference readText (some v))).Reports (part.issues readText v)
      fun s => IsTextOf readText v (some s) := by
  cases htext : readText v with
  | ok s =>
    by_cases hs : s = ""
    · have hissues : part.issues readText v = [⟨part.name, .textTooShort⟩] := by
        simp [Part.issues, Part.issue?, htext, hpart, hs]
      rw [hissues]
      exact Validated.reports_field_error (by simp [reference, htext, hs])
    · have hissues : part.issues readText v = [] := by
        simp [Part.issues, Part.issue?, htext, hs]
      rw [hissues]
      exact Validated.reports_field_ok (by simp [reference, htext, hs]) htext
  | error issue =>
    have hissues : part.issues readText v = [⟨part.name, issue⟩] := by
      simp [Part.issues, Part.issue?, htext, hpart]
    rw [hissues]
    exact Validated.reports_field_error (by simp [reference, htext])

theorem reports_commit (readText : TextReader) (part : Part) (hpart : part.isReference = false)
    (v : Value) : (Validated.field part.name (commit readText (some v))).Reports
      (part.issues readText v) (IsTextOf readText v) := by
  by_cases hnull : v = .null
  · subst hnull
    have hissues : part.issues readText .null = [] := by
      rw [issues_eq_nil_iff, Part.Accepts, hpart]
      exact .inl rfl
    rw [hissues]
    exact Validated.reports_field_ok rfl rfl
  · have hcommit : commit readText (some v) = (readText v).map some := by
      cases v <;> first | rfl | exact absurd rfl hnull
    have hgiven : v.isNull = false := by
      rw [← Bool.not_eq_true, isNull_iff]
      exact hnull
    rw [hcommit]
    cases htext : readText v with
    | ok s =>
      have hissues : part.issues readText v = [] := by
        simp [Part.issues, Part.issue?, htext, hpart]
      rw [hissues]
      exact Validated.reports_field_ok rfl htext
    | error issue =>
      have hissues : part.issues readText v = [⟨part.name, issue⟩] := by
        simp [Part.issues, Part.issue?, htext, hgiven]
      rw [hissues]
      exact Validated.reports_field_error rfl

theorem reports_validate (readText : TextReader) (given : Part → Value) :
    (Params.validate readText fun part => some (given part)).Reports (issuesOf readText given)
      fun p => p.Carries readText given := by
  have hissues : issuesOf readText given = ((([] ++ Part.fromRef.issues readText (given .fromRef)) ++
      Part.fromHash.issues readText (given .fromHash)) ++ Part.toRef.issues readText (given .toRef)) ++
        Part.toHash.issues readText (given .toHash) := by
    simp [issuesOf, Part.all]
  have hall := ((((Validated.reports_ok (P := fun f => f = Params.mk) rfl).apply
    (reports_reference readText .fromRef rfl (given .fromRef))).apply
    (reports_commit readText .fromHash rfl (given .fromHash))).apply
    (reports_reference readText .toRef rfl (given .toRef))).apply
    (reports_commit readText .toHash rfl (given .toHash))
  rw [hissues]
  refine hall.imp ?_
  rintro p ⟨_, toHash, ⟨_, toRef, ⟨_, fromHash, ⟨_, fromRef, rfl, hfromRef, rfl⟩, hfromHash, rfl⟩,
    htoRef, rfl⟩, htoHash, rfl⟩ part
  cases part
  · exact hfromRef
  · exact hfromHash
  · exact htoRef
  · exact htoHash

/-! ## Calls one after the other -/

structure Turn where
  call : Call
  fails : Option Raised

def Turn.given? (part : Part) (t : Turn) : Option Value :=
  match t.call with
  | .set p v => if p = part then some v else none
  | _ => none

def lastGiven (turns : List Turn) (part : Part) : Value :=
  (turns.filterMap (Turn.given? part)).getLast?.getD .null

namespace Client

variable {c : Client} {t : Turn}

def next (readText : TextReader) (c : Client) (t : Turn) : Client :=
  (c.step readText t.fails t.call).1

def after (readText : TextReader) (c : Client) (turns : List Turn) : Client :=
  turns.foldl (next readText) c

theorem after_append (c : Client) (turns later : List Turn) :
    c.after readText (turns ++ later) = (c.after readText turns).after readText later :=
  List.foldl_append

/-- A call gives a value, or adds a request to those that were made or sent, or changes nothing. -/
theorem next_cases (readText : TextReader) (c : Client) (t : Turn) :
    (∃ part v, t.call = .set part v ∧
        c.next readText t = { c with builder := c.builder.set part v }) ∨
      (∃ p, t.call = .params ∧ c.next readText t = { c with made := c.made ++ [p] }) ∨
      (∃ p, t.call = .get ∧ c.next readText t = { c with sent := c.sent ++ [p] }) ∨
      ((∀ part v, t.call ≠ .set part v) ∧ c.next readText t = c) := by
  obtain ⟨call, fails⟩ := t
  cases call with
  | set part v => exact .inl ⟨part, v, rfl, rfl⟩
  | assign field => exact .inr (.inr (.inr ⟨by simp, rfl⟩))
  | params =>
    cases hparams : c.builder.params readText with
    | ok p => exact .inr (.inl ⟨p, rfl, by simp only [next, step, hparams]⟩)
    | error issues => exact .inr (.inr (.inr ⟨by simp, by simp only [next, step, hparams]⟩))
  | get =>
    cases hparams : c.builder.params readText with
    | ok p => exact .inr (.inr (.inl ⟨p, rfl, by simp only [next, step, hparams]⟩))
    | error issues => exact .inr (.inr (.inr ⟨by simp, by simp only [next, step, hparams]⟩))

theorem given?_eq_none (hcall : ∀ p v, t.call ≠ .set p v) : t.given? part = none := by
  unfold Turn.given?
  split
  · rename_i p v hset
    exact absurd hset (hcall p v)
  · rfl

/-- Requests change none of the values. -/
theorem value_next (c : Client) (t : Turn) (part : Part) :
    (c.next readText t).builder.value part = (t.given? part).getD (c.builder.value part) := by
  rcases next_cases readText c t with ⟨p, v, hcall, hnext⟩ | ⟨p, hcall, hnext⟩ | ⟨p, hcall, hnext⟩ |
    ⟨hcall, hnext⟩
  · by_cases hp : part = p
    · simp [hnext, Builder.set, Turn.given?, hcall, hp]
    · simp [hnext, Builder.set, Turn.given?, hcall, hp, Ne.symm hp]
  · rw [hnext, given?_eq_none (by simp [hcall])]
    rfl
  · rw [hnext, given?_eq_none (by simp [hcall])]
    rfl
  · rw [hnext, given?_eq_none hcall]
    rfl

theorem value_after (c : Client) (turns : List Turn) (part : Part) :
    (c.after readText turns).builder.value part =
      (turns.filterMap (Turn.given? part)).getLast?.getD (c.builder.value part) := by
  induction turns generalizing c with
  | nil => rfl
  | cons t turns ih =>
    change ((c.next readText t).after readText turns).builder.value part = _
    rw [ih, value_next]
    cases hgiven : t.given? part with
    | none => rw [List.filterMap_cons_none hgiven, Option.getD_none]
    | some v =>
      rw [List.filterMap_cons_some hgiven, List.getLast?_cons, Option.getD_some, Option.getD_some]

theorem builder_after (turns : List Turn) :
    (empty.after readText turns).builder = ⟨lastGiven turns⟩ := by
  have hvalues : (empty.after readText turns).builder.value = lastGiven turns := by
    funext part
    exact value_after empty turns part
  exact congrArg Builder.mk hvalues

/-! ## What is kept -/

/-- Requests are only added, to those that were made and to those that were sent. -/
structure Grows (c d : Client) : Prop where
  made : c.made <+: d.made
  sent : c.sent <+: d.sent

namespace Grows

theorem refl (c : Client) : c.Grows c := ⟨List.prefix_rfl, List.prefix_rfl⟩

theorem trans {d e : Client} (h : c.Grows d) (h' : d.Grows e) : c.Grows e :=
  ⟨h.made.trans h'.made, h.sent.trans h'.sent⟩

end Grows

theorem grows_next (c : Client) (t : Turn) : c.Grows (c.next readText t) := by
  rcases next_cases readText c t with ⟨p, v, -, hnext⟩ | ⟨p, -, hnext⟩ | ⟨p, -, hnext⟩ |
    ⟨-, hnext⟩
  · rw [hnext]
    exact ⟨List.prefix_rfl, List.prefix_rfl⟩
  · rw [hnext]
    exact ⟨List.prefix_append _ _, List.prefix_rfl⟩
  · rw [hnext]
    exact ⟨List.prefix_rfl, List.prefix_append _ _⟩
  · rw [hnext]
    exact .refl c

theorem grows_after (c : Client) (turns : List Turn) : c.Grows (c.after readText turns) := by
  induction turns generalizing c with
  | nil => exact .refl c
  | cons t turns ih => exact (grows_next c t).trans (ih (c.next readText t))

/-! ## Requests -/

/-- What comes of a call at a client whose parts have these values. -/
structure Follows (readText : TextReader) (c : Client) (given : Part → Value) : Prop where
  /-- Acceptable values make a request, which the other side gets once if it is to be sent. -/
  success : (∀ part : Part, part.Accepts readText (given part)) →
    ∃ p : Params, p.Carries readText given ∧ ∀ fails,
      c.step readText fails .params = ({ c with made := c.made ++ [p] },
        .params p (decide (c.made.getLast? = some p))) ∧
      c.step readText fails .get = ({ c with sent := c.sent ++ [p] },
        fails.elim (.answered (c.sent.length + 1)) .failed)
  /-- Other values are reported, and all is as before. -/
  failure : (¬ ∀ part : Part, part.Accepts readText (given part)) → ∀ fails,
    c.step readText fails .params = (c, .invalid (issuesOf readText given)) ∧
      c.step readText fails .get = (c, .invalid (issuesOf readText given))
  unsent : ∀ fails call, call ≠ .get → (c.step readText fails call).1.sent = c.sent
  frozen : c.made ≠ [] → ∀ fails field,
    c.step readText fails (.assign field) = (c, .invalid [⟨field, .frozen⟩])

theorem follows_of_builder {given : Part → Value} (hbuilder : c.builder = ⟨given⟩) :
    c.Follows readText given := by
  have hparams : c.builder.params readText =
      Params.validate readText fun part => some (given part) := by
    rw [hbuilder]
    rfl
  refine ⟨fun haccepts => ?_, fun haccepts fails => ?_, fun fails call hcall => ?_,
    fun hmade fails field => ?_⟩
  · rcases reports_validate readText given with ⟨-, p, hok, hp⟩ | ⟨hissues, -⟩
    · refine ⟨p, hp, fun fails => ⟨?_, ?_⟩⟩
      · simp only [step, hparams, hok]
      · cases fails with
        | none => simp only [step, hparams, hok, Option.elim_none]
        | some r => simp only [step, hparams, hok, Option.elim_some]
    · exact absurd (issuesOf_eq_nil_iff.mpr haccepts) hissues
  · rcases reports_validate readText given with ⟨hissues, -⟩ | ⟨-, herror⟩
    · exact absurd (issuesOf_eq_nil_iff.mp hissues) haccepts
    · simp only [step, hparams, herror, and_self]
  · change (c.next readText ⟨call, fails⟩).sent = c.sent
    rcases next_cases readText c ⟨call, fails⟩ with ⟨p, v, -, hnext⟩ | ⟨p, -, hnext⟩ |
      ⟨p, hget, -⟩ | ⟨-, hnext⟩
    · rw [hnext]
    · rw [hnext]
    · exact absurd hget hcall
    · rw [hnext]
  · simp [step, Params.refuseAssignment, hmade]

/-- Values of different parts may be given in either order. -/
theorem set_comm (c : Client) {p q : Part} (hpq : p ≠ q) (v w : Value) (fails fails' : Option Raised) :
    (c.next readText ⟨.set p v, fails⟩).next readText ⟨.set q w, fails'⟩ =
      (c.next readText ⟨.set q w, fails'⟩).next readText ⟨.set p v, fails⟩ := by
  have hbuilder : (c.builder.set p v).set q w = (c.builder.set q w).set p v := by
    refine congrArg Builder.mk (funext fun part => ?_)
    by_cases hq : part = q
    · subst hq
      simp [Builder.set, hpq.symm]
    · simp [Builder.set, hq]
  simp only [next, step, hbuilder]

/-- After any calls, what comes of the next one is decided by the last value of each part. Which
parts are reported is decided by these alone, calls with the same last values leave the same
builder, values of different parts may change places, and no later call takes back or changes a
request. -/
theorem requests_follow_last (readText : TextReader) (turns : List Turn) :
    (empty.after readText turns).Follows readText (lastGiven turns) ∧
      (issuesOf readText (lastGiven turns)).map FieldIssue.field =
        (Part.all.filter fun part => ¬ part.Accepts readText (lastGiven turns part)).map Part.name ∧
      (∀ other, lastGiven other = lastGiven turns →
        (empty.after readText other).builder = (empty.after readText turns).builder) ∧
      (∀ p q v w fails fails', p ≠ q →
        empty.after readText (turns ++ [⟨.set p v, fails⟩, ⟨.set q w, fails'⟩]) =
          empty.after readText (turns ++ [⟨.set q w, fails'⟩, ⟨.set p v, fails⟩])) ∧
      ∀ later, (empty.after readText turns).Grows (empty.after readText (turns ++ later)) := by
  refine ⟨follows_of_builder (builder_after turns), fields_issuesOf readText (lastGiven turns),
    fun other hother => ?_, fun p q v w fails fails' hpq => ?_, fun later => ?_⟩
  · rw [builder_after, builder_after, hother]
  · rw [after_append, after_append]
    exact set_comm _ hpq v w fails fails'
  · rw [after_append]
    exact grows_after _ later

/-- A reference is given that may not be empty, and then another; a commit is given and taken
back. -/
def secondThoughts : List Turn :=
  [⟨.set .fromRef (.text ""), none⟩, ⟨.get, none⟩, ⟨.set .fromRef (.text "main"), none⟩,
    ⟨.set .toHash (.text "2e1cfa82"), none⟩, ⟨.set .toRef (.text "feature"), none⟩,
    ⟨.set .toHash .null, none⟩]

theorem requests_follow_last_secondThoughts :
    (∀ part : Part, part.Accepts Coercion.text (lastGiven secondThoughts part)) ∧
      ∃ p : Params, p.Carries Coercion.text (lastGiven secondThoughts) ∧ ∀ fails,
        ((empty.after Coercion.text secondThoughts).step Coercion.text fails .get).1.sent =
          (empty.after Coercion.text secondThoughts).sent ++ [p] := by
  have haccepts : ∀ part : Part, part.Accepts Coercion.text (lastGiven secondThoughts part) := by
    intro part
    cases part <;> decide
  obtain ⟨p, hp, hstep⟩ := (requests_follow_last Coercion.text secondThoughts).1.success haccepts
  exact ⟨haccepts, p, hp, fun fails => by rw [(hstep fails).2]⟩

end Client

end Diff

end ObjectCatalog
