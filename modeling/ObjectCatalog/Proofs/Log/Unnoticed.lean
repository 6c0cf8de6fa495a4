import ObjectCatalog.Log.ColorLine
import ObjectCatalog.Log.JsonLine
import ObjectCatalog.Proofs.Log.Attributes
import ObjectCatalog.Proofs.Log.ClearedArguments
import ObjectCatalog.Proofs.Log.Members

/-! # When redacting goes unnoticed

Redacting a record that holds no secret changes its arguments alone: in a list of them, members of
the closed sets become the texts that they stand for. The message and the lines that are written
tell this exactly if they show something of a member.
-/
namespace ObjectCatalog.Record

open Template

variable {r : Record} {values : List Value}

/-- The record has no secret among its attributes, and no password in a text of its own. -/
structure Harmless (r : Record) : Prop where
  names : ∀ entry ∈ r.attributes, Redaction.isSensitive entry.1 = false
  texts : ∀ name s, (name, .value (.text s)) ∈ r.attributes → Redaction.redact s = s
  arguments : ∀ values, r.arguments = .positional values →
    ∀ s, .text s ∈ values → Redaction.redact s = s

/-- Nothing is shown of a member in a list of arguments: no directive that is carried out writes
one, and no failure to carry one out names its set. -/
def MembersUnseen (r : Record) : Prop :=
  ∀ values, r.arguments = .positional values → values ≠ [] →
    (∀ e, r.message = .error e → ¬ e.NamesMember) ∧
      (r.Formats → ¬ ShowsSome ⟨values, none⟩ (pieces 0 r.template.display.toList))

theorem membersUnseen_of_named {entries : List (Value × Value)} (ha : r.arguments = .named entries) :
    r.MembersUnseen := by
  intro values hvalues
  cases ha.symm.trans hvalues

theorem membersUnseen_iff (ha : r.arguments = .positional values) : r.MembersUnseen ↔
    (values ≠ [] → (∀ e, r.message = .error e → ¬ e.NamesMember) ∧
      (r.Formats → ¬ ShowsSome ⟨values, none⟩ (pieces 0 r.template.display.toList))) := by
  refine ⟨fun h => h values ha, fun h others hothers => ?_⟩
  rw [← Arguments.positional.inj (ha.symm.trans hothers)]
  exact h

theorem withArguments_self {a : Arguments} (h : r.arguments = a) : r.withArguments a = r := by
  rw [← h, withArguments]

/-! ## What redacting changes -/

theorem redactArgument_eq_plain {v : Value} (h : ∀ s, v = .text s → Redaction.redact s = s) :
    redactArgument v = v.plain := by
  cases v with
  | text s =>
    rw [redactArgument_of_text rfl, h s rfl]
    rfl
  | member m =>
    rw [redactArgument_of_text rfl, m.redact_value]
    rfl
  | _ => rfl

namespace Harmless

theorem redactMarked_eq (h : r.Harmless) {name s : String}
    (hmem : (name, .value (.text s)) ∈ r.attributes) : Redaction.redactMarked s = s := by
  rw [Redaction.redactMarked_eq]
  exact h.texts name s hmem

theorem redactText_eq (h : r.Harmless) {name : String} {v : Value}
    (hmem : (name, .value v) ∈ r.attributes) : redactText v = v := by
  cases v with
  | text s => exact congrArg Value.text (h.redactMarked_eq hmem)
  | _ => rfl

theorem redactAttribute_eq (h : r.Harmless) {entry : String × Value} (hmem : entry ∈ r.extras) :
    redactAttribute entry = entry := by
  obtain ⟨name, v⟩ := entry
  have hattribute : (name, .value v) ∈ r.attributes :=
    List.mem_append_right _ (List.mem_map_of_mem hmem)
  have hname : Redaction.isSensitive name = false := h.names (name, .value v) hattribute
  show (name, if Redaction.isSensitive name = true then _ else redactText v) = (name, v)
  rw [hname, if_neg Bool.false_ne_true, h.redactText_eq hattribute]

/-- Redacting such a record changes its arguments alone. -/
theorem redact_eq (h : r.Harmless) :
    r.redact = r.withArguments (redactArguments r.arguments) := by
  have hown : ∀ entry ∈ r.ownAttributes, entry ∈ r.attributes := fun entry hmem =>
    List.mem_append_left _ hmem
  simp only [ownAttributes, List.forall_mem_cons] at hown
  obtain ⟨hlogger, htemplate, -, hseverity, -, hpathname, hfile, hmodule, -, hfailureText, hstack, -,
    hfunction, -, -, hstart, hthread, hthreadName, hprocessName, hprocess, -⟩ := hown
  have horigin : redactOrigin r.origin = r.origin := by
    unfold redactOrigin
    rw [h.redactMarked_eq hfile, h.redactMarked_eq hmodule, h.redactText_eq hfunction,
      h.redactText_eq hstart, h.redactText_eq hthread, h.redactText_eq hthreadName,
      h.redactText_eq hprocessName, h.redactText_eq hprocess]
  have hextras : r.extras.map redactAttribute = r.extras := by
    rw [List.map_congr_left fun entry hmem => h.redactAttribute_eq hmem, List.map_id']
  unfold redact withArguments
  rw [h.redactMarked_eq hlogger, h.redactMarked_eq hseverity, h.redactText_eq htemplate,
    h.redactMarked_eq hpathname, horigin, hextras, h.redactMarked_eq hstack,
    h.redactMarked_eq hfailureText]

theorem redactArguments_eq (h : r.Harmless) (ha : r.arguments = .positional values) :
    redactArguments r.arguments = .positional (values.map Value.plain) := by
  rw [ha]
  refine congrArg Arguments.positional (List.map_congr_left fun v hv => ?_)
  exact redactArgument_eq_plain fun s hs => h.arguments values ha s (hs ▸ hv)

end Harmless

/-! ## What is written -/

theorem alike_message (ht : r.arguments = .positional values) (hne : values ≠ []) :
    Alike (fun text text' => text' = text ↔
      ¬ ShowsSome ⟨values, none⟩ (pieces 0 r.template.display.toList)) r.message
      (r.withArguments (.positional (values.map Value.plain))).message := by
  have hempty : (Arguments.positional values).isEmpty = false := by
    simpa [Arguments.isEmpty] using hne
  have hplain : (Arguments.positional (values.map Value.plain)).isEmpty = false := by
    simpa [Arguments.isEmpty] using hne
  unfold message withArguments render
  simp only [ht, hempty, hplain, Bool.false_eq_true, if_false]
  refine (alike_renderPieces (s := ⟨values, none⟩) rfl _).bind ?_
  intro out out' _ hsame
  refine .ok ?_
  rw [String.ofList_inj]
  exact hsame

theorem Harmless.message_eq_iff (h : r.Harmless) :
    r.redact.message = r.message ↔ r.MembersUnseen := by
  rw [h.redact_eq]
  cases ha : r.arguments with
  | named entries =>
    rw [redactArguments, withArguments_self ha]
    exact iff_of_true rfl (membersUnseen_of_named ha)
  | positional values =>
    rw [← ha, h.redactArguments_eq ha, membersUnseen_iff ha]
    by_cases hne : values = []
    · rw [withArguments_self (by rw [ha, hne, List.map_nil])]
      exact iff_of_true rfl fun hsome => absurd hne hsome
    · rw [(alike_message ha hne).eq_iff]
      exact ⟨fun hunseen _ => hunseen, fun hunseen => hunseen hne⟩

/-- Whatever else a record holds, its arguments come into a line by the message alone. -/
theorem jsonLine_withArguments {a : Arguments} (h : (r.withArguments a).message = r.message)
    (line : JsonLine) : line.write (r.withArguments a) = line.write r := by
  unfold JsonLine.write
  rw [h]
  rfl

theorem colorLine_withArguments {a : Arguments} (h : (r.withArguments a).message = r.message)
    (pattern : String) : ColorLine.write pattern (r.withArguments a) = ColorLine.write pattern r := by
  unfold ColorLine.write
  rw [h]
  rfl

/-- No member is shown where the list holds none, but in containers. -/
theorem membersUnseen_of_notMem
    (h : ∀ values, r.arguments = .positional values → ∀ m, .member m ∉ values) :
    r.MembersUnseen := by
  intro values ha hne
  have hplain : values.map Value.plain = values := by
    rw [List.map_congr_left fun v hv => v.plain_of_ne fun m hm => h values ha m (hm ▸ hv),
      List.map_id']
  refine (alike_message ha hne).eq_iff.mp ?_
  rw [withArguments_self (by rw [ha, hplain])]

/-- Redacting a record without secrets leaves its message and its lines as they are, exactly if the
message shows nothing of a member of a closed set. -/
theorem redaction_unnoticed_iff (h : r.Harmless) :
    (r.redact.message = r.message ∧ (∀ line : JsonLine, line.write r.redact = line.write r) ∧
      ∀ pattern, ColorLine.write pattern r.redact = ColorLine.write pattern r) ↔
      r.MembersUnseen := by
  rw [← h.message_eq_iff]
  refine ⟨And.left, fun hmessage => ⟨hmessage, ?_⟩⟩
  rw [h.redact_eq] at hmessage ⊢
  exact ⟨jsonLine_withArguments hmessage, colorLine_withArguments hmessage⟩

theorem isSensitive_ownAttributes (r : Record) :
    ∀ entry ∈ r.ownAttributes, Redaction.isSensitive entry.1 = false := by
  simp only [ownAttributes, List.forall_mem_cons, List.not_mem_nil, false_implies, implies_true]
  decide

def reporting (template : String) (values : List Value) (extras : List (String × Value)) : Record :=
  { saying template (.positional values) with extras }

theorem harmless_reporting {template : String} {extras : List (String × Value)}
    (ht : Redaction.redact template = template) (hvalues : ∀ s, .text s ∉ values)
    (hextras : ∀ entry ∈ extras, Redaction.isSensitive entry.1 = false ∧ ∀ s, entry.2 ≠ .text s) :
    (reporting template values extras).Harmless := by
  constructor
  · intro entry hentry
    rcases List.mem_append.mp hentry with hown | hfurther
    · exact isSensitive_ownAttributes _ entry hown
    · obtain ⟨e, he, rfl⟩ := List.mem_map.mp hfurther
      exact (hextras e he).1
  · intro name s hentry
    rcases List.mem_append.mp hentry with hown | hfurther
    · simp only [ownAttributes, reporting, saying, List.mem_cons, Prod.mk.injEq,
        Attribute.value.injEq, Value.text.injEq, reduceCtorEq, and_false, false_or, or_false,
        List.not_mem_nil] at hown
      have hempty : Redaction.redact "" = "" := Redaction.redact_of_colon_notMem (by decide)
      rcases hown with ⟨-, rfl⟩ | ⟨-, rfl⟩ | ⟨-, rfl⟩ | ⟨-, rfl⟩ | ⟨-, rfl⟩ | ⟨-, rfl⟩ | ⟨-, rfl⟩ |
        ⟨-, rfl⟩
      · exact Redaction.redact_of_colon_notMem (by decide)
      · exact ht
      · exact Redaction.redact_of_colon_notMem (by decide)
      all_goals exact hempty
    · obtain ⟨e, he, heq⟩ := List.mem_map.mp hfurther
      exact absurd (Attribute.value.inj (Prod.mk.inj heq).2) ((hextras e he).2 s)
  · rintro _ ⟨⟩ s hs
    exact absurd hs (hvalues s)

def deleting : Record :=
  reporting "%05d rows of %s deleted" [.int 7, .list [.member (.family .sqlite)]]
    [("dialect", .member (.family .sqlite)), ("digest", .bytes [0, 255])]

theorem redaction_unnoticed_deleting : deleting.redact.message = deleting.message ∧
    (∀ line : JsonLine, line.write deleting.redact = line.write deleting) ∧
      ∀ pattern, ColorLine.write pattern deleting.redact = ColorLine.write pattern deleting := by
  have hharmless : deleting.Harmless := harmless_reporting (by cbv) (by simp) (by simp; decide)
  exact (redaction_unnoticed_iff hharmless).mpr (membersUnseen_of_notMem (by rintro _ ⟨⟩; simp))

def failing : Record := reporting "failed: %s" [.member (.category .unclassified)] []

/-- The message shows the label of the member, and then the text that the member stands for. -/
theorem member_noticed : failing.Harmless ∧
    failing.message = .ok "failed: ErrorCategory.UNCLASSIFIED" ∧
      failing.redact.message = .ok "failed: unclassified" := by
  refine ⟨harmless_reporting (by cbv) (by simp) (by simp), ?_, ?_⟩
  · decide +kernel
  · decide +kernel

end ObjectCatalog.Record
