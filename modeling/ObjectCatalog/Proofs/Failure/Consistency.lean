import ObjectCatalog.Failure.Mapping
import ObjectCatalog.Proofs.Dialect.Classes

/-! # Mapped errors agree with themselves

A mapped error carries one classification several times over: in its class, its flag, its fields
and its payload. They all say the same, and what they say is decided by the set of the declaration
that holds the extracted code. In particular an error is retryable exactly if its code is one to
retry on.
-/
namespace ObjectCatalog

/-! ## Extracted codes -/

theorem Member.value_ne (m : Member) : m.value ≠ "" := by
  cases m with
  | category c => cases c <;> decide
  | family f => cases f <;> decide
  | logicalType t => cases t <;> decide

theorem Code.value_ne_of_ofValue? {v : Value} {code : Code} (h : Code.ofValue? v = some code) :
    code.value ≠ "" := by
  cases v with
  | text s =>
    simp only [Code.ofValue?] at h
    split at h
    · cases h
    · rename_i hs
      cases h
      simpa [value] using hs
  | member m =>
    cases h
    exact m.value_ne
  | _ => cases h

/-- No number stands for an empty code. -/
theorem codeOfNumber_ne {n : Int} {code : String} (h : codeOfNumber.lookup n = some code) :
    code ≠ "" := by
  have hall : ∀ entry ∈ codeOfNumber, entry.2 ≠ "" := by decide
  obtain ⟨before, after, heq, -⟩ := List.lookup_eq_some_iff.mp h
  exact hall (n, code) (heq ▸ List.mem_append_cons_self)

namespace Fault

variable {f : Fault} {code : Code}

theorem value_ne_of_numberCode? (h : f.numberCode? = some code) : code.value ≠ "" := by
  unfold numberCode? at h
  split at h
  · obtain ⟨s, hs, rfl⟩ := Option.map_eq_some_iff.mp h
    exact codeOfNumber_ne hs
  · cases h

theorem value_ne_of_code? (h : f.code? = some code) : code.value ≠ "" := by
  unfold code? at h
  split at h
  · rename_i found hfound
    cases h
    obtain ⟨name, -, hname⟩ := List.exists_of_findSome?_eq_some hfound
    obtain ⟨v, -, hv⟩ := Option.bind_eq_some_iff.mp hname
    exact Code.value_ne_of_ofValue? hv
  · exact value_ne_of_numberCode? h

end Fault

namespace Failure

/-- The driver's error inside this failure has a code, and it is one of these. -/
def HasCodeIn (f : Failure) (codes : List String) : Prop :=
  ∃ code, f.code? = some code ∧ code.value ≠ "" ∧ code.value ∈ codes

variable {f : Failure} {code : Code}

theorem value_ne_of_code? (h : f.code? = some code) : code.value ≠ "" := by
  obtain ⟨e, -, he⟩ := Option.bind_eq_some_iff.mp h
  exact Fault.value_ne_of_code? he

theorem hasCodeIn_iff (h : f.code? = some code) {codes : List String} :
    f.HasCodeIn codes ↔ code.value ∈ codes := by
  constructor
  · rintro ⟨found, hfound, -, hmem⟩
    obtain rfl : code = found := Option.some.inj (h.symm.trans hfound)
    exact hmem
  · exact fun hmem => ⟨code, h, value_ne_of_code? h, hmem⟩

theorem not_hasCodeIn (h : f.code? = none) (codes : List String) : ¬ f.HasCodeIn codes := by
  rintro ⟨code, hcode, -⟩
  rw [h] at hcode
  cases hcode

end Failure

/-! ## Classification -/

namespace Descriptor

variable {d : Descriptor} {f : Failure} {c : Classification} {e : StoreError}

theorem classifyFailure_eq_category_iff (s : CodeSet) :
    (d.classifyFailure f).category = s.category ↔ f.HasCodeIn (d.codes s) := by
  change d.classifyCode f.code? = s.category ↔ _
  cases h : f.code? with
  | none => exact iff_of_false s.category_ne_unclassified.symm (Failure.not_hasCodeIn h _)
  | some code =>
    rw [Failure.hasCodeIn_iff h]
    exact classify_eq_category_iff (Failure.value_ne_of_code? h)

theorem classifyFailure_eq_unclassified_iff :
    (d.classifyFailure f).category = .unclassified ↔
      f.code? = none ∨ ∃ code, f.code? = some code ∧ ∀ s, code.value ∉ d.codes s := by
  change d.classifyCode f.code? = .unclassified ↔ _
  cases h : f.code? with
  | none => exact iff_of_true rfl (.inl rfl)
  | some code =>
    have hclass : d.classifyCode (some code) = .unclassified ↔ ∀ s, code.value ∉ d.codes s :=
      classify_eq_unclassified_iff (Failure.value_ne_of_code? h)
    simp [hclass]

/-- The classification fails only on an unclassified error whose words cannot be had. -/
theorem reportedClass_eq_ok_iff :
    d.reportedClass f = .ok c ↔ c = d.classifyFailure f ∧
      (c.category = .unclassified → ∃ text, f.driverText? = .ok text) := by
  unfold reportedClass
  dsimp only
  split
  · rename_i failure hcat htext
    refine iff_of_false (fun h => by cases h) ?_
    rintro ⟨rfl, h⟩
    obtain ⟨text, ht⟩ := h hcat
    rw [htext] at ht
    cases ht
  · rename_i h
    constructor
    · intro hc
      cases hc
      refine ⟨rfl, fun hcat => ?_⟩
      cases ht : f.driverText? with
      | ok text => exact ⟨text, rfl⟩
      | error failure => exact absurd ht (h failure hcat)
    · rintro ⟨rfl, -⟩
      rfl

theorem mapFailure_eq_ok_iff {operation : Option String} :
    d.mapFailure operation f = .ok e ↔ e = d.storeError operation (d.classifyFailure f) ∧
      ((d.classifyFailure f).category = .unclassified → ∃ text, f.driverText? = .ok text) := by
  unfold mapFailure
  constructor
  · intro h
    cases hc : d.reportedClass f with
    | error failure =>
      rw [hc] at h
      cases h
    | ok c =>
      rw [hc] at h
      cases h
      obtain ⟨rfl, htext⟩ := reportedClass_eq_ok_iff.mp hc
      exact ⟨rfl, htext⟩
  · rintro ⟨rfl, htext⟩
    rw [reportedClass_eq_ok_iff.mpr ⟨rfl, htext⟩]
    rfl

end Descriptor

/-! ## Mapped errors -/

/-- Whatever can be seen of an error describes this classification by the dialect of this name. -/
structure StoreError.Describes (e : StoreError) (name : String) (c : Classification) : Prop where
  kind : e.kind = c.category.errorClass
  category : e.category = some c.category
  retryable : e.retryable = true ↔ c.category = .retryableConflict
  sqlState : e.sqlState = codeValue c.code
  dialect : e.dialect = .text name
  payload_category : e.payload.lookup "category" = some (.text c.category.value)
  payload_retryable : e.payload.lookup "retryable" = some (.bool e.retryable)
  payload_code : e.payload.lookup "code" = c.code.map Code.toValue
  payload_dialect : e.payload.lookup "dialect" = some (.text name)

namespace Category

theorem retryable_errorClass_iff (c : Category) :
    c.errorClass.retryable = true ↔ c = .retryableConflict := by
  cases c <;> decide

theorem errorClass_eq_iff {c k : Category} : c.errorClass = k.errorClass ↔ c = k := by
  cases c <;> cases k <;> decide

end Category

theorem Value.isGiven_text {s : String} (h : s ≠ "") : (Value.text s).isGiven = true :=
  bne_iff_ne.mpr h

theorem Code.isGiven_toValue {code : Code} (h : code.value ≠ "") : code.toValue.isGiven = true := by
  cases code with
  | text s => exact Value.isGiven_text h
  | member m => rfl

theorem Descriptor.name_ne (d : Descriptor) : d.name ≠ "" := Member.value_ne (.family d.family)

namespace Descriptor

variable {d : Descriptor} {f : Failure} {c : Classification}

/-- The code is the only entry of a payload that may be missing. -/
theorem payload_storeError (operation : Option String)
    (h : ∀ code, c.code = some code → code.value ≠ "") :
    (d.storeError operation c).payload =
      [("detail", .text (operationName operation ++ ": " ++ c.category.phrase)),
        ("retryable", .bool c.category.errorClass.retryable),
        ("category", .text c.category.value)] ++
      c.code.toList.map (fun code => ("code", code.toValue)) ++ [("dialect", .text d.name)] := by
  have hname := Value.isGiven_text d.name_ne
  unfold StoreError.payload storeError
  cases hc : c.code with
  | none =>
    simp only [hname, if_true]
    rfl
  | some code =>
    have hcode : (codeValue (some code)).isGiven = true := Code.isGiven_toValue (h code hc)
    simp only [hname, hcode, if_true]
    rfl

theorem describes_storeError (operation : Option String)
    (h : ∀ code, c.code = some code → code.value ≠ "") :
    (d.storeError operation c).Describes d.name c := by
  refine ⟨rfl, rfl, c.category.retryable_errorClass_iff, rfl, rfl, ?_, ?_, ?_, ?_⟩
  all_goals
    rw [payload_storeError operation h]
    cases c.code <;> rfl

/-- A failure is mapped to an error unless its code is in none of the sets and its words cannot be
had. The error is retryable exactly if the code is a code to retry on, its class is the one of the
set that holds the code, and all that can be seen of it describes the same classification. -/
theorem mapFailure_consistent (decl : Declaration) (d : Descriptor) (h : decl.build = .ok d)
    (operation : Option String) (f : Failure) :
    ((∃ e, d.mapFailure operation f = .ok e) ↔
      (∃ s, f.HasCodeIn (decl.codes s)) ∨ ∃ text, f.driverText? = .ok text) ∧
    ∀ e, d.mapFailure operation f = .ok e →
      (e.retryable = true ↔ f.HasCodeIn decl.retryCodes) ∧
      (e.kind = .retryTransaction ↔ f.HasCodeIn decl.retryCodes) ∧
      (e.kind = .duplicateKey ↔ f.HasCodeIn decl.constraintCodes) ∧
      (e.kind = .alreadyExists ↔ f.HasCodeIn decl.existsCodes) ∧
      (e.kind = .unclassifiedDatabase ↔
        f.code? = none ∨ ∃ code, f.code? = some code ∧ ∀ s, code.value ∉ decl.codes s) ∧
      ∃ category, e.Describes decl.family ⟨category, f.code?⟩ := by
  obtain ⟨hcodes, hname⟩ := Declaration.of_build h
  have hset : ∀ s, (d.classifyFailure f).category = s.category ↔ f.HasCodeIn (decl.codes s) :=
    fun s => hcodes ▸ classifyFailure_eq_category_iff s
  have hnone : (d.classifyFailure f).category = .unclassified ↔
      f.code? = none ∨ ∃ code, f.code? = some code ∧ ∀ s, code.value ∉ decl.codes s :=
    hcodes ▸ classifyFailure_eq_unclassified_iff
  constructor
  · constructor
    · rintro ⟨e, he⟩
      obtain ⟨-, htext⟩ := mapFailure_eq_ok_iff.mp he
      by_cases hcat : (d.classifyFailure f).category = .unclassified
      · exact .inr (htext hcat)
      · obtain ⟨s, hs⟩ := CodeSet.exists_category hcat
        exact .inl ⟨s, (hset s).mp hs⟩
    · intro hex
      refine ⟨_, mapFailure_eq_ok_iff.mpr ⟨rfl, fun hcat => ?_⟩⟩
      rcases hex with ⟨s, hs⟩ | htext
      · exact absurd ((hset s).mpr hs) (hcat ▸ s.category_ne_unclassified.symm)
      · exact htext
  · intro e he
    obtain ⟨rfl, -⟩ := mapFailure_eq_ok_iff.mp he
    have hkind : ∀ k : Category,
        (d.storeError operation (d.classifyFailure f)).kind = k.errorClass ↔
          (d.classifyFailure f).category = k := fun k => Category.errorClass_eq_iff
    have hdescribes := d.describes_storeError (c := d.classifyFailure f) operation
      fun code hcode => Failure.value_ne_of_code? hcode
    refine ⟨hdescribes.retryable.trans (hset .retry), (hkind .retryableConflict).trans (hset .retry),
      (hkind .constraintViolation).trans (hset .constraint),
      (hkind .alreadyExists).trans (hset .exists), (hkind .unclassified).trans hnone,
      (d.classifyFailure f).category, ?_⟩
    rw [← hname]
    exact hdescribes

def oneCodeEach : Declaration where
  family := "mysql"
  adapter := .insertIgnore 255
  columnTypes := LogicalType.all.map fun t => (t.value, ⟨"BLOB", .blob⟩)
  constraintCodes := ["23000"]
  retryCodes := ["40001"]
  existsCodes := ["42S01"]

def deadlock : Failure :=
  .database "OperationalError"
    (some (.plain "OperationalError" [.int 1213, .text "Deadlock found"] []))

theorem mapFailure_consistent_deadlock :
    ∃ d e, oneCodeEach.build = .ok d ∧ d.mapFailure (some "store objects") deadlock = .ok e ∧
      e.retryable = true ∧ e.kind = .retryTransaction ∧
      e.payload.lookup "code" = some (.text "40001") := by
  obtain ⟨d, hd⟩ : ∃ d, oneCodeEach.build = .ok d := ⟨_, rfl⟩
  obtain ⟨hmapped, hall⟩ :=
    mapFailure_consistent oneCodeEach d hd (some "store objects") deadlock
  have hcode : deadlock.HasCodeIn oneCodeEach.retryCodes :=
    ⟨.text "40001", rfl, by decide, by decide⟩
  obtain ⟨e, he⟩ := hmapped.mpr (.inl ⟨.retry, hcode⟩)
  obtain ⟨hretry, hkind, -, -, -, category, hdescribes⟩ := hall e he
  exact ⟨d, e, hd, he, hretry.mpr hcode, hkind.mpr hcode, hdescribes.payload_code⟩

end Descriptor

end ObjectCatalog
