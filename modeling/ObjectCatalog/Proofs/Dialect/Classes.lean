import ObjectCatalog.Dialect.Descriptor

/-! # What a code means to a descriptor

Each of the three code sets of a descriptor stands for one category. Codes are looked up in a fixed
order, but as no code is in two sets, the order makes no difference: a code has the category of the
set that it is in.
-/
namespace ObjectCatalog

def CodeSet.category : CodeSet → Category
  | .constraint => .constraintViolation
  | .retry => .retryableConflict
  | .exists => .alreadyExists

theorem CodeSet.eq_of_category {s t : CodeSet} (h : s.category = t.category) : s = t := by
  cases s <;> cases t <;> first | rfl | cases h

theorem CodeSet.category_ne_unclassified (s : CodeSet) : s.category ≠ .unclassified := by
  cases s <;> decide

theorem CodeSet.exists_category {c : Category} (h : c ≠ .unclassified) :
    ∃ s : CodeSet, c = s.category := by
  cases c with
  | constraintViolation => exact ⟨.constraint, rfl⟩
  | retryableConflict => exact ⟨.retry, rfl⟩
  | alreadyExists => exact ⟨.exists, rfl⟩
  | unclassified => exact absurd rfl h

namespace Descriptor

variable {d : Descriptor} {s : CodeSet} {code : String}

theorem hasCode_iff : d.hasCode s code = true ↔ code ∈ d.codes s := List.contains_iff_mem

theorem hasCode_eq_false_iff : d.hasCode s code = false ↔ code ∉ d.codes s := by
  rw [← Bool.not_eq_true, hasCode_iff]

theorem classify_of_mem (hne : code ≠ "") (h : code ∈ d.codes s) :
    d.classify (some code) = s.category := by
  have own : d.hasCode s code = true := hasCode_iff.mpr h
  have other : ∀ t, s ≠ t → d.hasCode t code = false := fun t ht =>
    hasCode_eq_false_iff.mpr (d.disjoint s t ht code h)
  unfold classify
  simp only [beq_iff_eq, hne, if_false]
  cases s with
  | constraint => simp only [own, if_true, CodeSet.category]
  | retry =>
    simp only [other .constraint (by decide), own, Bool.false_eq_true, if_false, if_true,
      CodeSet.category]
  | «exists» =>
    simp only [other .constraint (by decide), other .retry (by decide), own, Bool.false_eq_true,
      if_false, if_true, CodeSet.category]

theorem classify_of_notMem (h : ∀ s, code ∉ d.codes s) :
    d.classify (some code) = .unclassified := by
  have none : ∀ s, d.hasCode s code = false := fun s => hasCode_eq_false_iff.mpr (h s)
  unfold classify
  simp only [none, Bool.false_eq_true, if_false, ite_self]

/-- A code that is not empty has the category of a set exactly if it is in the set. -/
theorem classify_eq_category_iff (hne : code ≠ "") :
    d.classify (some code) = s.category ↔ code ∈ d.codes s := by
  refine ⟨fun h => ?_, classify_of_mem hne⟩
  by_cases hex : ∃ t, code ∈ d.codes t
  · obtain ⟨t, ht⟩ := hex
    rw [classify_of_mem hne ht] at h
    exact CodeSet.eq_of_category h ▸ ht
  · rw [classify_of_notMem fun t ht => hex ⟨t, ht⟩] at h
    exact absurd h.symm s.category_ne_unclassified

theorem classify_eq_unclassified_iff (hne : code ≠ "") :
    d.classify (some code) = .unclassified ↔ ∀ s, code ∉ d.codes s := by
  refine ⟨fun h s hs => ?_, classify_of_notMem⟩
  rw [classify_of_mem hne hs] at h
  exact s.category_ne_unclassified h

end Descriptor

namespace Declaration

variable {decl : Declaration}

theorem value_of_family? {family : Family} (h : decl.family? = .ok family) :
    family.value = decl.family := by
  unfold family? at h
  cases hv : Family.ofValue? decl.family with
  | none =>
    rw [hv] at h
    cases h
  | some found =>
    rw [hv] at h
    cases h
    exact eq_of_beq (List.find?_some (p := fun f : Family => f.value == decl.family) hv)

/-- A descriptor has the parts of the declaration that it was built from. -/
theorem exists_of_build {d : Descriptor} (h : decl.build = .ok d) :
    ∃ family types, decl.family? = .ok family ∧ resolveTypes decl.columnTypes = .ok types ∧
      d.family = family ∧ d.adapter = decl.adapter ∧ d.codes = decl.codes ∧
      ∀ kind, types.lookup kind = some (d.columnType kind) := by
  unfold build at h
  cases hf : decl.family? with
  | error e =>
    rw [hf] at h
    cases h
  | ok family =>
    rw [hf] at h
    cases ht : resolveTypes decl.columnTypes with
    | error e =>
      rw [ht] at h
      cases h
    | ok types =>
      rw [ht] at h
      simp only [bind, Except.bind] at h
      split at h
      · split at h
        · cases h
        · cases h
          exact ⟨family, types, rfl, rfl, rfl, rfl, rfl, fun kind => (Option.some_get _).symm⟩
      · cases h

theorem of_build {d : Descriptor} (h : decl.build = .ok d) :
    d.codes = decl.codes ∧ d.name = decl.family := by
  obtain ⟨family, types, hfamily, -, rfl, -, hcodes, -⟩ := exists_of_build h
  exact ⟨hcodes, value_of_family? hfamily⟩

end Declaration

end ObjectCatalog
