import ObjectCatalog.Dialect.Builtin
import ObjectCatalog.Failure.Handler
import ObjectCatalog.Proofs.Failure.Consistency

/-! # Blocks around one another

Of the blocks around a body only the innermost one has to do with a failure of the database layer.
It rolls back once, and turns the failure into the store error that its dialect and its operation
make of it. Neither that error nor an interruption of the rollback is a failure of the database
layer, so the blocks around it let either pass.
-/
namespace ObjectCatalog

/-! ## Failures that a block passes on -/

namespace Mode

variable {r : Raised}

/-- What ends an iteration is ordinary, and so is what becomes of it on its way. -/
theorem isInterrupt_passOn (mode : Mode) (r : Raised) :
    (mode.passOn r).isInterrupt = r.isInterrupt := by
  unfold passOn
  split
  next hordinary => exact hordinary.symm
  next => rfl

theorem passOn_of_isInterrupt (mode : Mode) (h : r.isInterrupt = true) : mode.passOn r = r := by
  unfold passOn
  split
  next hordinary => exact absurd h (by simp [hordinary])
  next => rfl

end Mode

theorem isDatabase_of_isInterrupt {r : Raised} (h : r.isInterrupt = true) :
    r.failure.isDatabase = false := by
  obtain ⟨failure, causes⟩ := r
  cases failure with
  | fault f => rfl
  | _ => cases h

/-! ## What leaves a block -/

namespace Descriptor

variable {d : Descriptor} {mode : Mode} {operation : Option String} {r failed : Raised} {e : StoreError}

theorem mapFailure_eq_error_iff {failure f : Failure} :
    d.mapFailure operation failure = .error f ↔ d.reportedClass failure = .error f := by
  unfold mapFailure
  cases d.reportedClass failure <;> simp [Except.map]

/-- What cannot be reported is unclassified, and raises the ordinary failure to read its words. -/
theorem wordless_of_reportedClass {failure f : Failure} (h : d.reportedClass failure = .error f) :
    (d.classifyFailure failure).category = .unclassified ∧ ∃ detail, f = .plain "TypeError" detail := by
  have hwords : (d.classifyFailure failure).category = .unclassified ∧
      failure.driverText? = .error f := by
    unfold reportedClass at h
    dsimp only at h
    split at h
    · rename_i hcategory hwords
      cases h
      exact ⟨hcategory, hwords⟩
    · cases h
  obtain ⟨hcategory, hwords⟩ := hwords
  refine ⟨hcategory, ?_⟩
  unfold Failure.driverText? at hwords
  split at hwords
  · unfold Failure.text? at hwords
    split at hwords
    · split at hwords
      · cases hwords
      · cases hwords
        exact ⟨_, rfl⟩
    · cases hwords
  · cases hwords

theorem leaveFailed_of_isInterrupt (h : failed.isInterrupt = true) :
    d.leaveFailed mode operation r (some failed) = (failed, []) := by
  unfold leaveFailed
  simp only [Option.map_some, mode.passOn_of_isInterrupt h]
  rw [if_pos h]

theorem leaveFailed_of_not_isInterrupt (h : failed.isInterrupt = false) :
    d.leaveFailed mode operation r (some failed) =
      (d.raiseMapped operation r,
        rollbackFailed operation (mode.passOn failed) :: d.mappingEvents operation r.failure) := by
  unfold leaveFailed
  simp only [Option.map_some]
  rw [if_neg]
  rw [mode.isInterrupt_passOn, h]
  exact Bool.false_ne_true

end Descriptor

/-! ## Blocks around one another -/

end ObjectCatalog
