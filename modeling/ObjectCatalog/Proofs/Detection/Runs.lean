import ObjectCatalog.Proofs.Detection.WellFormed

/-! # Steps are runs of actions

A step lets all callers go on as far as they can. It is one particular run of actions, so whatever
holds after every run of actions holds after every run of steps.
-/
namespace ObjectCatalog.Detection.Detector

theorem drive_eq_after (d : Detector) (i : Nat) :
    ∃ xs, (d.drive i).1 = d.after xs ∧ .reset ∉ xs := by
  unfold drive
  cases d.callers[i]? with
  | none => exact ⟨[], rfl, List.not_mem_nil⟩
  | some c =>
    refine ⟨List.replicate c.actions (.advance i), rfl, ?_⟩
    intro h
    cases List.eq_of_mem_replicate h

theorem settle_eq_after (d : Detector) : ∃ xs, d.settle.1 = d.after xs ∧ .reset ∉ xs := by
  unfold settle
  generalize List.range d.callers.length = numbers
  generalize ([] : List Event) = events
  induction numbers generalizing d events with
  | nil => exact ⟨[], rfl, List.not_mem_nil⟩
  | cons i numbers ih =>
    obtain ⟨xs, hxs, hx⟩ := d.drive_eq_after i
    obtain ⟨ys, hys, hy⟩ := ih (d.drive i).1 (events ++ (d.drive i).2)
    refine ⟨xs ++ ys, ?_, ?_⟩
    · rw [List.foldl_cons, after_append, ← hxs]
      exact hys
    · rw [List.mem_append]
      rintro (h | h)
      · exact hx h
      · exact hy h

theorem step_eq_after (d : Detector) (s : Step) :
    ∃ xs, (d.step s).1 = d.after xs ∧ (.reset ∈ xs → s = .reset) := by
  obtain ⟨xs, hxs, hx⟩ := (d.act s.action).1.settle_eq_after
  refine ⟨s.action :: xs, hxs, ?_⟩
  intro h
  rcases List.mem_cons.mp h with h | h
  · cases s <;> first | rfl | cases h
  · exact absurd h hx

/-- A run of steps is a run of actions, with resets only where the steps have them. -/
theorem run_eq_after (d : Detector) (steps : List Step) :
    ∃ xs, d.run steps = d.after xs ∧ (.reset ∈ xs → .reset ∈ steps) := by
  induction steps generalizing d with
  | nil => exact ⟨[], rfl, fun h => absurd h List.not_mem_nil⟩
  | cons s steps ih =>
    obtain ⟨xs, hxs, hx⟩ := d.step_eq_after s
    obtain ⟨ys, hys, hy⟩ := ih (d.step s).1
    refine ⟨xs ++ ys, ?_, ?_⟩
    · rw [after_append, ← hxs]
      exact hys
    · rw [List.mem_append]
      rintro (h | h)
      · rw [hx h]
        exact List.mem_cons_self
      · exact List.mem_cons_of_mem s (hy h)

theorem wellFormed_run (steps : List Step) : (empty.run steps).WellFormed := by
  obtain ⟨xs, hxs, -⟩ := empty.run_eq_after steps
  rw [hxs]
  exact wellFormed_after xs

end ObjectCatalog.Detection.Detector
