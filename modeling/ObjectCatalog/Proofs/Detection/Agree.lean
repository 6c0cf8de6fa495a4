import ObjectCatalog.Proofs.Detection.Moves

/-! # Detectors that agree on some callers and attempts

`Agree A C d e`: the detectors have the same slot, attempts in `A` with the same outcomes, and
callers in `C` that are equally far. What a caller in `C` does keeps the agreement, as long as it
looks at no outcome but those in `A`. What the others do is not noticed, as long as they complete
no attempt in `A` and leave the slot alone.
-/
namespace ObjectCatalog.Detection

/-- Whatever comes next for this caller does not depend on the outcome of its attempt. -/
def Caller.Heedless (c : Caller) : Prop :=
  match c.phase with
  | .awaiting => False
  | .probing (.done found) => ¬ Deliverable c.mode found
  | _ => True

namespace Detector

variable {A C : Nat → Prop} {d e : Detector} {a i : Nat} {c c' : Caller} {o : Outcome}

structure Agree (A C : Nat → Prop) (d e : Detector) : Prop where
  slot : d.slot = e.slot
  attempts : d.attempts.length = e.attempts.length
  callers : d.callers.length = e.callers.length
  outcome : ∀ a, A a → d.outcome a = e.outcome a
  caller : ∀ i, C i → d.callers[i]? = e.callers[i]?

namespace Agree

theorem refl (d : Detector) : Agree A C d d :=
  ⟨rfl, rfl, rfl, fun _ _ => rfl, fun _ _ => rfl⟩

theorem symm (h : Agree A C d e) : Agree A C e d :=
  ⟨h.slot.symm, h.attempts.symm, h.callers.symm, fun a ha => (h.outcome a ha).symm,
    fun i hi => (h.caller i hi).symm⟩

theorem trans {f : Detector} (h : Agree A C d e) (h' : Agree A C e f) : Agree A C d f :=
  ⟨h.slot.trans h'.slot, h.attempts.trans h'.attempts, h.callers.trans h'.callers,
    fun a ha => (h.outcome a ha).trans (h'.outcome a ha),
    fun i hi => (h.caller i hi).trans (h'.caller i hi)⟩

theorem setCaller (h : Agree A C d e) (i : Nat) (c : Caller) :
    Agree A C (d.setCaller i c) (e.setCaller i c) := by
  refine ⟨h.slot, h.attempts, ?_, h.outcome, ?_⟩
  · rw [length_setCaller, length_setCaller]
    exact h.callers
  · intro j hj
    simp only [Detector.setCaller, List.getElem?_set, h.callers, h.caller j hj]

theorem setOutcome (h : Agree A C d e) (a : Nat) (o : Outcome) :
    Agree A C (d.setOutcome a o) (e.setOutcome a o) := by
  refine ⟨h.slot, ?_, h.callers, ?_, h.caller⟩
  · rw [length_setOutcome, length_setOutcome]
    exact h.attempts
  · intro b hb
    by_cases hab : b = a
    · subst b
      by_cases ha : a < d.attempts.length
      · rw [outcome_setOutcome ha, outcome_setOutcome (h.attempts ▸ ha), if_pos rfl, if_pos rfl]
      · rw [outcome_eq_pending (by rw [length_setOutcome]; omega),
          outcome_eq_pending (by rw [length_setOutcome, ← h.attempts]; omega)]
    · rw [outcome_setOutcome_of_ne hab, outcome_setOutcome_of_ne hab]
      exact h.outcome b hb

theorem join (h : Agree A C d e) (c : Caller) : Agree A C (d.join c) (e.join c) := by
  refine ⟨h.slot, h.attempts, ?_, h.outcome, ?_⟩
  · simp only [Detector.join, List.length_append, h.callers]
  · intro j hj
    rw [getElem?_join, getElem?_join, h.callers, h.caller j hj]

theorem vacate (h : Agree A C d e) (a : Nat) : Agree A C (d.vacate a) (e.vacate a) := by
  refine ⟨?_, ?_, ?_, ?_, ?_⟩
  · rw [slot_vacate, slot_vacate, h.slot]
  · rw [attempts_vacate, attempts_vacate]
    exact h.attempts
  · rw [callers_vacate, callers_vacate]
    exact h.callers
  · intro b hb
    rw [outcome_vacate, outcome_vacate]
    exact h.outcome b hb
  · intro j hj
    rw [callers_vacate, callers_vacate]
    exact h.caller j hj

theorem clearSlot (h : Agree A C d e) :
    Agree A C { d with slot := none } { e with slot := none } :=
  ⟨rfl, h.attempts, h.callers, h.outcome, h.caller⟩

theorem claim (h : Agree A C d e) (mode : Mode) (source : Source) :
    Agree A C (d.claim mode source) (e.claim mode source) := by
  unfold Detector.claim
  rw [← h.slot]
  cases d.slot with
  | some a => exact h.join _
  | none =>
    simp only [← h.attempts]
    have hclaimed : Agree A C
        { d with attempts := d.attempts ++ [.pending], slot := some d.attempts.length }
        { e with attempts := e.attempts ++ [.pending], slot := some d.attempts.length } := by
      refine ⟨rfl, ?_, h.callers, ?_, h.caller⟩
      · simp only [List.length_append, h.attempts]
      · intro b hb
        rw [outcome_append_pending, outcome_append_pending]
        exact h.outcome b hb
    exact hclaimed.join _

theorem conclude (h : Agree A C d e) (i : Nat) {found : Except Raised Family}
    (hA : A c.attempt ∨ ¬ Deliverable c.mode found) :
    Agree A C (d.conclude i c found).1 (e.conclude i c found).1 := by
  by_cases hd : Deliverable c.mode found
  · have hout := h.outcome c.attempt (hA.resolve_right (not_not_intro hd))
    by_cases ho : d.outcome c.attempt = .pending
    · cases found with
      | ok f =>
        rw [conclude_ok ho, conclude_ok (hout ▸ ho)]
        exact (h.setOutcome _ _).setCaller i _
      | error r =>
        obtain ⟨delivery, hd⟩ := hd
        rw [conclude_error hd ho, conclude_error hd (hout ▸ ho)]
        exact (h.setOutcome _ _).setCaller i _
    · rw [conclude_of_ne_pending hd ho, conclude_of_ne_pending hd (hout ▸ ho)]
      exact h.setCaller i _
  · obtain ⟨r, t, rfl, ht⟩ := exists_of_not_deliverable hd
    rw [conclude_undeliverable ht, conclude_undeliverable ht]
    exact h.setCaller i _

theorem advance (h : Agree A C d e) (hi : C i)
    (hA : ∀ c : Caller, d.callers[i]? = some c → A c.attempt ∨ c.Heedless) :
    Agree A C (d.advance i).1 (e.advance i).1 := by
  unfold Detector.advance
  rw [← h.caller i hi]
  cases hc : d.callers[i]? with
  | none => exact h
  | some c =>
    have hcase := hA c hc
    cases hp : c.phase with
    | probing rest =>
      cases rest with
      | done found =>
        simp only [hp]
        refine h.conclude i (hcase.imp_right fun hh => ?_)
        simpa only [Caller.Heedless, hp] using hh
      | report event rest =>
        simp only [hp]
        exact h.setCaller i _
      | access point next =>
        simp only [hp]
        exact h.setCaller i _
    | accessing point next =>
      simp only [hp]
      exact h.setCaller i _
    | clearing delivery =>
      simp only [hp]
      exact (h.vacate _).setCaller i _
    | awaiting =>
      have ha : A c.attempt := hcase.resolve_right fun hh => by simp [Caller.Heedless, hp] at hh
      simp only [hp, ← h.outcome _ ha]
      cases (d.outcome c.attempt).answer? with
      | some answer => exact h.setCaller i _
      | none => exact h
    | answered answer =>
      simp only [hp]
      exact h

theorem cancel (h : Agree A C d e) (hi : C i)
    (hA : ∀ c : Caller, d.callers[i]? = some c → A c.attempt ∨ c.Heedless) :
    Agree A C (d.cancel i) (e.cancel i) := by
  unfold Detector.cancel
  rw [← h.caller i hi]
  cases hc : d.callers[i]? with
  | none => exact h
  | some c =>
    have hcase := hA c hc
    rcases c with ⟨mode, source, a, owns, phase, trace⟩
    cases mode with
    | blocking => exact h
    | coroutine =>
      cases phase with
      | accessing point next => exact h.setCaller i _
      | awaiting =>
        have ha : A a := hcase.resolve_right id
        have hout := h.outcome a ha
        dsimp only
        by_cases ho : d.outcome a = .pending
        · rw [complete?_eq_some_iff.mpr ⟨ho, rfl⟩, complete?_eq_some_iff.mpr ⟨hout ▸ ho, rfl⟩]
          exact (h.setOutcome _ _).setCaller i _
        · rw [complete?_eq_none_iff.mpr ho, complete?_eq_none_iff.mpr (hout ▸ ho)]
          exact h.setCaller i _
      | probing rest => exact h
      | clearing delivery => exact h
      | answered answer => exact h

/-- What a caller outside `C` does is not noticed. -/
theorem setCaller_left (h : Agree A C d e) (hi : ¬ C i) (c : Caller) :
    Agree A C (d.setCaller i c) e := by
  refine ⟨h.slot, h.attempts, ?_, h.outcome, ?_⟩
  · rw [length_setCaller]
    exact h.callers
  · intro j hj
    have hne : i ≠ j := by
      rintro rfl
      exact hi hj
    simp only [Detector.setCaller, List.getElem?_set_ne hne]
    exact h.caller j hj

theorem setOutcome_left (h : Agree A C d e) (ha : ¬ A a) (o : Outcome) :
    Agree A C (d.setOutcome a o) e := by
  refine ⟨h.slot, ?_, h.callers, ?_, h.caller⟩
  · rw [length_setOutcome]
    exact h.attempts
  · intro b hb
    have hne : b ≠ a := by
      rintro rfl
      exact ha hb
    rw [outcome_setOutcome_of_ne hne]
    exact h.outcome b hb

theorem conclude_left (h : Agree A C d e) (hi : ¬ C i) (found : Except Raised Family)
    (hA : A c.attempt → d.outcome c.attempt ≠ .pending) :
    Agree A C (d.conclude i c found).1 e := by
  by_cases hd : Deliverable c.mode found
  · by_cases ho : d.outcome c.attempt = .pending
    · have ha : ¬ A c.attempt := fun ha => hA ha ho
      cases found with
      | ok f =>
        rw [conclude_ok ho]
        exact (h.setOutcome_left ha _).setCaller_left hi _
      | error r =>
        obtain ⟨delivery, hd⟩ := hd
        rw [conclude_error hd ho]
        exact (h.setOutcome_left ha _).setCaller_left hi _
    · rw [conclude_of_ne_pending hd ho]
      exact h.setCaller_left hi _
  · obtain ⟨r, t, rfl, ht⟩ := exists_of_not_deliverable hd
    rw [conclude_undeliverable ht]
    exact h.setCaller_left hi _

theorem advance_left (h : Agree A C d e) (hi : ¬ C i)
    (hA : ∀ c : Caller, d.callers[i]? = some c → A c.attempt → d.outcome c.attempt ≠ .pending)
    (hs : ∀ c : Caller, d.callers[i]? = some c → c.Busy → d.slot ≠ some c.attempt) :
    Agree A C (d.advance i).1 e := by
  unfold Detector.advance
  cases hc : d.callers[i]? with
  | none => exact h
  | some c =>
    cases hp : c.phase with
    | probing rest =>
      cases rest with
      | done found =>
        simp only [hp]
        exact h.conclude_left hi found (hA c hc)
      | report event rest =>
        simp only [hp]
        exact h.setCaller_left hi _
      | access point next =>
        simp only [hp]
        exact h.setCaller_left hi _
    | accessing point next =>
      simp only [hp]
      exact h.setCaller_left hi _
    | clearing delivery =>
      have hne : d.slot ≠ some c.attempt := hs c hc (Caller.busy_of_clearing hp)
      simp only [hp, Detector.vacate, if_neg hne]
      exact h.setCaller_left hi _
    | awaiting =>
      simp only [hp]
      cases (d.outcome c.attempt).answer? with
      | some answer => exact h.setCaller_left hi _
      | none => exact h
    | answered answer =>
      simp only [hp]
      exact h

theorem cancel_left (h : Agree A C d e) (hi : ¬ C i)
    (hA : ∀ c : Caller, d.callers[i]? = some c → A c.attempt → d.outcome c.attempt ≠ .pending) :
    Agree A C (d.cancel i) e := by
  unfold Detector.cancel
  cases hc : d.callers[i]? with
  | none => exact h
  | some c =>
    have hpend := hA c hc
    rcases c with ⟨mode, source, a, owns, phase, trace⟩
    cases mode with
    | blocking => exact h
    | coroutine =>
      cases phase with
      | accessing point next => exact h.setCaller_left hi _
      | awaiting =>
        dsimp only
        by_cases ho : d.outcome a = .pending
        · rw [complete?_eq_some_iff.mpr ⟨ho, rfl⟩]
          exact (h.setOutcome_left (fun ha => hpend ha ho) _).setCaller_left hi _
        · rw [complete?_eq_none_iff.mpr ho]
          exact h.setCaller_left hi _
      | probing rest => exact h
      | clearing delivery => exact h
      | answered answer => exact h

theorem resolved (h : Agree A C d e) (hs : ∀ a, d.slot = some a → A a) :
    d.resolved = e.resolved := by
  unfold Detector.resolved
  rw [← h.slot]
  cases hd : d.slot with
  | none => rfl
  | some a => simp only [Option.map_some, h.outcome a (hs a hd)]

end Agree

end Detector

end ObjectCatalog.Detection
