import ObjectCatalog.Proofs.Detection.Hygiene
import ObjectCatalog.Proofs.Detection.WellFormed

/-! # An attempt follows the probe of its owner

An owner that nobody cancels makes the accesses of a whole visit of its source, whatever other
callers do meanwhile. Its attempt ends as that visit does, unless somebody who waits on it has
called it off.
-/
namespace ObjectCatalog.Detection

def Caller.whole (c : Caller) : Visit Family := (c.source.probe c.mode).visit c.source.ends

/-- The outcome of an attempt whose probe has ended; a failure may be impossible to deliver. -/
def Concluded (mode : Mode) (found : Except Raised Family) (o : Outcome) : Prop :=
  match found with
  | .ok f => o = .resolved f
  | .error r =>
    match deliver mode r with
    | .ok delivery => o = .failed delivery.waiters
    | .error _ => o = .pending

theorem concluded_resolved_iff {mode : Mode} {found : Except Raised Family} {o : Outcome}
    (h : Concluded mode found o) (f : Family) : o = .resolved f ↔ found = .ok f := by
  cases found with
  | ok g =>
    obtain rfl : o = .resolved g := h
    constructor
    · intro hf
      cases hf
      rfl
    · intro hf
      cases hf
      rfl
  | error r =>
    refine iff_of_false ?_ (fun hf => by cases hf)
    rintro rfl
    unfold Concluded at h
    cases hd : deliver mode r with
    | ok delivery => simp [hd] at h
    | error t => simp [hd] at h

namespace Caller

variable {c c' : Caller} {o : Outcome}

/-- With this much of its probe ahead, the owner makes a whole visit. -/
structure Ahead (c : Caller) (rest : Plan Family) : Prop where
  trace : c.trace ++ (rest.visit c.source.ends).trace = c.whole.trace
  outcome : (rest.visit c.source.ends).outcome = c.whole.outcome

/-- The owner is in the middle of a whole visit, or has made one and concluded it. -/
def OnCourse (o : Outcome) (c : Caller) : Prop :=
  match c.phase with
  | .probing rest => c.Ahead rest ∧ (o = .pending ∨ o = .calledOff)
  | .accessing point next =>
    c.Ahead (next (c.source.ends point)) ∧ (o = .pending ∨ o = .calledOff)
  | _ => c.trace = c.whole.trace ∧ (o = .calledOff ∨ Concluded c.mode c.whole.outcome o)

theorem OnCourse.calledOff (h : c.OnCourse o) : c.OnCourse .calledOff := by
  unfold OnCourse at h ⊢
  cases hp : c.phase <;> simp only [hp] at h ⊢ <;> simp [h.1]

theorem OnCourse.ended (h : c.OnCourse o) (hp : ¬ c.InProgress) :
    c.trace = c.whole.trace ∧ (o = .calledOff ∨ Concluded c.mode c.whole.outcome o) := by
  unfold OnCourse at h
  cases hphase : c.phase with
  | probing rest => simp [InProgress, hphase] at hp
  | accessing point next => simp [InProgress, hphase] at hp
  | _ => simpa only [hphase] using h

/-- An owner whose visit is made stays on course in every phase that follows. -/
theorem onCourse_of_ended {phase : Phase} (ht : c.trace = c.whole.trace)
    (ho : o = .calledOff ∨ Concluded c.mode c.whole.outcome o)
    (hp : ¬ ({ c with phase } : Caller).InProgress) : ({ c with phase } : Caller).OnCourse o := by
  cases phase with
  | probing rest => exact absurd trivial hp
  | accessing point next => exact absurd trivial hp
  | _ => exact ⟨ht, ho⟩

end Caller

namespace Detector

variable {d e : Detector} {i : Nat} {c : Caller} {x : Action}

theorem onCourse_conclude {found : Except Raised Family} (hd : d.WellFormed)
    (hc : d.callers[i]? = some c) (hp : c.phase = .probing (.done found))
    (h : c.OnCourse (d.outcome c.attempt)) :
    ∃ c', (d.conclude i c found).1.callers[i]? = some c' ∧
      c'.OnCourse ((d.conclude i c found).1.outcome c'.attempt) := by
  have hlt : c.attempt < d.attempts.length := hd.attempt_lt i c hc
  simp only [Caller.OnCourse, hp] at h
  obtain ⟨⟨htrace, hout⟩, ho⟩ := h
  have ht : c.trace = c.whole.trace := by simpa [Plan.visit] using htrace
  have hfound : c.whole.outcome = found := hout.symm
  by_cases hdel : Deliverable c.mode found
  · by_cases hpend : d.outcome c.attempt = .pending
    · cases found with
      | ok f =>
        rw [conclude_ok hpend]
        refine ⟨_, getElem?_complete_self hc, Caller.onCourse_of_ended ht (.inr ?_) id⟩
        rw [hfound, outcome_setCaller, outcome_setOutcome hlt, if_pos rfl]
        rfl
      | error r =>
        obtain ⟨delivery, hr⟩ := hdel
        rw [conclude_error hr hpend]
        refine ⟨_, getElem?_complete_self hc, Caller.onCourse_of_ended ht (.inr ?_) id⟩
        rw [hfound, outcome_setCaller, outcome_setOutcome hlt, if_pos rfl]
        simp only [Concluded, hr]
    · rw [conclude_of_ne_pending hdel hpend]
      exact ⟨_, getElem?_setCaller_self hc,
        Caller.onCourse_of_ended ht (.inl (ho.resolve_left hpend)) id⟩
  · -- The owner raises that its failure cannot be delivered, and the attempt stays as it is.
    obtain ⟨r, t, rfl, hr⟩ := exists_of_not_deliverable hdel
    rw [conclude_undeliverable hr]
    refine ⟨_, getElem?_setCaller_self hc, Caller.onCourse_of_ended ht ?_ id⟩
    rw [hfound, outcome_setCaller]
    rcases ho with ho | ho
    · right
      simp only [Concluded, hr]
      exact ho
    · exact .inl ho

theorem onCourse_advance (hd : d.WellFormed) (hc : d.callers[i]? = some c)
    (h : c.OnCourse (d.outcome c.attempt)) :
    ∃ c', (d.advance i).1.callers[i]? = some c' ∧
      c'.OnCourse ((d.advance i).1.outcome c'.attempt) := by
  unfold advance
  simp only [hc]
  have hcourse := h
  unfold Caller.OnCourse at h
  cases hp : c.phase with
  | probing rest =>
    simp only [hp] at h
    cases rest with
    | done found => exact onCourse_conclude hd hc hp hcourse
    | report event rest => exact ⟨_, getElem?_setCaller_self hc, ⟨h.1.trace, h.1.outcome⟩, h.2⟩
    | access point next =>
      refine ⟨_, getElem?_setCaller_self hc, ⟨?_, h.1.outcome⟩, h.2⟩
      -- The access is in the trace as soon as it is begun.
      exact (List.append_assoc ..).trans h.1.trace
  | accessing point next =>
    simp only [hp] at h
    exact ⟨_, getElem?_setCaller_self hc, ⟨h.1.trace, h.1.outcome⟩, h.2⟩
  | clearing delivery =>
    simp only [hp] at h
    refine ⟨_, getElem?_setCaller_self (callers_vacate ▸ hc), Caller.onCourse_of_ended h.1 ?_ id⟩
    rw [outcome_setCaller, outcome_vacate]
    exact h.2
  | awaiting =>
    simp only [hp] at h
    cases (d.outcome c.attempt).answer? with
    | some answer =>
      exact ⟨_, getElem?_setCaller_self hc, Caller.onCourse_of_ended h.1 h.2 id⟩
    | none => exact ⟨c, hc, hcourse⟩
  | answered answer => exact ⟨c, hc, hcourse⟩

/-- What others do to the attempt of an owner: nothing, or they call it off. -/
theorem Move.outcome_of_owner (hm : d.Move x e) (hd : d.WellFormed) (hc : d.callers[i]? = some c)
    (howns : c.owns = true) (hx : x ≠ .advance i) :
    e.outcome c.attempt = d.outcome c.attempt ∨ e.outcome c.attempt = .calledOff := by
  have hlt : c.attempt < d.attempts.length := hd.attempt_lt i c hc
  -- Only the owner completes an attempt with what its probe has found.
  have other : ∀ {k : Nat} {f : Caller} {rest : Plan Family} {o : Outcome},
      x = .advance k → d.callers[k]? = some f → f.phase = .probing rest →
      (d.setOutcome f.attempt o).outcome c.attempt = d.outcome c.attempt := by
    intro k f rest o hk hf hp
    refine outcome_setOutcome_of_ne fun hatt => hx ?_
    have hown : f.owns = true := hd.owns_of_busy hf (Caller.busy_of_probing hp)
    rw [hk, hd.owner_unique i k c f hc hf howns hown hatt]
  cases hm with
  | start mode source hs => exact .inl (outcome_append_pending _ _ _)
  | publish k f g hf hp ho => exact .inl (other rfl hf hp)
  | fail k f r delivery hf hp hdel ho => exact .inl (other rfl hf hp)
  | callOff k f hf hp ho =>
    by_cases hatt : c.attempt = f.attempt
    · right
      rw [outcome_setCaller, ← hatt, outcome_setOutcome hlt, if_pos rfl]
    · left
      rw [outcome_setCaller]
      exact outcome_setOutcome_of_ne hatt
  | clear k f delivery hf hp => exact .inl outcome_vacate
  | _ => exact .inl rfl

def OnCourse (i : Nat) (d : Detector) : Prop :=
  ∀ c : Caller, d.callers[i]? = some c → c.owns = true → c.OnCourse (d.outcome c.attempt)

theorem OnCourse.claim (h : d.OnCourse i) (mode : Mode) (source : Source) :
    (d.claim mode source).OnCourse i := by
  intro c hc howns
  unfold Detector.claim at hc ⊢
  cases hs : d.slot with
  | some a =>
    simp only [hs, getElem?_join] at hc ⊢
    split at hc
    · cases hc
      cases howns
    · exact h c hc howns
  | none =>
    simp only [hs, getElem?_join] at hc ⊢
    rw [outcome_join, outcome_append_pending]
    split at hc
    · cases hc
      exact ⟨⟨rfl, rfl⟩, .inl (outcome_eq_pending (Nat.le_refl _))⟩
    · exact h c hc howns

theorem Move.length_callers (hm : d.Move x e) {j : Nat} (hx : x = .advance j ∨ x = .cancel j) :
    e.callers.length = d.callers.length := by
  cases hm with
  | start mode source hs => rcases hx with hx | hx <;> cases hx
  | wait mode source a hs => rcases hx with hx | hx <;> cases hx
  | clear k f delivery hf hp => rw [length_setCaller, callers_vacate]
  | _ => exact length_setCaller

theorem OnCourse.move (h : d.OnCourse i) (hd : d.WellFormed) (hm : d.Move x e) {j : Nat}
    (hx : x = .advance j ∨ x = .cancel j) (hadv : x ≠ .advance i) (hcan : x ≠ .cancel i) :
    e.OnCourse i := by
  intro c' hc' howns
  have hlt : i < d.callers.length := hm.length_callers hx ▸ (List.getElem?_eq_some_iff.mp hc').1
  have hc : d.callers[i]? = some d.callers[i] := List.getElem?_eq_getElem hlt
  rcases hm.caller hc with hsame | ⟨hi, -⟩
  · obtain rfl : c' = d.callers[i] := Option.some.inj (hc'.symm.trans hsame)
    have hcourse := h _ hc howns
    rcases hm.outcome_of_owner hd hc howns hadv with ho | ho
    · rw [ho]
      exact hcourse
    · rw [ho]
      exact hcourse.calledOff
  · exact absurd hi (not_or.mpr ⟨hadv, hcan⟩)

theorem OnCourse.act (h : d.OnCourse i) (hd : d.WellFormed) (hx : x ≠ .cancel i) :
    (d.act x).1.OnCourse i := by
  cases x with
  | claim mode source => exact h.claim mode source
  | reset => exact h
  | advance j =>
    by_cases hj : j = i
    · -- An access of its own ends as its source ends it, which a move alone does not tell.
      subst hj
      intro c' hc' howns
      cases hc : d.callers[j]? with
      | none =>
        have hsame : (d.advance j).1 = d := by
          unfold advance
          rw [hc]
        simp only [Detector.act, hsame, hc] at hc'
        cases hc'
      | some c =>
        obtain ⟨f, hf, hsame⟩ := sameCall_after hc [.advance j]
        obtain rfl : c' = f := Option.some.inj (hc'.symm.trans hf)
        have hcourse := h c hc (hsame.owns.symm.trans howns)
        obtain ⟨g, hg, hgcourse⟩ := onCourse_advance hd hc hcourse
        obtain rfl : c' = g := Option.some.inj (hc'.symm.trans hg)
        exact hgcourse
    · rcases d.advance_cases j with hsame | hm
      · simp only [Detector.act, hsame]
        exact h
      · exact h.move hd hm (.inl rfl) (fun heq => hj (Action.advance.inj heq))
          (fun heq => by cases heq)
  | cancel j =>
    rcases d.cancel_cases j with hsame | hm
    · simp only [Detector.act, hsame]
      exact h
    · exact h.move hd hm (.inr rfl) (fun heq => by cases heq) hx

/-- An owner that a run does not cancel stays on course throughout. -/
theorem OnCourse.after (h : d.OnCourse i) (hd : d.WellFormed) {xs : List Action}
    (hx : .cancel i ∉ xs) : (d.after xs).OnCourse i := by
  induction xs generalizing d with
  | nil => exact h
  | cons x xs ih =>
    have hfirst : x ≠ .cancel i := fun heq => hx (heq ▸ List.mem_cons_self)
    have hrest : .cancel i ∉ xs := fun hmem => hx (List.mem_cons_of_mem x hmem)
    exact ih (h.act hd hfirst) (hd.after [x]) hrest

theorem onCourse_empty (i : Nat) : empty.OnCourse i := by
  intro c hc
  simp [empty] at hc

theorem outcome_setOutcome_or (d : Detector) (a b : Nat) (o : Outcome) :
    (d.setOutcome a o).outcome b = o ∨ (d.setOutcome a o).outcome b = d.outcome b := by
  by_cases ha : a < d.attempts.length
  · rw [outcome_setOutcome ha]
    by_cases hb : b = a
    · exact .inl (if_pos hb)
    · exact .inr (if_neg hb)
  · have hset : d.attempts.set a o = d.attempts := List.set_eq_of_length_le (Nat.le_of_not_lt ha)
    simp only [outcome, setOutcome, hset, or_true]

theorem Move.calledOff {a : Nat} (hm : d.Move x e) (h : e.outcome a = .calledOff) :
    d.outcome a = .calledOff ∨ ∃ j, x = .cancel j := by
  have other : ∀ {b : Nat} {o : Outcome}, (d.setOutcome b o).outcome a = .calledOff →
      o ≠ .calledOff → d.outcome a = .calledOff := by
    intro b o hb ho
    rcases d.outcome_setOutcome_or b a o with hset | hset
    · exact absurd (hset.symm.trans hb) ho
    · exact hset.symm.trans hb
  cases hm with
  | start mode source hs => exact .inl ((outcome_append_pending _ _ _).symm.trans h)
  | publish k f g hf hp ho => exact .inl (other h fun hn => by cases hn)
  | fail k f r delivery hf hp hd ho => exact .inl (other h fun hn => by cases hn)
  | callOff k f hf hp ho => exact .inr ⟨k, rfl⟩
  | clear k f delivery hf hp => exact .inl (outcome_vacate.symm.trans h)
  | _ => exact .inl h

/-- An attempt is called off only by cancelling somebody. -/
theorem exists_cancel_of_calledOff {run : List Action} {a : Nat}
    (h : (empty.after run).outcome a = .calledOff) : ∃ j, .cancel j ∈ run := by
  refine after_induction (P := fun d => d.outcome a = .calledOff → ∃ j, Action.cancel j ∈ run)
    ?_ run ?_ (fun _ _ hd => hd) h
  · intro ha
    cases ha.symm.trans (outcome_eq_pending (Nat.zero_le _))
  · intro x hx d e hd hm ha
    rcases hm.calledOff ha with hold | ⟨j, rfl⟩
    · exact hd hold
    · exact ⟨j, hx⟩

theorem whole_outcome (c : Caller) :
    c.whole.outcome = c.source.found c.mode c.whole.trace :=
  c.source.endsWith_probe c.mode

/-- An owner whose probe has ended, and which nobody has cancelled, leaves its source in order. If
no waiter has called the attempt off, it has succeeded exactly if every access went through and the
product is supported, and otherwise has failed with what the last failed access raised. -/
theorem ended_probe_hygienic (run : List Action) {i : Nat} {c : Caller}
    (hc : (empty.after run).callers[i]? = some c) (howns : c.owns = true)
    (hended : ¬ c.InProgress) (hrun : .cancel i ∉ run) :
    c.source.Hygienic c.trace ∧
      ((∃ j, .cancel j ∈ run ∧ (empty.after run).outcome c.attempt = .calledOff) ∨
        (∀ f, (empty.after run).outcome c.attempt = .resolved f ↔
            (∀ point ∈ c.trace, c.source.fails point = none) ∧ c.source.family? = some f) ∧
          Concluded c.mode (c.source.found c.mode c.trace)
            ((empty.after run).outcome c.attempt)) := by
  have hcourse := (onCourse_empty i).after wellFormed_empty hrun c hc howns
  obtain ⟨htrace, hout⟩ := hcourse.ended hended
  refine ⟨?_, ?_⟩
  · rw [htrace]
    exact c.source.hygienic_probe c.mode
  · rcases hout with hoff | hconcluded
    · obtain ⟨j, hj⟩ := exists_cancel_of_calledOff hoff
      exact .inl ⟨j, hj, hoff⟩
    · rw [whole_outcome, ← htrace] at hconcluded
      refine .inr ⟨fun f => ?_, hconcluded⟩
      rw [concluded_resolved_iff hconcluded, Source.found_eq_ok_iff]

def troubled : Source where
  engine := true
  product := .text "PostgreSQL"
  cockroach := true
  inTransaction := false
  gated := false
  fails
    | .hasSchema => some (.ofFailure .statement)
    | .rollback => some (.ofFailure (.interrupt "KeyboardInterrupt"))
    | .close => some (.ofFailure (.plain "OSError" "closed already"))
    | _ => none

def troubledRun : List Action :=
  .claim .coroutine troubled :: .claim .blocking (.reporting "sqlite") ::
    List.replicate 18 (.advance 0)

theorem cancel_notMem_troubledRun (i : Nat) : .cancel i ∉ troubledRun := by
  intro h
  simp [troubledRun] at h

theorem ended_probe_hygienic_troubled :
    ∃ c : Caller, (empty.after troubledRun).callers[0]? = some c ∧ c.owns = true ∧
      ¬ c.InProgress ∧ .cancel 0 ∉ troubledRun ∧ c.source.Hygienic c.trace ∧
      c.trace = [.connect, .runSync, .dialect, .inTransaction, .inspect, .hasSchema, .rollback,
        .close] ∧
      Concluded .coroutine (.error (.ofFailure (.plain "OSError" "closed already")))
        ((empty.after troubledRun).outcome c.attempt) := by
  obtain ⟨c, hc, howns, hended, hsource, hmode, htrace⟩ :
      ∃ c : Caller, (empty.after troubledRun).callers[0]? = some c ∧ c.owns = true ∧
        ¬ c.InProgress ∧ c.source = troubled ∧ c.mode = .coroutine ∧
        c.trace = [.connect, .runSync, .dialect, .inTransaction, .inspect, .hasSchema, .rollback,
          .close] := ⟨_, rfl, rfl, id, rfl, rfl, rfl⟩
  have hrun := cancel_notMem_troubledRun
  obtain ⟨hclean, hend⟩ := ended_probe_hygienic troubledRun hc howns hended (hrun 0)
  refine ⟨c, hc, howns, hended, hrun 0, hclean, htrace, ?_⟩
  rcases hend with ⟨j, hj, -⟩ | ⟨-, hconcluded⟩
  · exact absurd hj (hrun j)
  · -- Closing was the last access, and it failed.
    rw [hsource, hmode, htrace] at hconcluded
    exact hconcluded

end Detector

end ObjectCatalog.Detection
