import ObjectCatalog.Proofs.Detection.Agree
import ObjectCatalog.Proofs.Detection.Due
import ObjectCatalog.Proofs.Detection.Reaching

/-! # Cancelling a caller that only waits

Such a cancellation calls the attempt off if it is pending, so everybody else on the attempt, the
slot and those that come later learn of it. It stays without consequences for others only when the
attempt is completed, or when nobody but the caller would ever learn how it ends.
-/
namespace ObjectCatalog.Detection.Detector

variable {A : Nat → Prop} {d e : Detector} {a i w : Nat} {c : Caller} {x : Action}

/-- A caller in a task only waits on this attempt, which somebody else owns. -/
def Waits (d : Detector) (w a : Nat) : Prop :=
  ∃ c : Caller, d.callers[w]? = some c ∧ c.mode = .coroutine ∧ c.owns = false ∧ c.attempt = a ∧
    c.phase = .awaiting

/-- Whatever happens next, the cancellation of this caller makes no difference to the others: they
get the same, and the slot and the dialect in it are the same. -/
def Isolated (d : Detector) (w : Nat) : Prop :=
  ∀ later : List Action,
    ((d.cancel w).after later).slot = (d.after later).slot ∧
    ((d.cancel w).after later).resolved = (d.after later).resolved ∧
    ∀ i, i ≠ w → ((d.cancel w).after later).got i = (d.after later).got i

/-- Nobody but this caller will learn how the attempt ends: it is not in the slot, nobody else
waits on it, and however its owner's probe still ends, that cannot be delivered. -/
def Unheard (d : Detector) (w a : Nat) : Prop :=
  d.slot ≠ some a ∧ ∀ (j : Nat) (c : Caller), j ≠ w → d.callers[j]? = some c → c.attempt = a →
    c.phase ≠ .awaiting ∧ ∀ found, c.CanEnd found → ¬ Deliverable c.mode found

/-- What this caller still does completes no attempt in `A` and does not empty the slot. -/
def Quiet (A : Nat → Prop) (w : Nat) (d : Detector) : Prop :=
  ∃ c : Caller, d.callers[w]? = some c ∧ ¬ c.Busy ∧ (A c.attempt → d.outcome c.attempt ≠ .pending)

theorem Quiet.act (h : d.Quiet A w) (x : Action) : (d.act x).1.Quiet A w := by
  obtain ⟨c, hc, hb, hA⟩ := h
  rcases d.act_cases x with rfl | hx | hm
  · exact ⟨c, hc, hb, hA⟩
  · rw [hx]
    exact ⟨c, hc, hb, hA⟩
  · have hkeep : A c.attempt → (d.act x).1.outcome c.attempt ≠ .pending := by
      intro ha
      rw [hm.outcome (hA ha)]
      exact hA ha
    rcases hm.caller hc with hc' | ⟨-, c', hc', hg⟩
    · exact ⟨c, hc', hb, hkeep⟩
    · refine ⟨c', hc', fun hb' => hb (hg.busy hb'), ?_⟩
      rw [hg.sameCall.attempt]
      exact hkeep

theorem Quiet.advance (h : d.Quiet A w) (he : Agree A (· ≠ w) d e) :
    Agree A (· ≠ w) (d.advance w).1 e := by
  obtain ⟨c, hc, hb, hA⟩ := h
  refine he.advance_left (fun hn => hn rfl) ?_ ?_
  · intro c' hc' ha
    obtain rfl : c = c' := Option.some.inj (hc.symm.trans hc')
    exact hA ha
  · intro c' hc' hb'
    obtain rfl : c = c' := Option.some.inj (hc.symm.trans hc')
    exact absurd hb' hb

theorem Quiet.cancel (h : d.Quiet A w) (he : Agree A (· ≠ w) d e) :
    Agree A (· ≠ w) (d.cancel w) e := by
  obtain ⟨c, hc, hb, hA⟩ := h
  refine he.cancel_left (fun hn => hn rfl) ?_
  intro c' hc' ha
  obtain rfl : c = c' := Option.some.inj (hc.symm.trans hc')
  exact hA ha

/-- Two detectors that agree on all callers but a quiet one do what comes next alike, if the others
look at no outcome outside `A`. -/
theorem Agree.act (h : Agree A (· ≠ w) d e) (hd : d.Quiet A w) (he : e.Quiet A w)
    (hA : ∀ (j : Nat) (c : Caller), j ≠ w → d.callers[j]? = some c → A c.attempt ∨ c.Heedless)
    (x : Action) : Agree A (· ≠ w) (d.act x).1 (e.act x).1 := by
  cases x with
  | claim mode source => exact h.claim mode source
  | reset => exact h.clearSlot
  | advance k =>
    by_cases hk : k = w
    · subst hk
      exact hd.advance (he.advance h.symm).symm
    · exact h.advance hk fun c hc => hA k c hk hc
  | cancel k =>
    by_cases hk : k = w
    · subst hk
      exact hd.cancel (he.cancel h.symm).symm
    · exact h.cancel hk fun c hc => hA k c hk hc

theorem Agree.after (h : Agree A (· ≠ w) d e) (hd : d.Quiet A w) (he : e.Quiet A w)
    (later : List Action)
    (hA : ∀ (xs : List Action) (j : Nat) (c : Caller), j ≠ w → (d.after xs).callers[j]? = some c →
      A c.attempt ∨ c.Heedless) : Agree A (· ≠ w) (d.after later) (e.after later) := by
  induction later generalizing d e with
  | nil => exact h
  | cons x xs ih =>
    exact ih (h.act hd he (hA []) x) (hd.act x) (he.act x) fun ys => hA (x :: ys)

theorem Agree.got (h : Agree A (· ≠ w) d e) (hi : i ≠ w) : d.got i = e.got i := by
  unfold Detector.got
  rw [h.caller i hi]

theorem Unheard.move (h : d.Unheard w a) (hg : d.Gone a) (hm : d.Move x e) : e.Unheard w a := by
  refine ⟨(hg.move hm).slot, ?_⟩
  intro j c' hj hc' hatt
  rcases hm.caller_back hc' with ⟨c, hc, rfl | hgo⟩ | ⟨-, -, ⟨-, -, hs⟩ | ⟨-, hnew⟩⟩
  · exact h.2 j c' hj hc hatt
  · have hatt' : c.attempt = a := hgo.sameCall.attempt.symm.trans hatt
    obtain ⟨hnw, hend⟩ := h.2 j c hj hc hatt'
    cases hgo with
    | work hw =>
      constructor
      · intro hp
        have := hw.inProgress_right
        simp [Caller.InProgress, hp] at this
      · intro found hf
        rw [hw.sameCall.mode]
        exact hend found (hw.canEnd hf)
    | publish f hp ho =>
      exact absurd trivial (hend (.ok f) (Caller.canEnd_of_done hp))
    | fail r delivery hp hd ho =>
      exact absurd ⟨delivery, hd⟩ (hend (.error r) (Caller.canEnd_of_done hp))
    | raise found r hp hf => exact ⟨(fun hn => by cases hn), fun _ hf => hf.elim⟩
    | clear delivery hp => exact ⟨(fun hn => by cases hn), fun _ hf => hf.elim⟩
    | take answer hp ho => exact absurd hp hnw
    | leave hp hx => exact absurd hp hnw
  · exact absurd (hatt ▸ hs) h.1
  · have := hg.lt
    omega

theorem Unheard.after (h : d.Unheard w a) (hg : d.Gone a) (xs : List Action) :
    (d.after xs).Unheard w a := by
  have hall := after_induction (P := fun e => e.Gone a ∧ e.Unheard w a) ⟨hg, h⟩ xs
    (fun _ _ _ _ he hm => ⟨he.1.move hm, he.2.move he.1 hm⟩)
    fun _ _ he => ⟨he.1.after [.reset], fun hs => (by cases hs), he.2.2⟩
  exact hall.2

theorem Unheard.heedless (h : d.Unheard w a) {j : Nat} (hj : j ≠ w)
    (hc : d.callers[j]? = some c) (hatt : c.attempt = a) : c.Heedless := by
  obtain ⟨hnw, hend⟩ := h.2 j c hj hc hatt
  cases hp : c.phase with
  | probing rest =>
    cases rest with
    | done found =>
      simp only [Caller.Heedless, hp]
      exact hend found (Caller.canEnd_of_done hp)
    | report event rest => simp [Caller.Heedless, hp]
    | access point next => simp [Caller.Heedless, hp]
  | awaiting => exact absurd hp hnw
  | accessing point next => simp [Caller.Heedless, hp]
  | clearing delivery => simp [Caller.Heedless, hp]
  | answered y => simp [Caller.Heedless, hp]

theorem got_conclude_of_done {found : Except Raised Family} (hc : d.callers[i]? = some c)
    (hdel : Deliverable c.mode found) (ho : d.outcome c.attempt ≠ .pending) :
    (d.conclude i c found).1.got i = some (.raised alreadyDone) := by
  rw [conclude_of_ne_pending hdel ho, got_of_caller (getElem?_setCaller_self hc)]
  rfl

theorem got_conclude_of_pending {found : Except Raised Family} (hc : d.callers[i]? = some c)
    (hdel : Deliverable c.mode found) (ho : d.outcome c.attempt = .pending) :
    (d.conclude i c found).1.got i = none := by
  cases found with
  | ok f =>
    rw [conclude_ok ho, got_of_caller (getElem?_complete_self hc)]
    rfl
  | error r =>
    obtain ⟨delivery, hdel⟩ := hdel
    rw [conclude_error hdel ho, got_of_caller (getElem?_complete_self hc)]
    rfl

theorem Waits.quiet (h : d.Waits w a) (hA : A a → d.outcome a ≠ .pending) : d.Quiet A w := by
  obtain ⟨c, hc, -, -, rfl, hp⟩ := h
  exact ⟨c, hc, by simp [Caller.Busy, hp], hA⟩

/-- The cancellation of a quiet caller is isolated if the others look at no outcome outside `A`, and
the slot holds no such attempt. -/
theorem Quiet.isolated (h : d.Quiet A w)
    (hA : ∀ (xs : List Action) (j : Nat) (c : Caller), j ≠ w → (d.after xs).callers[j]? = some c →
      A c.attempt ∨ c.Heedless)
    (hs : ∀ (xs : List Action) (b : Nat), (d.after xs).slot = some b → A b) : d.Isolated w := by
  intro later
  have hstart : Agree A (· ≠ w) d (d.cancel w) := (h.cancel (.refl d)).symm
  have hend := hstart.after h (h.act (.cancel w)) later hA
  exact ⟨hend.slot.symm, (hend.resolved (hs later)).symm, fun i hi => (hend.got hi).symm⟩

theorem Waits.isolated_of_done (h : d.Waits w a) (ho : d.outcome a ≠ .pending) : d.Isolated w :=
  (h.quiet (A := fun _ => True) fun _ => ho).isolated (fun _ _ _ _ _ => .inl trivial)
    fun _ _ _ => trivial

theorem Waits.isolated_of_unheard (h : d.Waits w a) (hd : d.WellFormed) (hu : d.Unheard w a) :
    d.Isolated w := by
  have hg : d.Gone a := by
    obtain ⟨c, hc, -, -, rfl, -⟩ := h
    exact ⟨hd.attempt_lt w c hc, hu.1⟩
  refine (h.quiet (A := (· ≠ a)) fun ha => absurd rfl ha).isolated ?_ ?_
  · intro xs j c hj hc
    by_cases hatt : c.attempt = a
    · exact .inr ((hu.after hg xs).heedless hj hc hatt)
    · exact .inl hatt
  · rintro xs b hs rfl
    exact (hu.after hg xs).1 hs

/-- Calling off a pending attempt changes nothing but its outcome and the caller's own record. -/
theorem Waits.calledOff (h : d.Waits w a) (hd : d.WellFormed) (ho : d.outcome a = .pending) :
    (d.cancel w).slot = d.slot ∧ (d.cancel w).outcome a = .calledOff ∧
      ∀ j, j ≠ w → (d.cancel w).callers[j]? = d.callers[j]? := by
  obtain ⟨c, hc, hm, -, rfl, hp⟩ := h
  have heq : d.cancel w = (d.setOutcome c.attempt .calledOff).setCaller w
      { c with phase := .answered (.raised cancelledError) } := by
    simp only [cancel, hc, hm, hp, complete?_eq_some_iff.mpr ⟨ho, rfl⟩, Option.getD_some]
  rw [heq]
  refine ⟨rfl, ?_, ?_⟩
  · rw [outcome_setCaller, outcome_setOutcome (hd.attempt_lt w c hc), if_pos rfl]
  · intro j hj
    rw [getElem?_complete hc, if_neg hj]

/-- A caller that waits gets an answer only where the attempt is over. -/
theorem got_ne_of_awaiting (hd : d.callers[i]? = some c) (he : e.callers[i]? = some c)
    (hp : c.phase = .awaiting) (ho : d.outcome c.attempt = .pending)
    (hoe : e.outcome c.attempt = .calledOff) :
    (e.after [.advance i]).got i ≠ (d.after [.advance i]).got i := by
  have hgets : (e.after [.advance i]).got i = some (.raised cancelledError) :=
    got_of_due he (by simp only [Caller.Due, hp, hoe, Outcome.answer?])
  have hwait : d.after [.advance i] = d := by
    simp only [after_cons, after_nil, act, advance, hd, hp, ho, Outcome.answer?]
  rw [hgets, hwait, got_of_caller hd, Caller.got, hp]
  intro hn
  cases hn

/-- An owner whose probe ends is raised that it comes too late only where the attempt is over. -/
theorem got_ne_of_canEnd {found : Except Raised Family} (hd : d.callers[i]? = some c)
    (he : e.callers[i]? = some c) (hf : c.CanEnd found) (hdel : Deliverable c.mode found)
    (ho : d.outcome c.attempt = .pending) (hoe : e.outcome c.attempt ≠ .pending) :
    ∃ xs, (e.after xs).got i ≠ (d.after xs).got i := by
  obtain ⟨trace, xs, hxs⟩ := reaches_of_canEnd i hf
  let ended : Caller := { c with phase := .probing (.done found), trace }
  refine ⟨xs ++ [.advance i], ?_⟩
  have hdc : (d.setCaller i ended).callers[i]? = some ended := getElem?_setCaller_self hd
  have hec : (e.setCaller i ended).callers[i]? = some ended := getElem?_setCaller_self he
  rw [after_concat, after_concat, hxs e he, hxs d hd, act_done hec rfl, act_done hdc rfl,
    got_conclude_of_done hec hdel hoe, got_conclude_of_pending hdc hdel ho]
  intro hn
  cases hn

/-- Calling off a pending attempt is noticed by whoever could learn how it ends. -/
theorem Waits.unheard_of_isolated (h : d.Waits w a) (hd : d.WellFormed)
    (ho : d.outcome a = .pending) (hi : d.Isolated w) : d.Unheard w a := by
  obtain ⟨hslot, hout, hothers⟩ := h.calledOff hd ho
  constructor
  · intro hs
    have hres := (hi []).2.1
    simp [after_nil, resolved, hslot, hs, hout, ho] at hres
  · rintro j c hj hc rfl
    have hcj : (d.cancel w).callers[j]? = some c := (hothers j hj).trans hc
    constructor
    · intro hp
      exact got_ne_of_awaiting hc hcj hp ho hout ((hi _).2.2 j hj)
    · intro found hf hdel
      have hdone : (d.cancel w).outcome c.attempt ≠ .pending := by
        rw [hout]
        intro hn
        cases hn
      obtain ⟨xs, hxs⟩ := got_ne_of_canEnd hc hcj hf hdel ho hdone
      exact hxs ((hi xs).2.2 j hj)

/-- In every detector that a run reaches, the cancellation of a caller that only waits makes no
difference to anybody else exactly if the attempt is completed already, or if nobody else will
learn how it ends. -/
theorem isolated_iff (run : List Action) {w a : Nat} (h : (empty.after run).Waits w a) :
    (empty.after run).Isolated w ↔
      (empty.after run).outcome a ≠ .pending ∨ (empty.after run).Unheard w a := by
  have hd := wellFormed_after run
  constructor
  · intro hi
    by_cases ho : (empty.after run).outcome a = .pending
    · exact .inr (h.unheard_of_isolated hd ho hi)
    · exact .inl ho
  · rintro (ho | hu)
    · exact h.isolated_of_done ho
    · exact h.isolated_of_unheard hd hu

/-- An owner in a task has begun its first access, and another caller waits on it. -/
def heldUp : List Action :=
  [.claim .coroutine (.reporting "sqlite"), .claim .coroutine (.reporting "mysql"), .advance 0]

def publishing : List Action := [.advance 0, .advance 0, .advance 0, .advance 0, .advance 0]

theorem isolated_after_publishing :
    (empty.after (heldUp ++ publishing)).Waits 1 0 ∧
      (empty.after (heldUp ++ publishing)).Isolated 1 := by
  have hw : (empty.after (heldUp ++ publishing)).Waits 1 0 := ⟨_, rfl, rfl, rfl, rfl, rfl⟩
  have ho : (empty.after (heldUp ++ publishing)).outcome 0 = .resolved .sqlite := rfl
  refine ⟨hw, (isolated_iff _ hw).mpr (.inl ?_)⟩
  rw [ho]
  intro hn
  cases hn

def publishingToOther : List Action :=
  publishing ++ [.advance 0, .claim .blocking (.reporting "sqlite"), .advance 2]

/-- The cancellation of a waiter while the probe goes on takes the answer from the owner and from
those that come later, and leaves the slot with an attempt that was called off. -/
theorem cancelled_waiter_not_isolated :
    (empty.after heldUp).Waits 1 0 ∧ ¬ (empty.after heldUp).Isolated 1 ∧
      ((empty.after heldUp).after publishingToOther).got 0 = some (.resolved .sqlite) ∧
      ((empty.after heldUp).after publishingToOther).got 2 = some (.resolved .sqlite) ∧
      ((empty.after heldUp).after publishingToOther).resolved = .ok (some .sqlite) ∧
      (((empty.after heldUp).cancel 1).after publishingToOther).got 0 =
        some (.raised alreadyDone) ∧
      (((empty.after heldUp).cancel 1).after publishingToOther).got 2 =
        some (.raised cancelledError) ∧
      (((empty.after heldUp).cancel 1).after publishingToOther).resolved =
        .error cancelledError := by
  have hkept : ((empty.after heldUp).after publishingToOther).got 0 = some (.resolved .sqlite) :=
    rfl
  have hlost : (((empty.after heldUp).cancel 1).after publishingToOther).got 0 =
      some (.raised alreadyDone) := rfl
  refine ⟨⟨_, rfl, rfl, rfl, rfl, rfl⟩, ?_, hkept, rfl, rfl, hlost, rfl, rfl⟩
  intro h
  have hsame := (h publishingToOther).2.2 0 (by decide)
  rw [hkept, hlost] at hsame
  cases hsame

end ObjectCatalog.Detection.Detector
