import ObjectCatalog.Proofs.Detection.Due

/-! # How an attempt ends for everybody on it

When the probe of a pending attempt ends, its owner completes the attempt, and everybody on it
finishes with that outcome; after a failure the slot is free again. This is so exactly when the
text of the failure can be asked for: without one the failure cannot be delivered, or cannot be
reported, and the owner raises something else than it should.
-/
namespace ObjectCatalog.Detection

/-- The end of a probe can be reported: an ordinary failure has a text. -/
def HasText (found : Except Raised Family) : Prop :=
  match found with
  | .ok _ => True
  | .error r => r.isInterrupt = true ∨ ∃ text, r.failure.text? = .ok text

theorem deliver_of_isInterrupt (mode : Mode) {r : Raised} (h : r.isInterrupt = true) :
    ∃ events, deliver mode r = .ok ⟨r, interrupted mode r, events⟩ := by
  unfold deliver
  rw [if_pos h]
  exact ⟨_, rfl⟩

theorem deliver_of_text (mode : Mode) {r : Raised} {text : String} (h : r.isInterrupt = false)
    (ht : r.failure.text? = .ok text) :
    ∃ error events, deliver mode r = .ok ⟨error, error, events⟩ := by
  unfold deliver asDetectionError
  rw [if_neg (by rw [h]; exact Bool.false_ne_true)]
  by_cases hd : isDetectionError r = true
  · simp only [hd, if_true, ht]
    exact ⟨_, _, rfl⟩
  · simp only [hd, ht]
    exact ⟨_, _, rfl⟩

theorem deliver_of_textless (mode : Mode) {r : Raised} {t : Failure} (h : r.isInterrupt = false)
    (ht : r.failure.text? = .error t) :
    deliver mode r =
      if isDetectionError r then .ok ⟨.ofFailure t, r, []⟩ else .error t := by
  unfold deliver asDetectionError
  rw [if_neg (by rw [h]; exact Bool.false_ne_true)]
  by_cases hd : isDetectionError r = true
  · simp only [hd, if_true, ht]
    rfl
  · simp only [hd, ht]
    rfl

theorem className_interrupted (mode : Mode) (r : Raised) :
    (interrupted mode r).className = "DialectDetectionError" := rfl

/-- A text that is missing is missed with an error of another kind. -/
theorem ne_ofFailure_of_textless {r : Raised} {t : Failure} (ht : r.failure.text? = .error t) :
    r ≠ .ofFailure t := by
  rintro rfl
  unfold Failure.text? at ht
  split at ht
  · rename_i heq
    split at ht
    · cases ht
    · cases ht
      cases heq
  · cases ht

/-- The outcome of an attempt and the answer of its owner, once the owner's probe has ended: the
dialect it has found, or one error for all, unless the owner is interrupted. -/
def Told (found : Except Raised Family) (out : Outcome) (own : Answer) : Prop :=
  match found with
  | .ok f => out = .resolved f ∧ own = .resolved f
  | .error r => ∃ error, out = .failed error ∧
      if r.isInterrupt then own = .raised r ∧ error.className = "DialectDetectionError"
      else own = .raised error

namespace Detector

variable {d : Detector} {a i : Nat} {c : Caller} {found : Except Raised Family} {out : Outcome}
  {own x : Answer}

/-- From now on the attempt has this outcome; its owner gets this answer with its next action, and
everybody else on it gets the outcome, now or later, unless cancelled. -/
structure Delivers (d : Detector) (i a : Nat) (out : Outcome) (own : Answer) : Prop where
  completed : ∀ later, (d.after later).outcome a = out
  owner : ∀ later, .cancel i ∉ later → ((d.after later).act (.advance i)).1.got i = some own
  waiters : ∀ (later : List Action) (j : Nat) (w : Caller), .cancel j ∉ later →
    (d.after later).callers[j]? = some w → w.attempt = a → w.owns = false →
    ∃ x, out.answer? = some x ∧ ((d.after later).act (.advance j)).1.got j = some x

/-- Whenever the owner of the failed attempt is through, the slot is rid of the attempt for good and
keeps a newer one; if the attempt was still there, the next caller starts a probe of its own. -/
structure Recovers (d : Detector) (i a : Nat) : Prop where
  cleared : ∀ later, ((d.after later).act (.advance i)).1.slot =
    if (d.after later).slot = some a then none else (d.after later).slot
  gone : ∀ later more, (((d.after later).act (.advance i)).1.after more).slot ≠ some a
  fresh : ∀ later mode source, (d.after later).slot = some a →
    let e := ((d.after later).act (.advance i)).1
    (e.act (.claim mode source)).1.callers[e.callers.length]? =
      some ⟨mode, source, e.attempts.length, true, .probing (source.probe mode), []⟩

theorem AllDue.delivers (h : d.AllDue a own x []) (hx : (d.outcome a).answer? = some x)
    (hc : d.callers[i]? = some c) (hown : c.owns = true) (hatt : c.attempt = a) :
    d.Delivers i a (d.outcome a) own := by
  have hdone : d.outcome a ≠ .pending := Outcome.ne_pending_of_answer? hx
  refine ⟨fun later => outcome_after hdone later, ?_, ?_⟩
  · intro later hi
    obtain ⟨c', hc', hsame⟩ := sameCall_after hc later
    have hdue := h.after hx later i c' hc' (hsame.attempt.trans hatt) hi
    rw [hsame.owns, hown, if_pos rfl] at hdue
    refine got_of_due hc' ?_
    rw [hsame.attempt, hatt]
    exact hdue
  · intro later j w hj hw hatt' hown'
    have hdue := h.after hx later j w hw hatt' hj
    rw [hown', if_neg Bool.false_ne_true] at hdue
    refine ⟨x, hx, got_of_due hw ?_⟩
    rw [hatt']
    exact hdue

theorem claim_of_slot (hs : d.slot = none) (mode : Mode) (source : Source) :
    (d.act (.claim mode source)).1.callers[d.callers.length]? =
      some ⟨mode, source, d.attempts.length, true, .probing (source.probe mode), []⟩ := by
  simp only [act, claim, hs]
  exact getElem?_join_self

theorem Clearing.recovers (h : d.Clearing i a) : d.Recovers i a := by
  have hslot : ∀ later, ((d.after later).act (.advance i)).1.slot =
      if (d.after later).slot = some a then none else (d.after later).slot := by
    intro later
    rcases h.after later with hc | hc
    · exact hc.slot_advance
    · rw [if_neg hc.gone.slot]
      exact congrArg Detector.slot hc.advance_eq
  refine ⟨hslot, ?_, ?_⟩
  · intro later more
    have hgone : ((d.after later).act (.advance i)).1.Gone a := by
      rcases h.after later with hc | hc
      · exact hc.advance.gone
      · exact (hc.act _).gone
    exact (hgone.after more).slot
  · intro later mode source hs
    have hnone := hslot later
    rw [if_pos hs] at hnone
    exact claim_of_slot hnone mode source

/-- The end of a probe reaches everybody on its attempt, and a failure frees the slot. -/
def Settles (d : Detector) (i a : Nat) (found : Except Raised Family) : Prop :=
  ∃ out own, Told found out own ∧ d.Delivers i a out own ∧
    ∀ r, found = .error r → d.Recovers i a

/-- An owner that completes its attempt leaves nobody on it without what is due. -/
theorem allDue_complete (hd : d.WellFormed) (hc : d.callers[i]? = some c) (hb : c.Busy)
    (ho : d.outcome c.attempt = .pending) (hx : out.answer? = some x) {phase : Phase}
    (hown : ({ c with phase } : Caller).Due out own) :
    ((d.setOutcome c.attempt out).setCaller i { c with phase }).AllDue c.attempt own x [] := by
  have howns : c.owns = true := hd.owns_of_busy hc hb
  have hlt := hd.attempt_lt i c hc
  intro j w hw hatt _
  rw [outcome_setCaller, outcome_setOutcome hlt, if_pos rfl]
  rw [getElem?_complete hc] at hw
  split at hw
  · cases hw
    rw [if_pos howns]
    exact hown
  · rename_i hj
    have hv := hd.valid j w hw
    rw [hatt, ho] at hv
    cases hwo : w.owns with
    | true => exact absurd (hd.owner_unique j i w c hw hc hwo howns hatt) hj
    | false =>
      -- Who waits on a pending attempt is still waiting.
      have hnb : ¬ w.Busy := by
        intro hb
        rw [hv.owns_of_busy hb] at hwo
        cases hwo
      simp only [Bool.false_eq_true, if_false, Caller.Due]
      cases hp : w.phase with
      | probing rest => simp [Caller.Busy, hp] at hnb
      | accessing point next => simp [Caller.Busy, hp] at hnb
      | clearing delivery => simp [Caller.Busy, hp] at hnb
      | awaiting => exact hx
      | answered y => exact absurd rfl (hv.answered hwo y hp)

theorem delivers_complete (hd : d.WellFormed) (hc : d.callers[i]? = some c) (hb : c.Busy)
    (ho : d.outcome c.attempt = .pending) (hx : out.answer? = some x) {phase : Phase}
    (hown : ({ c with phase } : Caller).Due out own) :
    ((d.setOutcome c.attempt out).setCaller i { c with phase }).Delivers i c.attempt out own := by
  have hdue := allDue_complete hd hc hb ho hx hown
  have howns : c.owns = true := hd.owns_of_busy hc hb
  have hout : ((d.setOutcome c.attempt out).setCaller i { c with phase }).outcome c.attempt =
      out := by
    rw [outcome_setCaller, outcome_setOutcome (hd.attempt_lt i c hc), if_pos rfl]
  have hdel := hdue.delivers (hout.symm ▸ hx) (getElem?_complete_self hc) howns rfl
  rw [hout] at hdel
  exact hdel

theorem settles_ok {f : Family} (hd : d.WellFormed) (hc : d.callers[i]? = some c)
    (hp : c.phase = .probing (.done (.ok f))) (ho : d.outcome c.attempt = .pending) :
    (d.act (.advance i)).1.Settles i c.attempt (.ok f) := by
  rw [act_done hc hp, conclude_ok ho]
  refine ⟨.resolved f, .resolved f, ⟨rfl, rfl⟩, ?_, fun r hr => by cases hr⟩
  exact delivers_complete hd hc (Caller.busy_of_probing hp) ho rfl rfl

theorem settles_error {r : Raised} {delivery : Delivery} (hd : d.WellFormed)
    (hc : d.callers[i]? = some c) (hp : c.phase = .probing (.done (.error r)))
    (ho : d.outcome c.attempt = .pending) (hdel : deliver c.mode r = .ok delivery)
    (htold : Told (.error r) (.failed delivery.waiters) (.raised delivery.owner)) :
    (d.act (.advance i)).1.Settles i c.attempt (.error r) := by
  rw [act_done hc hp, conclude_error hdel ho]
  refine ⟨_, _, htold, ?_, ?_⟩
  · exact delivers_complete hd hc (Caller.busy_of_probing hp) ho rfl rfl
  · intro _ _
    refine Clearing.recovers ⟨?_, _, delivery, getElem?_complete_self hc, rfl, rfl⟩
    rw [attempts_setCaller, length_setOutcome]
    exact hd.attempt_lt i c hc

/-- A failure without a text reaches nobody, or its owner raises that there is no text. -/
theorem not_settles_of_textless {r : Raised} {t : Failure} (hd : d.WellFormed)
    (hc : d.callers[i]? = some c) (hp : c.phase = .probing (.done (.error r)))
    (ho : d.outcome c.attempt = .pending) (hr : r.isInterrupt = false)
    (ht : r.failure.text? = .error t) :
    ¬ (d.act (.advance i)).1.Settles i c.attempt (.error r) := by
  have hlt := hd.attempt_lt i c hc
  rintro ⟨out, own, ⟨error, rfl, htold⟩, hdel, -⟩
  rw [hr, if_neg Bool.false_ne_true] at htold
  have hout := hdel.completed []
  have hdeliver := deliver_of_textless c.mode hr ht
  by_cases hdet : isDetectionError r = true
  · rw [if_pos hdet] at hdeliver
    rw [act_done hc hp, conclude_error hdeliver ho] at hout hdel
    rw [after_nil, outcome_setCaller, outcome_setOutcome hlt, if_pos rfl] at hout
    cases hout
    -- The others get the failure itself, the owner another one.
    have hi : ((d.setOutcome c.attempt (.failed r)).setCaller i
        { c with phase := .clearing ⟨.ofFailure t, r, []⟩ }).callers[i]? = some _ :=
      getElem?_complete_self hc
    have hgot := hdel.owner [] List.not_mem_nil
    have hdue := got_of_due (x := .raised (.ofFailure t)) hi rfl
    rw [htold] at hgot
    have hsame := Option.some.inj (hgot.symm.trans hdue)
    exact ne_ofFailure_of_textless ht (Answer.raised.inj hsame)
  · rw [if_neg hdet] at hdeliver
    rw [act_done hc hp, conclude_undeliverable hdeliver, after_nil, outcome_setCaller, ho] at hout
    cases hout

/-- In every detector that a run reaches: when the probe of a pending attempt has ended, its owner
completes the attempt once and for all, everybody on it finishes with that outcome, and a failure
frees the slot, exactly if the end of the probe has a text or needs none. -/
theorem settles_iff_hasText (run : List Action) {i : Nat} {c : Caller}
    {found : Except Raised Family} (hc : (empty.after run).callers[i]? = some c)
    (hp : c.phase = .probing (.done found))
    (ho : (empty.after run).outcome c.attempt = .pending) :
    ((empty.after run).act (.advance i)).1.Settles i c.attempt found ↔ HasText found := by
  have hd := wellFormed_after run
  cases found with
  | ok f => exact ⟨fun _ => trivial, fun _ => settles_ok hd hc hp ho⟩
  | error r =>
    cases hr : r.isInterrupt with
    | true =>
      refine ⟨fun _ => .inl hr, fun _ => ?_⟩
      obtain ⟨events, hdel⟩ := deliver_of_isInterrupt c.mode hr
      refine settles_error hd hc hp ho hdel ⟨_, rfl, ?_⟩
      rw [hr, if_pos rfl]
      exact ⟨rfl, className_interrupted c.mode r⟩
    | false =>
      cases ht : r.failure.text? with
      | ok text =>
        refine ⟨fun _ => .inr ⟨text, ht⟩, fun _ => ?_⟩
        obtain ⟨error, events, hdel⟩ := deliver_of_text c.mode hr ht
        refine settles_error hd hc hp ho hdel ⟨_, rfl, ?_⟩
        rw [hr, if_neg Bool.false_ne_true]
      | error t =>
        refine ⟨fun h => absurd h (not_settles_of_textless hd hc hp ho hr ht), ?_⟩
        rintro (h | ⟨text, h⟩)
        · rw [hr] at h
          cases h
        · rw [ht] at h
          cases h

def failingProbe (r : Raised) : List Action :=
  [.claim .blocking (.raising r), .claim .coroutine (.reporting "sqlite"), .advance 0, .advance 0]

theorem settles_failed_statement :
    ∃ c : Caller, (empty.after (failingProbe (.ofFailure .statement))).callers[0]? = some c ∧
      c.phase = .probing (.done (.error (.ofFailure .statement))) ∧
      (empty.after (failingProbe (.ofFailure .statement))).outcome c.attempt = .pending ∧
      ((empty.after (failingProbe (.ofFailure .statement))).act (.advance 0)).1.Settles 0 c.attempt
        (.error (.ofFailure .statement)) :=
  ⟨_, rfl, rfl, rfl, (settles_iff_hasText _ rfl rfl rfl).mpr (.inr ⟨_, rfl⟩)⟩

def textless : Raised := .ofFailure (.fault (.ofClass "StoreError" [.int 5] []))

/-- A source raises an error without a text, and the owner raises that there is none. The attempt
stays pending and keeps the slot, and who waits on it is left waiting. -/
theorem textless_failure_not_settled :
    (∃ c : Caller, (empty.after (failingProbe textless)).callers[0]? = some c ∧
      c.phase = .probing (.done (.error textless)) ∧
      (empty.after (failingProbe textless)).outcome c.attempt = .pending ∧
      ¬ ((empty.after (failingProbe textless)).act (.advance 0)).1.Settles 0 c.attempt
        (.error textless)) ∧
    (empty.after (failingProbe textless ++ [.advance 0, .advance 1])).got 0 = some (.raised
      (.ofFailure (.plain "TypeError" "__str__ returned non-string (type int)"))) ∧
    (empty.after (failingProbe textless ++ [.advance 0, .advance 1])).slot = some 0 ∧
    (empty.after (failingProbe textless ++ [.advance 0, .advance 1])).outcome 0 = .pending ∧
    ∃ w : Caller,
      (empty.after (failingProbe textless ++ [.advance 0, .advance 1])).callers[1]? = some w ∧
        w.attempt = 0 ∧ w.phase = .awaiting := by
  have hd := wellFormed_after (failingProbe textless)
  refine ⟨⟨_, rfl, rfl, rfl, ?_⟩, rfl, rfl, rfl, ⟨_, rfl, rfl, rfl⟩⟩
  exact not_settles_of_textless hd rfl rfl rfl rfl rfl

end Detector

end ObjectCatalog.Detection
