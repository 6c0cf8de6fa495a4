import ObjectCatalog.Proofs.Detection.Moves

/-! # Well-formed detectors

Every attempt has one owner, and what a caller is doing fits the outcome of its attempt: only
owners touch their sources, an owner about to clear the slot has delivered its failure, a caller
that has got a dialect got the one its attempt has, and an attempt has the dialect that the
probe of its owner selects. All detectors that runs reach are well-formed.
-/
namespace ObjectCatalog.Detection

structure Caller.Valid (o : Outcome) (c : Caller) : Prop where
  untouched : c.owns = false → c.trace = []
  owns_of_busy : c.Busy → c.owns = true
  selects : ∀ f, c.CanEnd (.ok f) → c.source.Selects c.mode f
  published : c.owns = true → ∀ f, o = .resolved f → c.source.Selects c.mode f
  clearing : ∀ delivery, c.phase = .clearing delivery → o = .failed delivery.waiters
  resolved : ∀ f, c.phase = .answered (.resolved f) → o = .resolved f
  answered : c.owns = false → ∀ x, c.phase = .answered x → o ≠ .pending

namespace Caller.Valid

variable {o : Outcome} {c c' : Caller}

/-- Completing an attempt suits every caller on it that waited for that or works on its probe. -/
theorem settle (h : c.Valid .pending) (ho : o ≠ .pending)
    (hs : c.owns = true → ∀ f, o = .resolved f → c.source.Selects c.mode f) : c.Valid o where
  untouched := h.untouched
  owns_of_busy := h.owns_of_busy
  selects := h.selects
  published := hs
  clearing delivery hp := by cases h.clearing delivery hp
  resolved f hp := by cases h.resolved f hp
  answered _ _ _ := ho

theorem works (h : c.Valid o) (hw : c.Works c') : c'.Valid o := by
  have hsame := hw.sameCall
  have howns : c'.owns = true := hsame.owns.trans (h.owns_of_busy hw.inProgress.busy)
  have hphase := hw.inProgress_right
  refine ⟨?_, fun _ => howns, ?_, ?_, ?_, ?_, ?_⟩
  · intro hn
    rw [howns] at hn
    cases hn
  · intro f hf
    rw [hsame.source, hsame.mode]
    exact h.selects f (hw.canEnd hf)
  · intro _ f hf
    rw [hsame.source, hsame.mode]
    exact h.published (hsame.owns.symm.trans howns) f hf
  · intro delivery hp
    simp [InProgress, hp] at hphase
  · intro f hp
    simp [InProgress, hp] at hphase
  · intro hn
    rw [howns] at hn
    cases hn

/-- A caller that goes on without its probe keeps what it knows about its attempt. -/
theorem move (h : c.Valid o) (phase : Phase)
    (hb : ({ c with phase } : Caller).Busy → c.owns = true)
    (he : ∀ f, ¬ ({ c with phase } : Caller).CanEnd (.ok f))
    (hc : ∀ delivery, phase = .clearing delivery → o = .failed delivery.waiters)
    (hr : ∀ f, phase = .answered (.resolved f) → o = .resolved f)
    (ha : c.owns = false → ∀ x, phase = .answered x → o ≠ .pending) :
    ({ c with phase } : Caller).Valid o where
  untouched := h.untouched
  owns_of_busy := hb
  selects f hf := absurd hf (he f)
  published := h.published
  clearing := hc
  resolved := hr
  answered := ha

theorem raise (h : c.Valid o) (r : Raised) (ha : c.owns = false → o ≠ .pending) :
    ({ c with phase := .answered (.raised r) } : Caller).Valid o :=
  h.move _ (fun hb => hb.elim) (fun _ hf => hf) (fun _ hp => by cases hp)
    (fun _ hp => by cases hp) fun hn _ _ => ha hn

theorem raise_of_owns (h : c.Valid o) (r : Raised) (howns : c.owns = true) :
    ({ c with phase := .answered (.raised r) } : Caller).Valid o := by
  refine h.raise r fun hn => ?_
  rw [howns] at hn
  cases hn

end Caller.Valid

namespace Detector

structure WellFormed (d : Detector) : Prop where
  slot_lt : ∀ a, d.slot = some a → a < d.attempts.length
  attempt_lt : ∀ (i : Nat) (c : Caller), d.callers[i]? = some c → c.attempt < d.attempts.length
  owner : ∀ a, a < d.attempts.length →
    ∃ (i : Nat) (c : Caller), d.callers[i]? = some c ∧ c.owns = true ∧ c.attempt = a
  owner_unique : ∀ (i j : Nat) (c c' : Caller), d.callers[i]? = some c → d.callers[j]? = some c' →
    c.owns = true → c'.owns = true → c.attempt = c'.attempt → i = j
  valid : ∀ (i : Nat) (c : Caller), d.callers[i]? = some c → c.Valid (d.outcome c.attempt)

theorem wellFormed_empty : empty.WellFormed where
  slot_lt a h := by cases h
  attempt_lt i c h := by simp [empty] at h
  owner a h := by simp [empty] at h
  owner_unique i j c c' h := by simp [empty] at h
  valid i c h := by simp [empty] at h

namespace WellFormed

variable {d : Detector} {i a : Nat} {c c' : Caller} {o : Outcome}

theorem owns_of_busy (h : d.WellFormed) (hc : d.callers[i]? = some c) (hb : c.Busy) :
    c.owns = true :=
  (h.valid i c hc).owns_of_busy hb

theorem eq_of_busy {j : Nat} (h : d.WellFormed) (hc : d.callers[i]? = some c)
    (hc' : d.callers[j]? = some c') (hb : c.Busy) (hb' : c'.Busy)
    (hatt : c.attempt = c'.attempt) : i = j :=
  h.owner_unique i j c c' hc hc' (h.owns_of_busy hc hb) (h.owns_of_busy hc' hb') hatt

theorem setCaller (h : d.WellFormed) (hc : d.callers[i]? = some c) (hs : c.SameCall c')
    (hv : c'.Valid (d.outcome c.attempt)) : (d.setCaller i c').WellFormed := by
  -- A lookup gives a record of the same call as before.
  have back : ∀ (j : Nat) (e : Caller), (d.setCaller i c').callers[j]? = some e →
      ∃ e' : Caller, d.callers[j]? = some e' ∧ e'.SameCall e := by
    intro j e he
    rw [getElem?_setCaller hc] at he
    split at he
    · rename_i hj
      cases he
      exact ⟨c, hj ▸ hc, hs⟩
    · exact ⟨e, he, .refl e⟩
  refine ⟨h.slot_lt, ?_, ?_, ?_, ?_⟩
  · intro j e he
    obtain ⟨e', he', hsame⟩ := back j e he
    rw [hsame.attempt]
    exact h.attempt_lt j e' he'
  · intro b hb
    obtain ⟨j, e, he, howns, hatt⟩ := h.owner b hb
    by_cases hj : j = i
    · subst hj
      obtain rfl : c = e := Option.some.inj (hc.symm.trans he)
      exact ⟨j, c', getElem?_setCaller_self hc, hs.owns.trans howns,
        hs.attempt.trans hatt⟩
    · exact ⟨j, e, by rw [getElem?_setCaller hc, if_neg hj]; exact he, howns, hatt⟩
  · intro j k e f he hf howns howns' hatt
    obtain ⟨e', he', hse⟩ := back j e he
    obtain ⟨f', hf', hsf⟩ := back k f hf
    exact h.owner_unique j k e' f' he' hf' (hse.owns.symm.trans howns)
      (hsf.owns.symm.trans howns') (hse.attempt.symm.trans (hatt.trans hsf.attempt))
  · intro j e he
    rw [getElem?_setCaller hc] at he
    split at he
    · cases he
      rw [outcome_setCaller, hs.attempt]
      exact hv
    · exact h.valid j e he

theorem setOutcome (h : d.WellFormed) (ha : a < d.attempts.length) (hp : d.outcome a = .pending)
    (ho : o ≠ .pending)
    (hs : ∀ (i : Nat) (c : Caller), d.callers[i]? = some c → c.attempt = a → c.owns = true →
      ∀ f, o = .resolved f → c.source.Selects c.mode f) : (d.setOutcome a o).WellFormed := by
  refine ⟨?_, ?_, ?_, h.owner_unique, ?_⟩
  · intro b hb
    rw [length_setOutcome]
    exact h.slot_lt b hb
  · intro j e he
    rw [length_setOutcome]
    exact h.attempt_lt j e he
  · intro b hb
    rw [length_setOutcome] at hb
    exact h.owner b hb
  · intro j e he
    have hv := h.valid j e he
    rw [outcome_setOutcome ha]
    by_cases hatt : e.attempt = a
    · rw [if_pos hatt]
      rw [hatt, hp] at hv
      exact hv.settle ho (hs j e he hatt)
    · rw [if_neg hatt]
      exact hv

theorem clearSlot (h : d.WellFormed) : ({ d with slot := none } : Detector).WellFormed :=
  ⟨fun _ hs => (by cases hs), h.attempt_lt, h.owner, h.owner_unique, h.valid⟩

theorem vacate (h : d.WellFormed) : (d.vacate a).WellFormed := by
  unfold Detector.vacate
  split
  · exact h.clearSlot
  · exact h

theorem wait (h : d.WellFormed) (hs : d.slot = some a) (mode : Mode) (source : Source) :
    (d.join ⟨mode, source, a, false, .awaiting, []⟩).WellFormed := by
  let waiter : Caller := ⟨mode, source, a, false, .awaiting, []⟩
  have back : ∀ (j : Nat) (e : Caller), (d.join waiter).callers[j]? = some e →
      e = waiter ∨ d.callers[j]? = some e := by
    intro j e he
    rw [getElem?_join] at he
    split at he
    · cases he
      exact .inl rfl
    · exact .inr he
  refine ⟨h.slot_lt, ?_, ?_, ?_, ?_⟩
  · intro j e he
    rcases back j e he with rfl | he
    · exact h.slot_lt a hs
    · exact h.attempt_lt j e he
  · intro b hb
    obtain ⟨j, e, he, howns, hatt⟩ := h.owner b hb
    have hj : j < d.callers.length := (List.getElem?_eq_some_iff.mp he).1
    exact ⟨j, e, by rw [getElem?_join, if_neg (by omega)]; exact he, howns, hatt⟩
  · intro j k e f he hf howns howns' hatt
    rcases back j e he with rfl | he
    · cases howns
    · rcases back k f hf with rfl | hf
      · cases howns'
      · exact h.owner_unique j k e f he hf howns howns' hatt
  · intro j e he
    rcases back j e he with rfl | he
    · exact ⟨fun _ => rfl, fun hb => hb.elim, fun _ hf => hf.elim, fun hn => (by cases hn),
        fun _ hp => (by cases hp), fun _ hp => (by cases hp), fun _ _ hp => (by cases hp)⟩
    · exact h.valid j e he

theorem start (h : d.WellFormed) (mode : Mode) (source : Source) :
    (({ d with attempts := d.attempts ++ [.pending], slot := some d.attempts.length } :
        Detector).join
      ⟨mode, source, d.attempts.length, true, .probing (source.probe mode), []⟩).WellFormed := by
  let claimed : Detector :=
    { d with attempts := d.attempts ++ [.pending], slot := some d.attempts.length }
  let owner : Caller :=
    ⟨mode, source, d.attempts.length, true, .probing (source.probe mode), []⟩
  have len : (claimed.join owner).attempts.length = d.attempts.length + 1 := List.length_append
  have out : ∀ b, (claimed.join owner).outcome b = d.outcome b := fun b =>
    outcome_append_pending _ _ _
  have back : ∀ (j : Nat) (e : Caller), (claimed.join owner).callers[j]? = some e →
      j = d.callers.length ∧ e = owner ∨ d.callers[j]? = some e := by
    intro j e he
    rw [getElem?_join] at he
    split at he
    · rename_i hj
      cases he
      exact .inl ⟨hj, rfl⟩
    · exact .inr he
  refine ⟨?_, ?_, ?_, ?_, ?_⟩
  · intro b hb
    cases hb
    rw [len]
    exact Nat.lt_succ_self _
  · intro j e he
    rw [len]
    rcases back j e he with ⟨-, rfl⟩ | he
    · exact Nat.lt_succ_self _
    · exact Nat.lt_succ_of_lt (h.attempt_lt j e he)
  · intro b hb
    rw [len] at hb
    by_cases hnew : b = d.attempts.length
    · exact ⟨d.callers.length, owner, getElem?_join_self (d := claimed), rfl, hnew.symm⟩
    · obtain ⟨j, e, he, howns, hatt⟩ := h.owner b (by omega)
      have hj : j < d.callers.length := (List.getElem?_eq_some_iff.mp he).1
      exact ⟨j, e, by rw [getElem?_join]; exact (if_neg (Nat.ne_of_lt hj)).trans he, howns, hatt⟩
  · intro j k e f he hf howns howns' hatt
    rcases back j e he with ⟨hj, rfl⟩ | he <;> rcases back k f hf with ⟨hk, rfl⟩ | hf
    · exact hj.trans hk.symm
    · exact absurd hatt.symm (Nat.ne_of_lt (h.attempt_lt k f hf))
    · exact absurd hatt (Nat.ne_of_lt (h.attempt_lt j e he))
    · exact h.owner_unique j k e f he hf howns howns' hatt
  · intro j e he
    rw [out]
    rcases back j e he with ⟨-, rfl⟩ | he
    · have hp : d.outcome owner.attempt = .pending := outcome_eq_pending (Nat.le_refl _)
      refine ⟨fun hn => (by cases hn), fun _ => rfl, fun _ hf => Source.selects_of_canEnd hf, ?_,
        fun _ hp => (by cases hp), fun _ hp => (by cases hp), fun hn => (by cases hn)⟩
      intro _ f hf
      rw [hp] at hf
      cases hf
    · exact h.valid j e he

theorem complete (h : d.WellFormed) (hc : d.callers[i]? = some c)
    (ho : d.outcome c.attempt = .pending) (hne : o ≠ .pending)
    (hs : ∀ f, o = .resolved f → c.owns = true ∧ c.source.Selects c.mode f) {phase : Phase}
    (hv : c.Valid o → ({ c with phase } : Caller).Valid o) :
    ((d.setOutcome c.attempt o).setCaller i { c with phase }).WellFormed := by
  have hlt := h.attempt_lt i c hc
  have hset : (d.setOutcome c.attempt o).WellFormed := by
    refine h.setOutcome hlt ho hne ?_
    intro j e he hatt hown f hf
    obtain ⟨howns, hsel⟩ := hs f hf
    obtain rfl := h.owner_unique i j c e hc he howns hown hatt.symm
    obtain rfl : c = e := Option.some.inj (hc.symm.trans he)
    exact hsel
  have hout : (d.setOutcome c.attempt o).outcome c.attempt = o := by
    rw [outcome_setOutcome hlt, if_pos rfl]
  have hvalid := hset.valid i c hc
  rw [hout] at hvalid
  refine hset.setCaller hc ⟨rfl, rfl, rfl, rfl⟩ ?_
  rw [hout]
  exact hv hvalid

theorem move {e : Detector} {x : Action} (h : d.WellFormed) (hm : d.Move x e) : e.WellFormed := by
  cases hm with
  | start mode source hs => exact h.start mode source
  | wait mode source a hs => exact h.wait hs mode source
  | work x i c c' hx hc hw => exact h.setCaller hc hw.sameCall ((h.valid i c hc).works hw)
  | publish i c f hc hp ho =>
    refine h.complete hc ho (fun hn => by cases hn) ?_ fun hv => ?_
    · intro g hg
      cases hg
      exact ⟨h.owns_of_busy hc (Caller.busy_of_probing hp),
        (h.valid i c hc).selects f (Caller.canEnd_of_done hp)⟩
    · exact hv.move _ (fun hb => hb.elim) (fun _ hf => hf) (fun _ hp => by cases hp)
        (fun _ hp => by cases hp) fun _ _ hp => by cases hp
  | fail i c r delivery hc hp hd ho =>
    refine h.complete hc ho (fun hn => by cases hn) (fun _ hf => by cases hf) fun hv => ?_
    refine hv.move _ (fun _ => h.owns_of_busy hc (Caller.busy_of_probing hp)) (fun _ hf => hf) ?_
      (fun _ hp => by cases hp) fun _ _ hp => by cases hp
    intro delivery' hp'
    cases hp'
    rfl
  | raise i c found r hc hp hf =>
    have howns : c.owns = true := h.owns_of_busy hc (Caller.busy_of_probing hp)
    exact h.setCaller hc ⟨rfl, rfl, rfl, rfl⟩ ((h.valid i c hc).raise_of_owns r howns)
  | clear i c delivery hc hp =>
    have howns : c.owns = true := h.owns_of_busy hc (Caller.busy_of_clearing hp)
    have hc' : (d.vacate c.attempt).callers[i]? = some c := by rw [callers_vacate]; exact hc
    refine h.vacate.setCaller hc' ⟨rfl, rfl, rfl, rfl⟩ ?_
    rw [outcome_vacate]
    exact (h.valid i c hc).raise_of_owns _ howns
  | take i c answer hc hp ho =>
    refine h.setCaller hc ⟨rfl, rfl, rfl, rfl⟩ ?_
    refine (h.valid i c hc).move _ (fun hb => hb.elim) (fun _ hf => hf)
      (fun _ hp => by cases hp) ?_ ?_
    · intro f hf
      cases hf
      cases hout : d.outcome c.attempt <;> simp_all [Outcome.answer?]
    · intro _ _ _
      exact Outcome.ne_pending_of_answer? ho
  | callOff i c hc hp ho =>
    refine h.complete hc ho (fun hn => by cases hn) (fun _ hf => by cases hf) fun hv => ?_
    exact hv.raise _ fun _ hn => by cases hn
  | leave i c hc hp ho =>
    exact h.setCaller hc ⟨rfl, rfl, rfl, rfl⟩ ((h.valid i c hc).raise _ fun _ => ho)

theorem after (h : d.WellFormed) (xs : List Action) : (d.after xs).WellFormed :=
  after_induction h xs (fun _ _ _ _ he hm => he.move hm) fun _ _ he => he.clearSlot

/-- What moves and resets keep in well-formed detectors holds after every run from one. -/
theorem induction {P : Detector → Prop} (h : d.WellFormed) (hd : P d) (xs : List Action)
    (hmove : ∀ x ∈ xs, ∀ e e' : Detector, e.WellFormed → P e → e.Move x e' → P e')
    (hreset : .reset ∈ xs → ∀ e : Detector, P e → P { e with slot := none }) : P (d.after xs) := by
  have hall := after_induction (P := fun e => e.WellFormed ∧ P e) ⟨h, hd⟩ xs
    (fun x hx e e' he hm => ⟨he.1.move hm, hmove x hx e e' he.1 he.2 hm⟩)
    fun hr e he => ⟨he.1.clearSlot, hreset hr e he.2⟩
  exact hall.2

end WellFormed

/-- All detectors that runs reach are well-formed. -/
theorem wellFormed_after (xs : List Action) : (empty.after xs).WellFormed :=
  wellFormed_empty.after xs

end Detector

end ObjectCatalog.Detection
