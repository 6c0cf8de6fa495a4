import ObjectCatalog.Proofs.Detection.WellFormed

/-! # What callers are due, and how the slot is cleared

Once an attempt is completed, everybody on it is due an answer, and gets it with the next action
of its own unless it is cancelled. An owner that has delivered a failure clears its attempt out of
the slot with its next action, and the attempt never comes back.
-/
namespace ObjectCatalog.Detection

/-- This answer is what the caller gets next, or has got. -/
def Caller.Due (o : Outcome) (x : Answer) (c : Caller) : Prop :=
  match c.phase with
  | .awaiting => o.answer? = some x
  | .clearing delivery => x = .raised delivery.owner
  | .answered y => y = x
  | _ => False

theorem Caller.Goes.due {o : Outcome} {q : Prop} {x : Answer} {c c' : Caller} (h : c.Goes o q c')
    (hq : ¬ q) (hx : c.Due o x) : c'.Due o x := by
  cases h with
  | work h => cases h <;> simp_all [Due]
  | publish f h ho => simp [Due, h] at hx
  | fail r delivery h hd ho => simp [Due, h] at hx
  | raise found r h hf => simp [Due, h] at hx
  | clear delivery h =>
    simp only [Due, h] at hx
    exact hx.symm
  | take answer h ho =>
    simp only [Due, h] at hx
    exact Option.some.inj (ho.symm.trans hx)
  | leave h hx => exact absurd hx hq

def Caller.got (c : Caller) : Option Answer :=
  match c.phase with
  | .answered x => some x
  | _ => none

namespace Detector

variable {d e : Detector} {a i j : Nat} {c : Caller} {x own : Answer}

def got (d : Detector) (i : Nat) : Option Answer := d.callers[i]?.bind Caller.got

theorem got_of_caller (hc : d.callers[i]? = some c) : d.got i = c.got := by
  unfold got
  rw [hc]
  rfl

/-- What is due is what the caller gets with its next action. -/
theorem got_of_due (hc : d.callers[i]? = some c) (hx : c.Due (d.outcome c.attempt) x) :
    (d.act (.advance i)).1.got i = some x := by
  have put : ∀ {e : Detector}, e.callers = d.callers →
      (e.setCaller i { c with phase := .answered x }).got i = some x := by
    intro e he
    rw [got_of_caller (getElem?_setCaller_self (he ▸ hc))]
    rfl
  simp only [act, advance, hc]
  cases hp : c.phase with
  | probing rest => simp [Caller.Due, hp] at hx
  | accessing point next => simp [Caller.Due, hp] at hx
  | clearing delivery =>
    simp only [Caller.Due, hp] at hx
    subst hx
    exact put callers_vacate
  | awaiting =>
    simp only [Caller.Due, hp] at hx
    simp only [hx]
    exact put rfl
  | answered y =>
    simp only [Caller.Due, hp] at hx
    subst hx
    rw [got_of_caller hc, Caller.got, hp]

/-- Everybody on this attempt whom these actions do not cancel is due an answer: its owner one, all
others another. -/
def AllDue (a : Nat) (own x : Answer) (xs : List Action) (d : Detector) : Prop :=
  ∀ (j : Nat) (w : Caller), d.callers[j]? = some w → w.attempt = a → .cancel j ∉ xs →
    w.Due (d.outcome a) (if w.owns then own else x)

/-- Everybody on a completed attempt stays due who is not cancelled, and who comes later to the
attempt joins them. -/
theorem AllDue.after (h : d.AllDue a own x []) (ho : (d.outcome a).answer? = some x)
    (later : List Action) : (d.after later).AllDue a own x later := by
  have hdone : d.outcome a ≠ .pending := Outcome.ne_pending_of_answer? ho
  have hlt : a < d.attempts.length := by
    refine Nat.lt_of_not_le fun hle => ?_
    exact hdone (outcome_eq_pending hle)
  have hall := after_induction
    (P := fun e => e.outcome a = d.outcome a ∧ a < e.attempts.length ∧
      e.AllDue a own x later)
    ⟨rfl, hlt, fun j w hw hatt _ => h j w hw hatt List.not_mem_nil⟩ later ?_ fun _ _ he => he
  · exact hall.2.2
  · rintro y hy e e' ⟨hout, hlt, hdue⟩ hm
    have hout' : e'.outcome a = e.outcome a := hm.outcome (by rw [hout]; exact hdone)
    refine ⟨hout'.trans hout, ?_, ?_⟩
    · exact Nat.lt_of_lt_of_le hlt hm.attempts_le
    · intro j w' hw' hatt hex
      rw [hout']
      rcases hm.caller_back hw' with ⟨w, hw, rfl | hg⟩ | ⟨-, -, ⟨hown, hp, -⟩ | ⟨-, hnew⟩⟩
      · exact hdue j w' hw hatt hex
      · have hsame := hg.sameCall
        have hatt' : w.attempt = a := hsame.attempt.symm.trans hatt
        have hgo := hdue j w hw hatt' hex
        rw [hatt'] at hg
        rw [hsame.owns]
        exact hg.due (fun hc => hex (hc ▸ hy)) hgo
      · rw [hown, if_neg Bool.false_ne_true]
        simp only [Caller.Due, hp, hout]
        exact ho
      · omega

structure Gone (a : Nat) (d : Detector) : Prop where
  lt : a < d.attempts.length
  slot : d.slot ≠ some a

theorem Gone.move {y : Action} (h : d.Gone a) (hm : d.Move y e) : e.Gone a := by
  have hlt := h.lt
  refine ⟨Nat.lt_of_lt_of_le hlt hm.attempts_le, ?_⟩
  rcases hm.slot_cases with ⟨hs, -⟩ | ⟨-, hs, -⟩ | ⟨k, f, f', delivery, -, -, -, hs, -⟩
  · exact hs ▸ h.slot
  · rw [hs]
    intro heq
    have := Option.some.inj heq
    omega
  · rw [hs]
    exact fun heq => by cases heq

theorem Gone.after (h : d.Gone a) (xs : List Action) : (d.after xs).Gone a :=
  after_induction h xs (fun _ _ _ _ he hm => he.move hm) fun _ _ he =>
    ⟨he.lt, fun hs => by cases hs⟩

structure Clearing (i a : Nat) (d : Detector) : Prop where
  lt : a < d.attempts.length
  caller : ∃ (c : Caller) (delivery : Delivery), d.callers[i]? = some c ∧ c.attempt = a ∧
    c.phase = .clearing delivery

structure Cleared (i a : Nat) (d : Detector) : Prop where
  gone : d.Gone a
  caller : ∃ (c : Caller) (x : Answer), d.callers[i]? = some c ∧ c.phase = .answered x

theorem Clearing.slot_advance (h : d.Clearing i a) :
    (d.advance i).1.slot = if d.slot = some a then none else d.slot := by
  obtain ⟨c, delivery, hc, rfl, hp⟩ := h.caller
  simp only [advance, hc, hp]
  rw [slot_setCaller, slot_vacate]

theorem Clearing.advance (h : d.Clearing i a) : (d.advance i).1.Cleared i a := by
  have hs := h.slot_advance
  obtain ⟨c, delivery, hc, rfl, hp⟩ := h.caller
  refine ⟨⟨?_, ?_⟩, ?_⟩
  · simp only [Detector.advance, hc, hp, attempts_setCaller, attempts_vacate]
    exact h.lt
  · rw [hs]
    split
    · intro heq
      cases heq
    · assumption
  · refine ⟨{ c with phase := .answered (.raised delivery.owner) }, _, ?_, rfl⟩
    simp only [Detector.advance, hc, hp]
    exact getElem?_setCaller_self (callers_vacate ▸ hc)

theorem Cleared.advance_eq (h : d.Cleared i a) : (d.advance i).1 = d := by
  obtain ⟨c, x, hc, hp⟩ := h.caller
  simp only [advance, hc, hp]

theorem Cleared.act (h : d.Cleared i a) (y : Action) : (d.act y).1.Cleared i a := by
  obtain ⟨c, x, hc, hp⟩ := h.caller
  have hcaller : ∃ (c : Caller) (x : Answer), (d.act y).1.callers[i]? = some c ∧
      c.phase = .answered x := by
    rcases d.act_cases y with rfl | hy | hm
    · exact ⟨c, x, hc, hp⟩
    · rw [hy]
      exact ⟨c, x, hc, hp⟩
    · rcases hm.caller hc with hc' | ⟨-, c', hc', hg⟩
      · exact ⟨c, x, hc', hp⟩
      · cases hg with
        | work h => cases h <;> simp_all
        | _ => simp_all
  exact ⟨h.gone.after [y], hcaller⟩

theorem Clearing.act (h : d.Clearing i a) (y : Action) :
    (d.act y).1.Clearing i a ∨ (d.act y).1.Cleared i a := by
  obtain ⟨c, delivery, hc, hatt, hp⟩ := h.caller
  rcases d.act_cases y with rfl | hy | hm
  · exact .inl ⟨h.lt, c, delivery, hc, hatt, hp⟩
  · rw [hy]
    exact .inl h
  · rcases hm.caller hc with hc' | ⟨rfl | rfl, c', hc', hg⟩
    · exact .inl ⟨Nat.lt_of_lt_of_le h.lt hm.attempts_le, c, delivery, hc', hatt, hp⟩
    · exact .inr h.advance
    · -- Only an access or a wait can be cancelled.
      have heq : d.cancel i = d := by
        simp only [cancel, hc, hp]
        cases c.mode <;> rfl
      simp only [Detector.act, heq]
      exact .inl h

theorem Clearing.after (h : d.Clearing i a) (xs : List Action) :
    (d.after xs).Clearing i a ∨ (d.after xs).Cleared i a := by
  have hboth : ∀ {e : Detector} (xs : List Action), e.Clearing i a ∨ e.Cleared i a →
      (e.after xs).Clearing i a ∨ (e.after xs).Cleared i a := by
    intro e xs
    induction xs generalizing e with
    | nil => exact id
    | cons y ys ih =>
      rintro (h | h)
      · exact ih (h.act y)
      · exact ih (.inr (h.act y))
  exact hboth xs (.inl h)

end Detector

end ObjectCatalog.Detection
