import ObjectCatalog.Detection.Attempt
import ObjectCatalog.Proofs.Detection.Plans

/-! # What an action can change

An action of one caller changes that caller's record, at most one outcome, and the slot only by
claiming it, clearing it or resetting it. Everything else about runs is derived from the list of
moves below, one for each thing an action can do.
-/
namespace ObjectCatalog.Detection

def Caller.InProgress (c : Caller) : Prop :=
  match c.phase with
  | .probing _ | .accessing .. => True
  | _ => False

/-- An owner that is still to end its probe, or to clear the slot after a failure. -/
def Caller.Busy (c : Caller) : Prop :=
  match c.phase with
  | .probing _ | .accessing .. | .clearing _ => True
  | _ => False

theorem Caller.InProgress.busy {c : Caller} (h : c.InProgress) : c.Busy := by
  unfold InProgress at h
  unfold Busy
  split at h <;> simp_all

theorem Caller.busy_of_probing {c : Caller} {rest : Plan Family} (h : c.phase = .probing rest) :
    c.Busy := by
  simp [Busy, h]

theorem Caller.busy_of_clearing {c : Caller} {delivery : Delivery}
    (h : c.phase = .clearing delivery) : c.Busy := by
  simp [Busy, h]

/-- What an access of this caller may end with besides how its source ends it. -/
def Caller.cut (c : Caller) : Option Raised :=
  match c.mode with
  | .blocking => none
  | .coroutine => some cancelledError

def Caller.CanEnd (c : Caller) (found : Except Raised Family) : Prop :=
  match c.phase with
  | .probing rest => rest.CanEnd c.source.ends c.cut found
  | .accessing point next => (Plan.access point next).CanEnd c.source.ends c.cut found
  | _ => False

theorem Caller.canEnd_of_done {c : Caller} {found : Except Raised Family}
    (h : c.phase = .probing (.done found)) : c.CanEnd found := by
  simp [CanEnd, h, Plan.CanEnd]

/-- Can the end of a probe be delivered to those who wait? A success always can. -/
def Deliverable (mode : Mode) (found : Except Raised Family) : Prop :=
  match found with
  | .ok _ => True
  | .error r => ∃ delivery, deliver mode r = .ok delivery

theorem exists_of_not_deliverable {mode : Mode} {found : Except Raised Family}
    (h : ¬ Deliverable mode found) : ∃ r t, found = .error r ∧ deliver mode r = .error t := by
  cases found with
  | ok f => exact absurd trivial h
  | error r =>
    cases hd : deliver mode r with
    | ok delivery => exact absurd ⟨delivery, hd⟩ h
    | error t => exact ⟨r, t, rfl, hd⟩

theorem Outcome.ne_pending_of_answer? {o : Outcome} {x : Answer} (h : o.answer? = some x) :
    o ≠ .pending := by
  rintro rfl
  cases h

structure Caller.SameCall (c c' : Caller) : Prop where
  mode : c'.mode = c.mode
  source : c'.source = c.source
  attempt : c'.attempt = c.attempt
  owns : c'.owns = c.owns

theorem Caller.SameCall.refl (c : Caller) : c.SameCall c := ⟨rfl, rfl, rfl, rfl⟩

theorem Caller.SameCall.trans {a b c : Caller} (hab : a.SameCall b) (hbc : b.SameCall c) :
    a.SameCall c :=
  ⟨hbc.mode.trans hab.mode, hbc.source.trans hab.source, hbc.attempt.trans hab.attempt,
    hbc.owns.trans hab.owns⟩

inductive Caller.Works (c : Caller) : Caller → Prop
  | report (event : Event) (rest : Plan Family) (h : c.phase = .probing (.report event rest)) :
    Works c { c with phase := .probing rest }
  | start (point : Point) (next : Except Raised Unit → Plan Family)
    (h : c.phase = .probing (.access point next)) :
    Works c { c with phase := .accessing point next, trace := c.trace ++ [point] }
  | finish (point : Point) (next : Except Raised Unit → Plan Family)
    (h : c.phase = .accessing point next) (ending : Except Raised Unit)
    (he : ending = c.source.ends point ∨ ∃ r, c.cut = some r ∧ ending = .error r) :
    Works c { c with phase := .probing (next ending) }

namespace Caller.Works

variable {c c' : Caller}

theorem sameCall (h : c.Works c') : c.SameCall c' := by
  cases h <;> exact ⟨rfl, rfl, rfl, rfl⟩

theorem inProgress (h : c.Works c') : c.InProgress := by
  cases h with
  | report event rest h => simp [InProgress, h]
  | start point next h => simp [InProgress, h]
  | finish point next h => simp [InProgress, h]

theorem inProgress_right (h : c.Works c') : c'.InProgress := by
  cases h <;> trivial

/-- Working on a probe rules endings out, and never adds one. -/
theorem canEnd (h : c.Works c') {found : Except Raised Family} (he : c'.CanEnd found) :
    c.CanEnd found := by
  cases h with
  | report event rest h =>
    simp only [CanEnd, h]
    exact he
  | start point next h =>
    simp only [CanEnd, h]
    exact he
  | finish point next h ending hending =>
    simp only [CanEnd, h]
    rcases hending with rfl | ⟨r, hr, rfl⟩
    · exact .inl he
    · exact .inr ⟨r, hr, he⟩

end Caller.Works

/-- What a caller goes through, next to a certain outcome of its attempt. It leaves before there is
one only if it is cancelled. -/
inductive Caller.Goes (o : Outcome) (cancelled : Prop) (c : Caller) : Caller → Prop
  | work {c' : Caller} (h : c.Works c') : Goes o cancelled c c'
  | publish (f : Family) (h : c.phase = .probing (.done (.ok f))) (ho : o = .pending) :
    Goes o cancelled c { c with phase := .awaiting }
  | fail (r : Raised) (delivery : Delivery) (h : c.phase = .probing (.done (.error r)))
    (hd : deliver c.mode r = .ok delivery) (ho : o = .pending) :
    Goes o cancelled c { c with phase := .clearing delivery }
  | raise (found : Except Raised Family) (r : Raised) (h : c.phase = .probing (.done found))
    (hf : o ≠ .pending ∨ ∃ s t, found = .error s ∧ deliver c.mode s = .error t) :
    Goes o cancelled c { c with phase := .answered (.raised r) }
  | clear (delivery : Delivery) (h : c.phase = .clearing delivery) :
    Goes o cancelled c { c with phase := .answered (.raised delivery.owner) }
  | take (answer : Answer) (h : c.phase = .awaiting) (ho : o.answer? = some answer) :
    Goes o cancelled c { c with phase := .answered answer }
  | leave (h : c.phase = .awaiting) (hx : cancelled) :
    Goes o cancelled c { c with phase := .answered (.raised cancelledError) }

theorem Caller.Goes.sameCall {o : Outcome} {q : Prop} {c c' : Caller} (h : c.Goes o q c') :
    c.SameCall c' := by
  cases h with
  | work h => exact h.sameCall
  | _ => exact ⟨rfl, rfl, rfl, rfl⟩

theorem Caller.Goes.inProgress {o : Outcome} {q : Prop} {c c' : Caller} (h : c.Goes o q c')
    (hp : c'.InProgress) : c.InProgress := by
  cases h with
  | work h => exact h.inProgress
  | _ => exact hp.elim

theorem Caller.Goes.busy {o : Outcome} {q : Prop} {c c' : Caller} (h : c.Goes o q c')
    (hb : c'.Busy) : c.Busy := by
  cases h with
  | work h => exact h.inProgress.busy
  | fail r delivery h hd ho => exact busy_of_probing h
  | publish f h ho => exact hb.elim
  | raise found r h hf => exact hb.elim
  | clear delivery h => exact hb.elim
  | take answer h ho => exact hb.elim
  | leave h hx => exact hb.elim

namespace Detector

variable {d : Detector} {i j a b : Nat} {c c' : Caller} {o : Outcome}

@[simp] theorem after_nil (d : Detector) : d.after [] = d := rfl

@[simp] theorem after_cons (d : Detector) (x : Action) (xs : List Action) :
    d.after (x :: xs) = (d.act x).1.after xs := rfl

theorem after_append (d : Detector) (xs ys : List Action) :
    d.after (xs ++ ys) = (d.after xs).after ys := by
  induction xs generalizing d with
  | nil => rfl
  | cons x xs ih => exact ih (d.act x).1

theorem after_concat (d : Detector) (xs : List Action) (x : Action) :
    d.after (xs ++ [x]) = ((d.after xs).act x).1 := d.after_append xs [x]

@[simp] theorem slot_setCaller : (d.setCaller i c').slot = d.slot := rfl
@[simp] theorem attempts_setCaller : (d.setCaller i c').attempts = d.attempts := rfl
@[simp] theorem outcome_setCaller : (d.setCaller i c').outcome a = d.outcome a := rfl
@[simp] theorem slot_setOutcome : (d.setOutcome a o).slot = d.slot := rfl
@[simp] theorem callers_setOutcome : (d.setOutcome a o).callers = d.callers := rfl
@[simp] theorem slot_join : (d.join c).slot = d.slot := rfl
@[simp] theorem attempts_join : (d.join c).attempts = d.attempts := rfl
@[simp] theorem outcome_join : (d.join c).outcome a = d.outcome a := rfl

@[simp] theorem length_setCaller : (d.setCaller i c').callers.length = d.callers.length :=
  List.length_set

@[simp] theorem length_setOutcome : (d.setOutcome a o).attempts.length = d.attempts.length :=
  List.length_set

@[simp] theorem callers_vacate : (d.vacate a).callers = d.callers := by
  unfold vacate
  split <;> rfl

@[simp] theorem attempts_vacate : (d.vacate a).attempts = d.attempts := by
  unfold vacate
  split <;> rfl

@[simp] theorem outcome_vacate : (d.vacate a).outcome b = d.outcome b := by
  simp only [outcome, attempts_vacate]

theorem slot_vacate : (d.vacate a).slot = if d.slot = some a then none else d.slot := by
  unfold vacate
  split <;> rfl

theorem getElem?_setCaller (hc : d.callers[i]? = some c) :
    (d.setCaller i c').callers[j]? = if j = i then some c' else d.callers[j]? := by
  have hi : i < d.callers.length := (List.getElem?_eq_some_iff.mp hc).1
  simp only [setCaller, List.getElem?_set, hi, if_true, eq_comm]

theorem getElem?_complete (hc : d.callers[i]? = some c) :
    ((d.setOutcome a o).setCaller i c').callers[j]? =
      if j = i then some c' else d.callers[j]? :=
  getElem?_setCaller (d := d.setOutcome a o) hc

theorem getElem?_setCaller_self (hc : d.callers[i]? = some c) :
    (d.setCaller i c').callers[i]? = some c' := by
  rw [getElem?_setCaller hc, if_pos rfl]

theorem getElem?_complete_self (hc : d.callers[i]? = some c) :
    ((d.setOutcome a o).setCaller i c').callers[i]? = some c' :=
  getElem?_setCaller_self (d := d.setOutcome a o) hc

theorem getElem?_join :
    (d.join c).callers[j]? = if j = d.callers.length then some c else d.callers[j]? := by
  simp only [join]
  split
  · subst j
    exact List.getElem?_concat_length
  · rename_i hj
    rcases Nat.lt_or_gt_of_ne hj with hlt | hgt
    · exact List.getElem?_append_left hlt
    · have hd : d.callers[j]? = none := List.getElem?_eq_none (by omega)
      rw [hd]
      exact List.getElem?_eq_none (by rw [List.length_append, List.length_singleton]; omega)

theorem getElem?_join_self : (d.join c).callers[d.callers.length]? = some c := by
  rw [getElem?_join, if_pos rfl]

theorem outcome_setOutcome (ha : a < d.attempts.length) :
    (d.setOutcome a o).outcome b = if b = a then o else d.outcome b := by
  simp only [outcome, setOutcome, List.getD_eq_getElem?_getD, List.getElem?_set, ha, if_true]
  split
  · rename_i h
    simp [h]
  · rename_i h
    rw [if_neg fun hb => h hb.symm]

theorem outcome_setOutcome_of_ne (h : b ≠ a) : (d.setOutcome a o).outcome b = d.outcome b := by
  simp only [outcome, setOutcome, List.getD_eq_getElem?_getD, List.getElem?_set_ne h.symm]

theorem outcome_eq_pending (ha : d.attempts.length ≤ a) : d.outcome a = .pending := by
  simp only [outcome, List.getD_eq_getElem?_getD, List.getElem?_eq_none ha, Option.getD_none]

theorem outcome_append_pending (attempts : List Outcome) (slot : Option Nat)
    (callers : List Caller) :
    (⟨attempts ++ [.pending], slot, callers⟩ : Detector).outcome a =
      (⟨attempts, slot, callers⟩ : Detector).outcome a := by
  simp only [outcome, List.getD_eq_getElem?_getD]
  rcases Nat.lt_trichotomy a attempts.length with h | h | h
  · rw [List.getElem?_append_left h]
  · subst h
    rw [List.getElem?_concat_length, List.getElem?_eq_none (Nat.le_refl _)]
    rfl
  · rw [List.getElem?_eq_none (Nat.le_of_lt h), List.getElem?_eq_none]
    rw [List.length_append, List.length_singleton]
    omega

theorem complete?_eq_some_iff {e : Detector} :
    d.complete? a o = some e ↔ d.outcome a = .pending ∧ e = d.setOutcome a o := by
  unfold complete?
  cases d.outcome a <;> simp [eq_comm]

theorem complete?_eq_none_iff : d.complete? a o = none ↔ d.outcome a ≠ .pending := by
  unfold complete?
  cases d.outcome a <;> simp

inductive Move (d : Detector) : Action → Detector → Prop
  | start (mode : Mode) (source : Source) (hs : d.slot = none) :
    Move d (.claim mode source)
      (({ d with attempts := d.attempts ++ [.pending], slot := some d.attempts.length } :
          Detector).join
        ⟨mode, source, d.attempts.length, true, .probing (source.probe mode), []⟩)
  | wait (mode : Mode) (source : Source) (a : Nat) (hs : d.slot = some a) :
    Move d (.claim mode source) (d.join ⟨mode, source, a, false, .awaiting, []⟩)
  | work (x : Action) (i : Nat) (c c' : Caller) (hx : x = .advance i ∨ x = .cancel i)
    (hc : d.callers[i]? = some c) (hw : c.Works c') :
    Move d x (d.setCaller i c')
  | publish (i : Nat) (c : Caller) (f : Family) (hc : d.callers[i]? = some c)
    (hp : c.phase = .probing (.done (.ok f))) (ho : d.outcome c.attempt = .pending) :
    Move d (.advance i)
      ((d.setOutcome c.attempt (.resolved f)).setCaller i { c with phase := .awaiting })
  | fail (i : Nat) (c : Caller) (r : Raised) (delivery : Delivery) (hc : d.callers[i]? = some c)
    (hp : c.phase = .probing (.done (.error r))) (hd : deliver c.mode r = .ok delivery)
    (ho : d.outcome c.attempt = .pending) :
    Move d (.advance i) ((d.setOutcome c.attempt (.failed delivery.waiters)).setCaller i
      { c with phase := .clearing delivery })
  | raise (i : Nat) (c : Caller) (found : Except Raised Family) (r : Raised)
    (hc : d.callers[i]? = some c) (hp : c.phase = .probing (.done found))
    (hf : d.outcome c.attempt ≠ .pending ∨ ∃ s t, found = .error s ∧ deliver c.mode s = .error t) :
    Move d (.advance i) (d.setCaller i { c with phase := .answered (.raised r) })
  | clear (i : Nat) (c : Caller) (delivery : Delivery) (hc : d.callers[i]? = some c)
    (hp : c.phase = .clearing delivery) :
    Move d (.advance i) ((d.vacate c.attempt).setCaller i
      { c with phase := .answered (.raised delivery.owner) })
  | take (i : Nat) (c : Caller) (answer : Answer) (hc : d.callers[i]? = some c)
    (hp : c.phase = .awaiting) (ho : (d.outcome c.attempt).answer? = some answer) :
    Move d (.advance i) (d.setCaller i { c with phase := .answered answer })
  | callOff (i : Nat) (c : Caller) (hc : d.callers[i]? = some c) (hp : c.phase = .awaiting)
    (ho : d.outcome c.attempt = .pending) :
    Move d (.cancel i) ((d.setOutcome c.attempt .calledOff).setCaller i
      { c with phase := .answered (.raised cancelledError) })
  | leave (i : Nat) (c : Caller) (hc : d.callers[i]? = some c) (hp : c.phase = .awaiting)
    (ho : d.outcome c.attempt ≠ .pending) :
    Move d (.cancel i) (d.setCaller i { c with phase := .answered (.raised cancelledError) })

theorem act_done {found : Except Raised Family} (hc : d.callers[i]? = some c)
    (hp : c.phase = .probing (.done found)) :
    (d.act (.advance i)).1 = (d.conclude i c found).1 := by
  simp only [act, advance, hc, hp]

theorem conclude_undeliverable {r : Raised} {t : Failure} (hd : deliver c.mode r = .error t) :
    d.conclude i c (.error r) =
      (d.setCaller i { c with phase := .answered (.raised (.ofFailure t)) }, []) := by
  unfold conclude
  simp only [hd]

theorem conclude_of_ne_pending {found : Except Raised Family} (hd : Deliverable c.mode found)
    (ho : d.outcome c.attempt ≠ .pending) :
    d.conclude i c found =
      (d.setCaller i { c with phase := .answered (.raised alreadyDone) }, []) := by
  unfold conclude
  cases found with
  | ok f => simp only [complete?_eq_none_iff.mpr ho]
  | error r =>
    obtain ⟨delivery, hd⟩ := hd
    simp only [hd, complete?_eq_none_iff.mpr ho]

theorem conclude_ok {f : Family} (ho : d.outcome c.attempt = .pending) :
    d.conclude i c (.ok f) =
      ((d.setOutcome c.attempt (.resolved f)).setCaller i { c with phase := .awaiting },
        [resolvedEvent f]) := by
  unfold conclude
  simp only [complete?_eq_some_iff.mpr ⟨ho, rfl⟩]

theorem conclude_error {r : Raised} {delivery : Delivery} (hd : deliver c.mode r = .ok delivery)
    (ho : d.outcome c.attempt = .pending) :
    d.conclude i c (.error r) =
      ((d.setOutcome c.attempt (.failed delivery.waiters)).setCaller i
        { c with phase := .clearing delivery }, []) := by
  unfold conclude
  simp only [hd, complete?_eq_some_iff.mpr ⟨ho, rfl⟩]

theorem conclude_move {found : Except Raised Family} (hc : d.callers[i]? = some c)
    (hp : c.phase = .probing (.done found)) : d.Move (.advance i) (d.conclude i c found).1 := by
  by_cases hd : Deliverable c.mode found
  · by_cases ho : d.outcome c.attempt = .pending
    · cases found with
      | ok f =>
        rw [conclude_ok ho]
        exact .publish i c f hc hp ho
      | error r =>
        obtain ⟨delivery, hd⟩ := hd
        rw [conclude_error hd ho]
        exact .fail i c r delivery hc hp hd ho
    · rw [conclude_of_ne_pending hd ho]
      exact .raise i c found _ hc hp (.inl ho)
  · obtain ⟨r, t, rfl, ht⟩ := exists_of_not_deliverable hd
    rw [conclude_undeliverable ht]
    exact .raise i c _ _ hc hp (.inr ⟨r, t, rfl, ht⟩)

theorem advance_cases (d : Detector) (i : Nat) :
    (d.advance i).1 = d ∨ d.Move (.advance i) (d.advance i).1 := by
  unfold advance
  cases hc : d.callers[i]? with
  | none => exact .inl rfl
  | some c =>
    cases hp : c.phase with
    | probing rest =>
      cases rest with
      | done found =>
        simp only [hp]
        exact .inr (conclude_move hc hp)
      | report event rest =>
        simp only [hp]
        exact .inr (.work _ i c _ (.inl rfl) hc (.report event rest hp))
      | access point next =>
        simp only [hp]
        exact .inr (.work _ i c _ (.inl rfl) hc (.start point next hp))
    | accessing point next =>
      simp only [hp]
      exact .inr (.work _ i c _ (.inl rfl) hc (.finish point next hp _ (.inl rfl)))
    | clearing delivery =>
      simp only [hp]
      exact .inr (.clear i c delivery hc hp)
    | awaiting =>
      simp only [hp]
      cases ho : (d.outcome c.attempt).answer? with
      | some answer => exact .inr (.take i c answer hc hp ho)
      | none => exact .inl rfl
    | answered answer =>
      simp only [hp]
      exact .inl trivial

theorem cancel_cases (d : Detector) (i : Nat) :
    d.cancel i = d ∨ d.Move (.cancel i) (d.cancel i) := by
  unfold cancel
  cases hc : d.callers[i]? with
  | none => exact .inl rfl
  | some c =>
    rcases c with ⟨mode, source, a, owns, phase, trace⟩
    cases mode with
    | blocking => exact .inl rfl
    | coroutine =>
      cases phase with
      | accessing point next =>
        exact .inr (.work _ i _ _ (.inr rfl) hc
          (.finish point next rfl _ (.inr ⟨cancelledError, rfl, rfl⟩)))
      | awaiting =>
        dsimp only
        cases h : d.complete? a .calledOff with
        | some e =>
          obtain ⟨ho, rfl⟩ := complete?_eq_some_iff.mp h
          exact .inr (.callOff i _ hc rfl ho)
        | none => exact .inr (.leave i _ hc rfl (complete?_eq_none_iff.mp h))
      | probing rest => exact .inl rfl
      | clearing delivery => exact .inl rfl
      | answered answer => exact .inl rfl

theorem claim_move (d : Detector) (mode : Mode) (source : Source) :
    d.Move (.claim mode source) (d.claim mode source) := by
  unfold claim
  cases hs : d.slot with
  | some a => exact .wait mode source a hs
  | none => exact .start mode source hs

/-- An action is a reset, does nothing, or does one of the moves. -/
theorem act_cases (d : Detector) (x : Action) :
    x = .reset ∨ (d.act x).1 = d ∨ d.Move x (d.act x).1 := by
  cases x with
  | claim mode source => exact .inr (.inr (d.claim_move mode source))
  | advance i => exact .inr (d.advance_cases i)
  | cancel i => exact .inr (d.cancel_cases i)
  | reset => exact .inl rfl

/-- What the moves and resets of a run keep holds after it. -/
theorem after_induction {P : Detector → Prop} (hd : P d) (xs : List Action)
    (hmove : ∀ x ∈ xs, ∀ e e' : Detector, P e → e.Move x e' → P e')
    (hreset : .reset ∈ xs → ∀ e : Detector, P e → P { e with slot := none }) :
    P (d.after xs) := by
  induction xs generalizing d with
  | nil => exact hd
  | cons x xs ih =>
    have hx : P (d.act x).1 := by
      rcases d.act_cases x with rfl | h | h
      · exact hreset List.mem_cons_self d hd
      · rw [h]
        exact hd
      · exact hmove x List.mem_cons_self d _ hd h
    refine ih hx ?_ ?_
    · intro y hy
      exact hmove y (List.mem_cons_of_mem x hy)
    · intro hr
      exact hreset (List.mem_cons_of_mem x hr)

namespace Move

variable {e : Detector} {x : Action}

/-- A move takes a caller on, or leaves it as it is. -/
theorem caller (hm : d.Move x e) (hc : d.callers[i]? = some c) :
    e.callers[i]? = some c ∨ (x = .advance i ∨ x = .cancel i) ∧
      ∃ c' : Caller, e.callers[i]? = some c' ∧
        c.Goes (d.outcome c.attempt) (x = .cancel i) c' := by
  have hi : i < d.callers.length := (List.getElem?_eq_some_iff.mp hc).1
  -- Taking one caller on leaves all others alone.
  have go : ∀ {d' : Detector} {k : Nat} {f f' : Caller}, d'.callers = d.callers →
      d.callers[k]? = some f → (x = .advance k ∨ x = .cancel k) →
      f.Goes (d.outcome f.attempt) (x = .cancel k) f' →
      (d'.setCaller k f').callers[i]? = some c ∨ (x = .advance i ∨ x = .cancel i) ∧
        ∃ c' : Caller, (d'.setCaller k f').callers[i]? = some c' ∧
          c.Goes (d.outcome c.attempt) (x = .cancel i) c' := by
    intro d' k f f' hd hf hx hg
    rw [getElem?_setCaller (hd ▸ hf), hd]
    split
    · rename_i hk
      subst hk
      obtain rfl : c = f := Option.some.inj (hc.symm.trans hf)
      exact .inr ⟨hx, f', rfl, hg⟩
    · exact .inl hc
  cases hm with
  | start mode source hs =>
    rw [getElem?_join]
    exact .inl ((if_neg (Nat.ne_of_lt hi)).trans hc)
  | wait mode source a hs =>
    rw [getElem?_join]
    exact .inl ((if_neg (Nat.ne_of_lt hi)).trans hc)
  | work x k f f' hx hf hw => exact go rfl hf hx (.work hw)
  | publish k f g hf hp ho => exact go rfl hf (.inl rfl) (.publish g hp ho)
  | fail k f r delivery hf hp hd ho => exact go rfl hf (.inl rfl) (.fail r delivery hp hd ho)
  | raise k f found r hf hp hcause => exact go rfl hf (.inl rfl) (.raise found r hp hcause)
  | clear k f delivery hf hp => exact go callers_vacate hf (.inl rfl) (.clear delivery hp)
  | take k f answer hf hp ho => exact go rfl hf (.inl rfl) (.take answer hp ho)
  | callOff k f hf hp ho => exact go rfl hf (.inr rfl) (.leave hp rfl)
  | leave k f hf hp ho => exact go rfl hf (.inr rfl) (.leave hp rfl)

/-- A caller is there from before, or it has just come: then it waits for the attempt in the
slot, or it has claimed the empty slot with a new one. -/
theorem caller_back (hm : d.Move x e) (hc : e.callers[i]? = some c') :
    (∃ c : Caller, d.callers[i]? = some c ∧
        (c' = c ∨ c.Goes (d.outcome c.attempt) (x = .cancel i) c')) ∨
      i = d.callers.length ∧ e.slot = some c'.attempt ∧
        (c'.owns = false ∧ c'.phase = .awaiting ∧ d.slot = some c'.attempt ∨
          d.slot = none ∧ c'.attempt = d.attempts.length) := by
  by_cases hi : i < d.callers.length
  · have hd : d.callers[i]? = some d.callers[i] := List.getElem?_eq_getElem hi
    refine .inl ⟨d.callers[i], hd, ?_⟩
    rcases hm.caller hd with h | ⟨-, f, h, hg⟩
    · exact .inl (Option.some.inj (hc.symm.trans h))
    · obtain rfl : c' = f := Option.some.inj (hc.symm.trans h)
      exact .inr hg
  · refine .inr ?_
    have old : ∀ {d' : Detector} {k : Nat} {f : Caller}, d'.callers = d.callers →
        (d'.setCaller k f).callers[i]? ≠ some c' := by
      intro d' k f hd h
      have hlt := (List.getElem?_eq_some_iff.mp h).1
      rw [length_setCaller, hd] at hlt
      exact hi hlt
    cases hm with
    | start mode source hs =>
      rw [getElem?_join] at hc
      split at hc
      · rename_i hk
        cases hc
        exact ⟨hk, rfl, .inr ⟨hs, rfl⟩⟩
      · exact absurd (List.getElem?_eq_some_iff.mp hc).1 hi
    | wait mode source a hs =>
      rw [getElem?_join] at hc
      split at hc
      · rename_i hk
        cases hc
        exact ⟨hk, hs, .inl ⟨rfl, rfl, hs⟩⟩
      · exact absurd (List.getElem?_eq_some_iff.mp hc).1 hi
    | clear k f delivery hf hp => exact absurd hc (old callers_vacate)
    | _ => exact absurd hc (old rfl)

/-- The slot is filled by a claim, emptied by an owner that has delivered its failure, and left
alone by all other moves. -/
theorem slot_cases (hm : d.Move x e) :
    e.slot = d.slot ∧ e.attempts.length = d.attempts.length ∨
      d.slot = none ∧ e.slot = some d.attempts.length ∧
        e.attempts.length = d.attempts.length + 1 ∨
      ∃ (k : Nat) (f f' : Caller) (delivery : Delivery), d.callers[k]? = some f ∧
        f.phase = .clearing delivery ∧ d.slot = some f.attempt ∧ e.slot = none ∧
        e.callers[k]? = some f' ∧ ¬ f'.Busy ∧ e.attempts.length = d.attempts.length := by
  cases hm with
  | start mode source hs => exact .inr (.inl ⟨hs, rfl, List.length_append⟩)
  | publish k f g hf hp ho => exact .inl ⟨rfl, length_setOutcome⟩
  | fail k f r delivery hf hp hd ho => exact .inl ⟨rfl, length_setOutcome⟩
  | callOff k f hf hp ho => exact .inl ⟨rfl, length_setOutcome⟩
  | clear k f delivery hf hp =>
    by_cases hs : d.slot = some f.attempt
    · refine .inr (.inr ⟨k, f, { f with phase := .answered (.raised delivery.owner) }, delivery,
        hf, hp, hs, ?_, ?_, id, ?_⟩)
      · rw [slot_setCaller, slot_vacate, if_pos hs]
      · exact getElem?_setCaller_self (callers_vacate ▸ hf)
      · rw [attempts_setCaller, attempts_vacate]
    · refine .inl ⟨?_, ?_⟩
      · rw [slot_setCaller, slot_vacate, if_neg hs]
      · rw [attempts_setCaller, attempts_vacate]
  | _ => exact .inl ⟨rfl, rfl⟩

theorem attempts_le (hm : d.Move x e) : d.attempts.length ≤ e.attempts.length := by
  rcases hm.slot_cases with ⟨-, hl⟩ | ⟨-, -, hl⟩ | ⟨k, f, f', delivery, -, -, -, -, -, -, hl⟩ <;>
    omega

theorem sameCall (hm : d.Move x e) (hc : d.callers[i]? = some c) :
    ∃ c' : Caller, e.callers[i]? = some c' ∧ c.SameCall c' := by
  rcases hm.caller hc with h | ⟨-, c', h, hg⟩
  · exact ⟨c, h, .refl c⟩
  · exact ⟨c', h, hg.sameCall⟩

theorem callers_le (hm : d.Move x e) : d.callers.length ≤ e.callers.length := by
  refine Nat.le_of_not_lt fun hlt => ?_
  obtain ⟨c, hc, -⟩ := hm.sameCall (List.getElem?_eq_getElem hlt)
  have hin := (List.getElem?_eq_some_iff.mp hc).1
  omega

/-- An attempt is completed at most once. -/
theorem outcome (hm : d.Move x e) (ha : d.outcome a ≠ .pending) : e.outcome a = d.outcome a := by
  have set : ∀ {b : Nat} {o : Outcome}, d.outcome b = .pending →
      (d.setOutcome b o).outcome a = d.outcome a := by
    intro b o hb
    refine outcome_setOutcome_of_ne ?_
    rintro rfl
    exact ha hb
  cases hm with
  | start mode source hs => exact outcome_append_pending _ _ _
  | publish k f g hf hp ho => exact set ho
  | fail k f r delivery hf hp hd ho => exact set ho
  | callOff k f hf hp ho => exact set ho
  | clear k f delivery hf hp => exact outcome_vacate
  | _ => rfl

end Move

theorem sameCall_after (hc : d.callers[i]? = some c) (xs : List Action) :
    ∃ c' : Caller, (d.after xs).callers[i]? = some c' ∧ c.SameCall c' := by
  refine after_induction (P := fun e => ∃ c' : Caller, e.callers[i]? = some c' ∧ c.SameCall c')
    ⟨c, hc, .refl c⟩ xs ?_ fun _ _ he => he
  rintro x - e e' ⟨f, hf, hsame⟩ hm
  obtain ⟨f', hf', hsame'⟩ := hm.sameCall hf
  exact ⟨f', hf', hsame.trans hsame'⟩

theorem inProgress_of_after (hc : d.callers[i]? = some c) (xs : List Action)
    (hc' : (d.after xs).callers[i]? = some c') (hp : c'.InProgress) : c.InProgress := by
  have hall : ∃ f : Caller, (d.after xs).callers[i]? = some f ∧ (f.InProgress → c.InProgress) := by
    refine after_induction
      (P := fun e => ∃ f : Caller, e.callers[i]? = some f ∧ (f.InProgress → c.InProgress))
      ⟨c, hc, id⟩ xs ?_ fun _ _ he => he
    rintro x - e e' ⟨f, hf, himp⟩ hm
    rcases hm.caller hf with hf' | ⟨-, f', hf', hg⟩
    · exact ⟨f, hf', himp⟩
    · exact ⟨f', hf', fun h => himp (hg.inProgress h)⟩
  obtain ⟨f, hf, himp⟩ := hall
  obtain rfl : c' = f := Option.some.inj (hc'.symm.trans hf)
  exact himp hp

/-- A completed attempt stays as it has ended. -/
theorem outcome_after (ha : d.outcome a ≠ .pending) (xs : List Action) :
    (d.after xs).outcome a = d.outcome a := by
  refine after_induction (P := fun e => e.outcome a = d.outcome a) rfl xs ?_ fun _ _ he => he
  intro x _ e e' he hm
  rw [hm.outcome (by rw [he]; exact ha), he]

end Detector

end ObjectCatalog.Detection
