import ObjectCatalog.Proofs.Detection.Generations

/-! # One probe at a time

Between two resets a new probe starts only when the slot is empty. A busy owner holds the slot,
and so does one whose probe has found the dialect: nothing but a failure or a reset takes its
attempt out of the slot again.
-/
namespace ObjectCatalog.Detection

def Caller.Succeeded (c : Caller) : Prop := ∃ f, c.phase = .probing (.done (.ok f))

def Caller.Through (c : Caller) : Prop :=
  match c.phase with
  | .probing (.done (.ok _)) | .awaiting | .answered _ => True
  | _ => False

theorem Caller.Succeeded.through {c : Caller} (h : c.Succeeded) : c.Through := by
  obtain ⟨f, hf⟩ := h
  simp [Through, hf]

theorem Caller.Goes.through {o : Outcome} {q : Prop} {c c' : Caller} (h : c.Goes o q c')
    (ht : c.Through) : c'.Through := by
  cases h with
  | work h => cases h <;> simp_all [Through]
  | fail r delivery h hd ho => simp [Through, h] at ht
  | clear delivery h => trivial
  | publish f h ho => trivial
  | raise found r h hf => trivial
  | take answer h ho => trivial
  | leave h hx => trivial

namespace Detector

variable {d e : Detector} {a i : Nat} {x : Action}

/-- With this action the probe of a caller starts: the caller comes, and owns its attempt. -/
def Starts (d : Detector) (x : Action) (i : Nat) : Prop :=
  d.callers.length ≤ i ∧ ∃ c : Caller, (d.act x).1.callers[i]? = some c ∧ c.owns = true

theorem Starts.slot (h : d.Starts x i) : d.slot = none := by
  obtain ⟨hi, c, hc, hown⟩ := h
  have hnew : d.callers[i]? = none := List.getElem?_eq_none hi
  rcases d.act_cases x with rfl | hx | hm
  · exact absurd (hc.symm.trans hnew) (Option.some_ne_none c)
  · rw [hx, hnew] at hc
    cases hc
  · rcases hm.caller_back hc with ⟨c', hc', -⟩ | ⟨-, -, ⟨hn, -⟩ | ⟨hs, -⟩⟩
    · rw [hnew] at hc'
      cases hc'
    · rw [hown] at hn
      cases hn
    · exact hs

/-- The slot holds an attempt whose owner will not clear it. -/
structure Held (a : Nat) (d : Detector) : Prop where
  slot : d.slot = some a
  owner : ∃ (i : Nat) (c : Caller), d.callers[i]? = some c ∧ c.owns = true ∧ c.attempt = a ∧
    c.Through

theorem Held.move (h : d.Held a) (hd : d.WellFormed) (hm : d.Move x e) : e.Held a := by
  obtain ⟨i, c, hc, hown, hatt, ht⟩ := h.owner
  constructor
  · rcases hm.slot_cases with ⟨hs, -⟩ | ⟨hs, -⟩ | ⟨k, f, f', delivery, hf, hp, hs, -⟩
    · rw [hs]
      exact h.slot
    · rw [h.slot] at hs
      cases hs
    · -- Who clears the slot would own the attempt, and is not through.
      have hown' := hd.owns_of_busy hf (Caller.busy_of_clearing hp)
      have heq : c.attempt = f.attempt := hatt.trans (Option.some.inj (h.slot.symm.trans hs))
      obtain rfl := hd.owner_unique i k c f hc hf hown hown' heq
      obtain rfl : c = f := Option.some.inj (hc.symm.trans hf)
      simp [Caller.Through, hp] at ht
  · rcases hm.caller hc with hc' | ⟨-, c', hc', hg⟩
    · exact ⟨i, c, hc', hown, hatt, ht⟩
    · exact ⟨i, c', hc', hg.sameCall.owns.trans hown, hg.sameCall.attempt.trans hatt,
        hg.through ht⟩

theorem Held.after (h : d.Held a) (hd : d.WellFormed) {xs : List Action} (hx : .reset ∉ xs) :
    (d.after xs).Held a :=
  hd.induction h xs (fun _ _ _ _ hw he hm => he.move hw hm) fun hr => absurd hr hx

theorem trace_of_slot (hd : d.WellFormed) (hs : d.slot = some a) (mode : Mode) (source : Source)
    (later : List Action) {c : Caller}
    (hc : (d.after (.claim mode source :: later)).callers[d.callers.length]? = some c) :
    c.trace = [] := by
  let waiter : Caller := ⟨mode, source, a, false, .awaiting, []⟩
  have hact : (d.act (.claim mode source)).1 = d.join waiter := by
    simp only [act, claim, hs, waiter]
  have hjoin : (d.join waiter).callers[d.callers.length]? = some waiter := getElem?_join_self
  rw [after_cons, hact] at hc
  obtain ⟨c', hc', hsame⟩ := sameCall_after hjoin later
  obtain rfl : c = c' := Option.some.inj (hc.symm.trans hc')
  have hwf : ((d.join waiter).after later).WellFormed := (hd.wait hs mode source).after later
  exact (hwf.valid _ c hc).untouched hsame.owns

/-- Of the callers that have come since a reset, at most one is ever at its probe, also if the slot
is reset again later. -/
theorem eq_of_inProgress {before span : List Action} (hspan : .reset ∉ span)
    (later : List Action) {i j : Nat} {c c' : Caller} (hi : Came before span i)
    (hj : Came before span j)
    (hc : (((fresh before).after span).after later).callers[i]? = some c)
    (hc' : (((fresh before).after span).after later).callers[j]? = some c')
    (hp : c.InProgress) (hp' : c'.InProgress) : i = j := by
  have hwf : ((fresh before).after span).WellFormed := (wellFormed_fresh before).after span
  have hflight := flight_fresh before hspan
  obtain ⟨f, hf⟩ := hi.exists_caller
  obtain ⟨g, hg⟩ := hj.exists_caller
  have hbf : f.Busy := (inProgress_of_after hf later hc hp).busy
  have hbg : g.Busy := (inProgress_of_after hg later hc' hp').busy
  have hsf := hflight.busy i f hf hi.1 hbf
  have hsg := hflight.busy j g hg hj.1 hbg
  exact hwf.eq_of_busy hf hg hbf hbg (Option.some.inj (hsf.symm.trans hsg))

theorem slot_of_inProgress {before span : List Action} (hspan : .reset ∉ span) {i : Nat}
    {c : Caller} (hi : (fresh before).callers.length ≤ i)
    (hc : ((fresh before).after span).callers[i]? = some c) (hp : c.InProgress) :
    ((fresh before).after span).slot = some c.attempt :=
  (flight_fresh before hspan).busy i c hc hi hp.busy

/-- Once a probe of the generation has found the dialect, the slot stays as it is. -/
theorem slot_of_succeeded {before early rest : List Action} (hspan : .reset ∉ early ++ rest)
    {i : Nat} {c : Caller} (hi : (fresh before).callers.length ≤ i)
    (hc : ((fresh before).after early).callers[i]? = some c) (hs : c.Succeeded) :
    ((fresh before).after (early ++ rest)).slot = some c.attempt := by
  have hearly : .reset ∉ early := fun hr => hspan (List.mem_append_left rest hr)
  have hrest : .reset ∉ rest := fun hr => hspan (List.mem_append_right early hr)
  have hwf : ((fresh before).after early).WellFormed := (wellFormed_fresh before).after early
  have hp : c.InProgress := by
    obtain ⟨f, hf⟩ := hs
    simp [Caller.InProgress, hf]
  have hheld : ((fresh before).after early).Held c.attempt :=
    ⟨slot_of_inProgress hearly hi hc hp, i, c, hc, hwf.owns_of_busy hc hp.busy, rfl,
      hs.through⟩
  rw [after_append]
  exact (hheld.after hwf hrest).slot

/-- Among the callers that come between two resets, no two are at their probes at the same time,
later on included; no probe starts while another is going on or after one has found the dialect;
and those that find an attempt in the slot leave their sources alone. -/
theorem single_flight (before span : List Action) (hspan : .reset ∉ span) :
    (∀ (later : List Action) (i j : Nat) (c c' : Caller), Came before span i →
      Came before span j → (((fresh before).after span).after later).callers[i]? = some c →
      (((fresh before).after span).after later).callers[j]? = some c' →
      c.InProgress → c'.InProgress → i = j) ∧
    (∀ (x : Action) (k : Nat), ((fresh before).after span).Starts x k →
      (∀ (i : Nat) (c : Caller), (fresh before).callers.length ≤ i →
        ((fresh before).after span).callers[i]? = some c → ¬ c.InProgress) ∧
      ∀ (early rest : List Action), span = early ++ rest → ∀ (i : Nat) (c : Caller),
        (fresh before).callers.length ≤ i →
        ((fresh before).after early).callers[i]? = some c → ¬ c.Succeeded) ∧
    ∀ (mode : Mode) (source : Source) (a : Nat), ((fresh before).after span).slot = some a →
      ∀ (later : List Action) (c : Caller),
        (((fresh before).after span).after (.claim mode source :: later)).callers[
          ((fresh before).after span).callers.length]? = some c → c.trace = [] := by
  refine ⟨?_, ?_, ?_⟩
  · intro later i j c c' hi hj hc hc' hp hp'
    exact eq_of_inProgress hspan later hi hj hc hc' hp hp'
  · intro x k hx
    constructor
    · intro i c hi hc hp
      have hs := slot_of_inProgress hspan hi hc hp
      rw [hx.slot] at hs
      cases hs
    · rintro early rest rfl i c hi hc hsucc
      have hs := slot_of_succeeded hspan hi hc hsucc
      rw [hx.slot] at hs
      cases hs
  · intro mode source a hs later c hc
    exact trace_of_slot ((wellFormed_fresh before).after span) hs mode source later hc

/-- A first attempt fails while another caller waits on it. -/
def failedFlight : List Action :=
  [.claim .blocking (.raising (.ofFailure .statement)), .claim .coroutine (.reporting "mysql"),
    .advance 1, .advance 1, .advance 1, .advance 1]

/-- The owner from before the reset is still at its probe when the failed attempt is made anew,
and nobody else is. -/
theorem single_flight_made_anew :
    let before : List Action := [.claim .blocking (.reporting "sqlite")]
    Action.reset ∉ failedFlight ∧
      ((fresh before).after failedFlight).Starts (.claim .blocking (.reporting "mysql")) 3 ∧
      (∀ (i : Nat) (c : Caller), 1 ≤ i →
        ((fresh before).after failedFlight).callers[i]? = some c → ¬ c.InProgress) ∧
      (∀ (j : Nat) (c : Caller), Came before (failedFlight.take 2) j →
        ((fresh before).after (failedFlight.take 2)).callers[j]? = some c → c.InProgress →
        1 = j) ∧
      ∀ c : Caller, ((fresh before).after (failedFlight.take 1 ++
        [.claim .coroutine (.reporting "mysql"), .advance 2])).callers[2]? = some c →
        c.trace = [] := by
  intro before
  have hspan : Action.reset ∉ failedFlight := by simp [failedFlight]
  have hpair : Action.reset ∉ failedFlight.take 2 := fun h => hspan (List.mem_of_mem_take h)
  have hfirst : Action.reset ∉ failedFlight.take 1 := fun h => hspan (List.mem_of_mem_take h)
  have hstart : ((fresh before).after failedFlight).Starts
      (.claim .blocking (.reporting "mysql")) 3 := ⟨Nat.le_refl 3, _, rfl, rfl⟩
  refine ⟨hspan, hstart, ?_, ?_, ?_⟩
  · exact ((single_flight before failedFlight hspan).2.1 _ 3 hstart).1
  · intro j c hj hc hp
    have hcame : Came before (failedFlight.take 2) 1 := ⟨Nat.le_refl 1, by decide⟩
    exact (single_flight before _ hpair).1 [] 1 j _ c hcame hj rfl hc trivial hp
  · intro c hc
    exact (single_flight before _ hfirst).2.2 .coroutine (.reporting "mysql") 1 rfl [.advance 2] c
      hc

end Detector

end ObjectCatalog.Detection
