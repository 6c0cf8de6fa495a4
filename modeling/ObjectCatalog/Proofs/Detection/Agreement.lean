import ObjectCatalog.Proofs.Detection.Agree
import ObjectCatalog.Proofs.Detection.Generations

/-! # Agreement within a generation, and none needed between generations

Callers of one generation that get a dialect have it from one attempt, the only one that has not
failed. What earlier generations still do can be left out of a run: those that came later do not
notice.
-/
namespace ObjectCatalog.Detection

def Action.isFrom (n : Nat) : Action → Bool
  | .advance i | .cancel i => n ≤ i
  | .claim .. | .reset => true

namespace Detector

variable {d e : Detector} {n m i j : Nat} {c c' : Caller} {f g : Family}

theorem attempt_of_came {before span : List Action} (later : List Action)
    (hi : Came before span i)
    (hc : (((fresh before).after span).after later).callers[i]? = some c) :
    (fresh before).attempts.length ≤ c.attempt ∧
      c.attempt < ((fresh before).after span).attempts.length := by
  obtain ⟨c₁, hc₁⟩ := hi.exists_caller
  obtain ⟨c₂, hc₂, hsame⟩ := sameCall_after hc₁ later
  obtain rfl : c = c₂ := Option.some.inj (hc.symm.trans hc₂)
  rw [hsame.attempt]
  exact ⟨((since_fresh before).after span).later i c₁ hc₁ hi.1,
    ((wellFormed_fresh before).after span).attempt_lt i c₁ hc₁⟩

/-- An attempt of the generation that ends with a dialect was in the slot at the generation's
end. -/
theorem slot_of_resolved {before span : List Action} (hspan : .reset ∉ span) (later : List Action)
    {a : Nat} (ha : (fresh before).attempts.length ≤ a)
    (hlt : a < ((fresh before).after span).attempts.length)
    (ho : (((fresh before).after span).after later).outcome a = .resolved f) :
    ((fresh before).after span).slot = some a := by
  by_cases hs : ((fresh before).after span).slot = some a
  · exact hs
  · obtain ⟨r, hr⟩ := (flight_fresh before hspan).failed a ha hlt hs
    have hdone : ((fresh before).after span).outcome a ≠ .pending := by
      rw [hr]
      intro hn
      cases hn
    rw [outcome_after hdone later, hr] at ho
    cases ho

theorem owner_came {before span : List Action} (later : List Action) {a : Nat}
    (ha : (fresh before).attempts.length ≤ a)
    (hlt : a < ((fresh before).after span).attempts.length) :
    ∃ (k : Nat) (o : Caller), Came before span k ∧
      (((fresh before).after span).after later).callers[k]? = some o ∧ o.owns = true ∧
      o.attempt = a := by
  obtain ⟨k, o, ho, hown, hatt⟩ := ((wellFormed_fresh before).after span).owner a hlt
  obtain ⟨o', ho', hsame⟩ := sameCall_after ho later
  refine ⟨k, o', ⟨?_, (List.getElem?_eq_some_iff.mp ho).1⟩, ho', hsame.owns.trans hown,
    hsame.attempt.trans hatt⟩
  refine Nat.le_of_not_lt fun hk => ?_
  have hearlier := ((since_fresh before).after span).earlier k o ho hk
  omega

/-- Detectors that agree on a generation still do after a run, if the actions of earlier callers
are left out on one side. -/
theorem Agree.filter (h : Agree (m ≤ ·) (n ≤ ·) d e) (hd : d.Since n m) (xs : List Action) :
    Agree (m ≤ ·) (n ≤ ·) (d.after xs) (e.after (xs.filter (·.isFrom n))) := by
  induction xs generalizing d e with
  | nil => exact h
  | cons x xs ih =>
    have hnext : (d.act x).1.Since n m := hd.after [x]
    rw [after_cons]
    -- An earlier caller is on an earlier attempt, which is not in the slot.
    have earlier : ∀ {k : Nat} {o : Caller}, ¬ n ≤ k → d.callers[k]? = some o → o.attempt < m :=
      fun hk ho => hd.earlier _ _ ho (by omega)
    cases x with
    | claim mode source => exact ih (h.claim mode source) hnext
    | reset => exact ih h.clearSlot hnext
    | advance k =>
      by_cases hk : n ≤ k
      · rw [List.filter_cons_of_pos (by simpa [Action.isFrom] using hk)]
        exact ih (h.advance hk fun o ho => .inl (hd.later k o ho hk)) hnext
      · rw [List.filter_cons_of_neg (by simpa [Action.isFrom] using hk)]
        refine ih (h.advance_left hk ?_ ?_) hnext
        · intro o ho ha
          have := earlier hk ho
          omega
        · intro o ho _ hs
          have := earlier hk ho
          have := hd.slot_ge _ hs
          omega
    | cancel k =>
      by_cases hk : n ≤ k
      · rw [List.filter_cons_of_pos (by simpa [Action.isFrom] using hk)]
        exact ih (h.cancel hk fun o ho => .inl (hd.later k o ho hk)) hnext
      · rw [List.filter_cons_of_neg (by simpa [Action.isFrom] using hk)]
        refine ih (h.cancel_left hk ?_) hnext
        intro o ho ha
        have := earlier hk ho
        omega

/-- Callers that come between the same two resets and get a dialect get it from the same attempt,
and it is what the probe of the attempt's owner selects. Whatever callers from before the first
reset still do, those that come after it are not affected, and neither is the slot. -/
theorem generations_apart (before span : List Action) (hspan : .reset ∉ span) :
    (∀ (later : List Action) (i j : Nat) (c c' : Caller) (f g : Family), Came before span i →
      Came before span j → (((fresh before).after span).after later).callers[i]? = some c →
      (((fresh before).after span).after later).callers[j]? = some c' →
      c.phase = .answered (.resolved f) → c'.phase = .answered (.resolved g) →
      f = g ∧ c.attempt = c'.attempt ∧ ∃ (k : Nat) (o : Caller), Came before span k ∧
        (((fresh before).after span).after later).callers[k]? = some o ∧ o.owns = true ∧
        o.attempt = c.attempt ∧ o.source.Selects o.mode f) ∧
    ∀ run : List Action,
      let mixed := (fresh before).after run
      let alone := (fresh before).after (run.filter (·.isFrom (fresh before).callers.length))
      mixed.slot = alone.slot ∧ mixed.resolved = alone.resolved ∧
        mixed.callers.length = alone.callers.length ∧
        (∀ a, (fresh before).attempts.length ≤ a → mixed.outcome a = alone.outcome a) ∧
        ∀ i, (fresh before).callers.length ≤ i → mixed.callers[i]? = alone.callers[i]? := by
  constructor
  · intro later i j c c' f g hi hj hc hc' hf hg
    have hwf := ((wellFormed_fresh before).after span).after later
    have hout := (hwf.valid i c hc).resolved f hf
    have hout' := (hwf.valid j c' hc').resolved g hg
    obtain ⟨ha, hlt⟩ := attempt_of_came later hi hc
    obtain ⟨ha', hlt'⟩ := attempt_of_came later hj hc'
    have hs := slot_of_resolved hspan later ha hlt hout
    have hs' := slot_of_resolved hspan later ha' hlt' hout'
    have hatt : c.attempt = c'.attempt := Option.some.inj (hs.symm.trans hs')
    refine ⟨?_, hatt, ?_⟩
    · rw [← hatt, hout] at hout'
      cases hout'
      rfl
    · obtain ⟨k, o, hk, ho, hown, heq⟩ := owner_came later ha hlt
      exact ⟨k, o, hk, ho, hown, heq, (hwf.valid k o ho).published hown f (heq ▸ hout)⟩
  · intro run mixed alone
    have hsince := since_fresh before
    have h := (Agree.refl (fresh before)).filter hsince run
    exact ⟨h.slot, h.resolved (hsince.after run).slot_ge, h.callers, h.outcome, h.caller⟩

/-- An owner from before the reset has begun a probe of another dialect. -/
def overtaken : List Action := [.claim .blocking (.reporting "mysql")]

def agreedSpan : List Action :=
  [.claim .blocking (.reporting "sqlite"), .claim .coroutine (.reporting "mysql"), .advance 1,
    .advance 1, .advance 1, .advance 1, .advance 1, .advance 2]

/-- The overtaken owner ends its probe last. -/
def lateEnding : List Action := [.advance 0, .advance 0, .advance 0, .advance 0, .advance 0]

theorem generations_apart_late_ending :
    Action.reset ∉ agreedSpan ∧
      (∃ (k : Nat) (o : Caller), Came overtaken agreedSpan k ∧
        (((fresh overtaken).after agreedSpan).after lateEnding).callers[k]? = some o ∧
        o.owns = true ∧ o.attempt = 1 ∧ o.source.Selects o.mode .sqlite) ∧
      ((fresh overtaken).after (agreedSpan ++ lateEnding)).slot = some 1 ∧
      ((fresh overtaken).after (agreedSpan ++ lateEnding)).resolved = .ok (some .sqlite) := by
  have hspan : Action.reset ∉ agreedSpan := by simp [agreedSpan]
  obtain ⟨hagree, hapart⟩ := generations_apart overtaken agreedSpan hspan
  refine ⟨hspan, ?_, ?_⟩
  · have h₁ : Came overtaken agreedSpan 1 := ⟨Nat.le_refl 1, by decide⟩
    have h₂ : Came overtaken agreedSpan 2 := ⟨by decide, by decide⟩
    obtain ⟨c, hc, hf, hatt⟩ : ∃ c : Caller,
        (((fresh overtaken).after agreedSpan).after lateEnding).callers[1]? = some c ∧
          c.phase = .answered (.resolved .sqlite) ∧ c.attempt = 1 := ⟨_, rfl, rfl, rfl⟩
    obtain ⟨c', hc', hf'⟩ : ∃ c' : Caller,
        (((fresh overtaken).after agreedSpan).after lateEnding).callers[2]? = some c' ∧
          c'.phase = .answered (.resolved .sqlite) := ⟨_, rfl, rfl⟩
    have howner := (hagree lateEnding 1 2 c c' _ _ h₁ h₂ hc hc' hf hf').2.2
    rw [hatt] at howner
    exact howner
  · obtain ⟨hslot, hres, -⟩ := hapart (agreedSpan ++ lateEnding)
    exact ⟨hslot.trans rfl, hres.trans rfl⟩

end Detector

end ObjectCatalog.Detection
