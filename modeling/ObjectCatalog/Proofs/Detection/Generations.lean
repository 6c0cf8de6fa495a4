import ObjectCatalog.Proofs.Detection.WellFormed

/-! # Generations

A reset begins a new generation: from then on callers come to later attempts only, and the slot
never again holds an earlier one. Until the next reset an owner that is still busy holds the
slot, and all attempts of the generation but the one in the slot have failed.
-/
namespace ObjectCatalog.Detection.Detector

variable {d e : Detector} {n m : Nat} {x : Action}

def fresh (before : List Action) : Detector := empty.after (before ++ [.reset])

def Came (before span : List Action) (i : Nat) : Prop :=
  (fresh before).callers.length ≤ i ∧ i < ((fresh before).after span).callers.length

theorem Came.exists_caller {before span : List Action} {i : Nat} (h : Came before span i) :
    ∃ c : Caller, ((fresh before).after span).callers[i]? = some c :=
  ⟨_, List.getElem?_eq_getElem h.2⟩

theorem slot_fresh (before : List Action) : (fresh before).slot = none := by
  unfold fresh
  rw [after_concat]
  rfl

theorem wellFormed_fresh (before : List Action) : (fresh before).WellFormed :=
  wellFormed_after _

/-- The callers from number `n` on are those that came to the attempts from number `m` on, and
the slot holds no earlier attempt. -/
structure Since (n m : Nat) (d : Detector) : Prop where
  callers_le : n ≤ d.callers.length
  attempts_le : m ≤ d.attempts.length
  slot_ge : ∀ a, d.slot = some a → m ≤ a
  earlier : ∀ (i : Nat) (c : Caller), d.callers[i]? = some c → i < n → c.attempt < m
  later : ∀ (i : Nat) (c : Caller), d.callers[i]? = some c → n ≤ i → m ≤ c.attempt

namespace Since

theorem of_slot (h : d.WellFormed) (hs : d.slot = none) :
    Since d.callers.length d.attempts.length d where
  callers_le := Nat.le_refl _
  attempts_le := Nat.le_refl _
  slot_ge a ha := by
    rw [hs] at ha
    cases ha
  earlier i c hc _ := h.attempt_lt i c hc
  later i c hc hi := by
    have hlt := (List.getElem?_eq_some_iff.mp hc).1
    omega

theorem move (h : d.Since n m) (hm : d.Move x e) : e.Since n m := by
  have hslot : ∀ a, e.slot = some a → m ≤ a := by
    intro a ha
    rcases hm.slot_cases with ⟨hs, -⟩ | ⟨-, hs, -⟩ | ⟨k, f, f', delivery, -, -, -, hs, -⟩
    · rw [hs] at ha
      exact h.slot_ge a ha
    · rw [hs] at ha
      cases ha
      exact h.attempts_le
    · rw [hs] at ha
      cases ha
  refine ⟨?_, ?_, hslot, ?_, ?_⟩
  · exact Nat.le_trans h.callers_le hm.callers_le
  · exact Nat.le_trans h.attempts_le hm.attempts_le
  · intro i c' hc hi
    rcases hm.caller_back hc with ⟨c, hc, rfl | hg⟩ | ⟨rfl, -⟩
    · exact h.earlier i c' hc hi
    · rw [hg.sameCall.attempt]
      exact h.earlier i c hc hi
    · have := h.callers_le
      omega
  · intro i c' hc hi
    rcases hm.caller_back hc with ⟨c, hc, rfl | hg⟩ | ⟨-, hs, -⟩
    · exact h.later i c' hc hi
    · rw [hg.sameCall.attempt]
      exact h.later i c hc hi
    · exact hslot _ hs

theorem clearSlot (h : d.Since n m) : ({ d with slot := none } : Detector).Since n m :=
  ⟨h.callers_le, h.attempts_le, fun _ hs => (by cases hs), h.earlier, h.later⟩

theorem after (h : d.Since n m) (xs : List Action) : (d.after xs).Since n m :=
  after_induction h xs (fun _ _ _ _ he hm => he.move hm) fun _ _ he => he.clearSlot

end Since

/-- Until the next reset, the slot stays with the attempt of a busy owner, and gives up only
attempts that have failed. -/
structure Flight (n m : Nat) (d : Detector) : Prop where
  busy : ∀ (i : Nat) (c : Caller), d.callers[i]? = some c → n ≤ i → c.Busy →
    d.slot = some c.attempt
  failed : ∀ a, m ≤ a → a < d.attempts.length → d.slot ≠ some a → ∃ r, d.outcome a = .failed r

namespace Flight

theorem of_slot (d : Detector) : Flight d.callers.length d.attempts.length d where
  busy i c hc hi := by
    have hlt := (List.getElem?_eq_some_iff.mp hc).1
    omega
  failed a ha hlt := by omega

theorem slot_of_move (h : d.Flight n m) (hd : d.WellFormed) (hm : d.Move x e) {i : Nat}
    {c' : Caller} (hc : e.callers[i]? = some c') (hi : n ≤ i) (hb : c'.Busy) :
    e.slot = some c'.attempt := by
  -- A busy caller is a busy one from before, unless it has just claimed the slot.
  rcases hm.caller_back hc with ⟨c, hc', hcase⟩ | ⟨-, hs, -⟩
  · have hbusy : c.Busy := by
      rcases hcase with rfl | hg
      · exact hb
      · exact hg.busy hb
    have hatt : c'.attempt = c.attempt := by
      rcases hcase with rfl | hg
      · rfl
      · exact hg.sameCall.attempt
    have hslot := h.busy i c hc' hi hbusy
    rw [hatt]
    rcases hm.slot_cases with ⟨hs, -⟩ | ⟨hs, -⟩ | ⟨k, f, f', delivery, hf, hp, hs, -, hf', hnb, -⟩
    · rw [hs]
      exact hslot
    · rw [hs] at hslot
      cases hslot
    · obtain rfl := hd.eq_of_busy hc' hf hbusy (Caller.busy_of_clearing hp)
        (Option.some.inj (hslot.symm.trans hs))
      obtain rfl : c' = f' := Option.some.inj (hc.symm.trans hf')
      exact absurd hb hnb
  · exact hs

theorem failed_of_move (h : d.Flight n m) (hd : d.WellFormed) (hm : d.Move x e) {a : Nat}
    (ha : m ≤ a) (hlt : a < e.attempts.length) (hne : e.slot ≠ some a) :
    ∃ r, e.outcome a = .failed r := by
  have hfailed : ∃ r, d.outcome a = .failed r := by
    rcases hm.slot_cases with ⟨hs, hl⟩ | ⟨hs, hs', hl⟩ |
      ⟨k, f, f', delivery, hf, hp, hs, hs', -, -, hl⟩
    · exact h.failed a ha (hl ▸ hlt) (hs ▸ hne)
    · have hnew : a ≠ d.attempts.length := by
        rintro rfl
        exact hne hs'
      refine h.failed a ha (by omega) ?_
      rw [hs]
      exact fun hn => by cases hn
    · by_cases hatt : a = f.attempt
      · rw [hatt]
        exact ⟨_, (hd.valid k f hf).clearing delivery hp⟩
      · refine h.failed a ha (hl ▸ hlt) ?_
        rw [hs]
        exact fun heq => hatt (Option.some.inj heq).symm
  obtain ⟨r, hr⟩ := hfailed
  refine ⟨r, ?_⟩
  rw [hm.outcome (by rw [hr]; intro hn; cases hn), hr]

theorem move (h : d.Flight n m) (hd : d.WellFormed) (hm : d.Move x e) : e.Flight n m where
  busy _ _ hc hi hb := h.slot_of_move hd hm hc hi hb
  failed _ ha hlt hne := h.failed_of_move hd hm ha hlt hne

theorem after (h : d.Flight n m) (hd : d.WellFormed) {xs : List Action} (hx : .reset ∉ xs) :
    (d.after xs).Flight n m :=
  hd.induction h xs (fun _ _ _ _ hw he hm => he.move hw hm) fun hr => absurd hr hx

end Flight

theorem since_fresh (before : List Action) :
    (fresh before).Since (fresh before).callers.length (fresh before).attempts.length :=
  .of_slot (wellFormed_fresh before) (slot_fresh before)

theorem flight_fresh (before : List Action) {span : List Action} (hspan : .reset ∉ span) :
    ((fresh before).after span).Flight (fresh before).callers.length
      (fresh before).attempts.length :=
  (Flight.of_slot _).after (wellFormed_fresh before) hspan

end ObjectCatalog.Detection.Detector
