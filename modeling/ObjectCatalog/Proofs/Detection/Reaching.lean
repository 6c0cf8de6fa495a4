import ObjectCatalog.Proofs.Detection.Moves

/-! # Bringing a probe to its end

Every ending that the probe of a caller can still have is one that some actions of this caller
bring about, whatever else the detector holds.
-/
namespace ObjectCatalog.Detection

namespace Detector

variable {d : Detector} {i : Nat} {c c' : Caller} {found : Except Raised Family}

def Reaches (i : Nat) (c c' : Caller) : Prop :=
  ∃ xs : List Action, ∀ d : Detector, d.callers[i]? = some c → d.after xs = d.setCaller i c'

theorem Reaches.refl (i : Nat) (c : Caller) : Reaches i c c := by
  refine ⟨[], fun d hc => ?_⟩
  obtain ⟨hi, hc⟩ := List.getElem?_eq_some_iff.mp hc
  simp only [after_nil, setCaller, ← hc, List.set_getElem_self]

theorem Reaches.trans {c'' : Caller} (h : Reaches i c c') (h' : Reaches i c' c'') :
    Reaches i c c'' := by
  obtain ⟨xs, hxs⟩ := h
  obtain ⟨ys, hys⟩ := h'
  refine ⟨xs ++ ys, fun d hc => ?_⟩
  have hc' : (d.setCaller i c').callers[i]? = some c' := getElem?_setCaller_self hc
  rw [after_append, hxs d hc, hys _ hc']
  simp only [setCaller, List.set_set]

theorem reaches_of_works (h : c.Works c') (i : Nat) : Reaches i c c' := by
  cases h with
  | report event rest h =>
    refine ⟨[.advance i], fun d hc => ?_⟩
    simp only [after_cons, after_nil, act, advance, hc, h]
  | start point next h =>
    refine ⟨[.advance i], fun d hc => ?_⟩
    simp only [after_cons, after_nil, act, advance, hc, h]
  | finish point next h ending he =>
    rcases he with rfl | ⟨r, hr, rfl⟩
    · refine ⟨[.advance i], fun d hc => ?_⟩
      simp only [after_cons, after_nil, act, advance, hc, h]
    · refine ⟨[.cancel i], fun d hc => ?_⟩
      unfold Caller.cut at hr
      cases hm : c.mode with
      | blocking =>
        rw [hm] at hr
        cases hr
      | coroutine =>
        rw [hm] at hr
        cases hr
        simp only [after_cons, after_nil, act, cancel, hc, h, hm]

theorem reaches_of_access {point : Point} {next : Except Raised Unit → Plan Family}
    (hp : c.phase = .accessing point next)
    (h : (Plan.access point next).CanEnd c.source.ends c.cut found)
    (hn : ∀ (ending : Except Raised Unit) (c : Caller), c.phase = .probing (next ending) →
      (next ending).CanEnd c.source.ends c.cut found →
      ∃ trace, Reaches i c { c with phase := .probing (.done found), trace }) :
    ∃ trace, Reaches i c { c with phase := .probing (.done found), trace } := by
  have go : ∀ ending, (ending = c.source.ends point ∨ ∃ r, c.cut = some r ∧ ending = .error r) →
      (next ending).CanEnd c.source.ends c.cut found →
      ∃ trace, Reaches i c { c with phase := .probing (.done found), trace } := by
    intro ending he hend
    have hfinish : Reaches i c { c with phase := .probing (next ending) } :=
      reaches_of_works (.finish point next hp ending he) i
    obtain ⟨trace, hr⟩ := hn ending { c with phase := .probing (next ending) } rfl hend
    exact ⟨trace, hfinish.trans hr⟩
  rcases h with h | ⟨r, hcut, h⟩
  · exact go _ (.inl rfl) h
  · exact go _ (.inr ⟨r, hcut, rfl⟩) h

theorem reaches_of_probing (p : Plan Family) (c : Caller) (hp : c.phase = .probing p)
    (h : p.CanEnd c.source.ends c.cut found) :
    ∃ trace, Reaches i c { c with phase := .probing (.done found), trace } := by
  induction p generalizing c with
  | done outcome =>
    obtain rfl : outcome = found := h
    have heq : ({ c with phase := .probing (.done outcome) } : Caller) = c := by rw [← hp]
    exact ⟨c.trace, heq ▸ Reaches.refl i c⟩
  | report event rest ih =>
    obtain ⟨trace, hr⟩ := ih { c with phase := .probing rest } rfl h
    exact ⟨trace, (reaches_of_works (.report event rest hp) i).trans hr⟩
  | access point next ih =>
    have hstart := reaches_of_works (.start point next hp) i
    obtain ⟨trace, hr⟩ := reaches_of_access (i := i)
      (c := { c with phase := .accessing point next, trace := c.trace ++ [point] }) rfl h ih
    exact ⟨trace, hstart.trans hr⟩

theorem reaches_of_canEnd (i : Nat) (h : c.CanEnd found) :
    ∃ trace, Reaches i c { c with phase := .probing (.done found), trace } := by
  unfold Caller.CanEnd at h
  split at h
  · rename_i rest hp
    exact reaches_of_probing rest c hp h
  · rename_i point next hp
    exact reaches_of_access hp h fun ending => reaches_of_probing (next ending)
  · exact h.elim

end Detector

end ObjectCatalog.Detection
