import ObjectCatalog.Proofs.Detection.Visits

/-! # A probe leaves its source in order

A connection that a probe has opened is closed, and a transaction that an inspection has begun is
rolled back, whichever accesses fail; connections and transactions of others are left alone.
-/
namespace ObjectCatalog.Detection.Source

variable {s : Source} {trace : List Point}

def Passed (s : Source) (trace : List Point) (point : Point) : Prop :=
  point ∈ trace ∧ s.fails point = none

def inspectionPoints : List Point := [.inTransaction, .inspect, .hasSchema, .rollback]

/-- The transaction that an inspection begins is rolled back once, right after the inspection, and
no other is. -/
structure Restores (s : Source) (trace : List Point) : Prop where
  rolledBack : .rollback ∈ trace ↔ s.productName? = some "postgresql" ∧
    s.Passed trace .inTransaction ∧ s.inTransaction = false
  once : trace.count .rollback ≤ 1
  directly : .rollback ∈ trace →
    ∃ before after, trace = before ++ s.inspection ++ .rollback :: after
  untouched : s.productName? ≠ some "postgresql" → ∀ point ∈ trace, point ∉ inspectionPoints

/-- The connection to an engine is closed once it is open, as the last thing, and no other is. -/
structure Hygienic (s : Source) (trace : List Point) : Prop extends s.Restores trace where
  closed : s.engine = true → s.Passed trace .connect →
    trace.count .close = 1 ∧ trace.getLast? = some .close
  kept : s.engine = false → .close ∉ trace

namespace Restores

theorem nil (s : Source) : s.Restores [] where
  rolledBack := by simp [Passed]
  once := Nat.zero_le _
  directly h := absurd h List.not_mem_nil
  untouched _ _ h := absurd h List.not_mem_nil

theorem inspecting (h : s.productName? = some "postgresql") : s.Restores s.inspecting where
  rolledBack := by
    unfold Source.inspecting inspection Passed
    cases s.fails .inTransaction <;> cases s.fails .inspect <;> cases s.inTransaction <;> simp [h]
  once := by
    unfold Source.inspecting inspection
    cases s.fails .inTransaction <;> cases s.fails .inspect <;> cases s.inTransaction <;> simp
  directly hr := by
    refine ⟨[.inTransaction], [], ?_⟩
    unfold Source.inspecting at hr ⊢
    split at hr
    · rename_i hpassed
      rw [if_pos hpassed]
      cases ht : s.inTransaction with
      | true =>
        -- A transaction of somebody else is left open.
        simp [ht, inspection] at hr
      | false => rfl
    · simp at hr
  untouched hn := absurd h hn

theorem distinguishing (s : Source) : s.Restores s.distinguishing := by
  unfold Source.distinguishing
  split
  · exact inspecting ‹_›
  · exact nil s

/-- Accesses of other kinds can come before and after. -/
theorem between (before after : List Point) (h : s.Restores trace)
    (hb : ∀ point ∈ before, point ∉ inspectionPoints)
    (ha : ∀ point ∈ after, point ∉ inspectionPoints) :
    s.Restores (before ++ trace ++ after) := by
  have mem : ∀ point ∈ inspectionPoints, point ∈ before ++ trace ++ after ↔ point ∈ trace := by
    intro point hp
    rw [List.mem_append, List.mem_append]
    constructor
    · rintro ((h | h) | h)
      · exact absurd hp (hb point h)
      · exact h
      · exact absurd hp (ha point h)
    · exact fun h => .inl (.inr h)
  have hroll : Point.rollback ∈ inspectionPoints := by decide
  refine ⟨?_, ?_, ?_, ?_⟩
  · unfold Passed
    rw [mem _ hroll, mem _ (by decide)]
    exact h.rolledBack
  · rw [List.count_append, List.count_append, List.count_eq_zero.mpr fun hm => hb _ hm hroll,
      List.count_eq_zero.mpr fun hm => ha _ hm hroll, Nat.zero_add]
    exact h.once
  · intro hr
    obtain ⟨early, late, rfl⟩ := h.directly ((mem _ hroll).mp hr)
    exact ⟨before ++ early, late ++ after, by simp⟩
  · intro hn point hp hpoint
    exact h.untouched hn point ((mem point hpoint).mp hp) hpoint

end Restores

theorem Reading.restores (h : s.Reading trace) : s.Restores trace := by
  obtain ⟨before, rest, rfl, hbefore, hrest⟩ := h
  have hr : s.Restores rest := by
    rcases hrest with rfl | rfl
    · exact .nil s
    · exact .distinguishing s
  have hkinds : ∀ point ∈ before, point ∉ inspectionPoints := fun point hp => by
    have := hbefore hp
    revert this
    cases point <;> decide
  simpa using Restores.between before [] hr hkinds (by simp)

theorem close_notMem_distinguishing (s : Source) : .close ∉ s.distinguishing := by
  unfold distinguishing Source.inspecting inspection
  cases s.fails .inTransaction <;> cases s.fails .inspect <;> cases s.inTransaction <;> simp

theorem Reading.close_notMem (h : s.Reading trace) : .close ∉ trace := by
  obtain ⟨before, rest, rfl, hbefore, hrest⟩ := h
  have hearly : Point.close ∉ before := fun hp => absurd (hbefore hp) (by decide)
  have hlate : Point.close ∉ rest := by
    rcases hrest with rfl | rfl
    · exact List.not_mem_nil
    · exact s.close_notMem_distinguishing
  intro h
  exact (List.mem_append.mp h).elim hearly hlate

/-- A whole visit leaves its source in order. -/
theorem hygienic_probe (s : Source) (mode : Mode) :
    s.Hygienic ((s.probe mode).visit s.ends).trace := by
  obtain ⟨reading, hreading, htrace⟩ := s.trace_probe mode
  have hclose : Point.close ∉ reading := hreading.close_notMem
  rw [htrace]
  cases he : s.engine with
  | false =>
    exact { hreading.restores with
      closed := fun h => absurd (he.symm.trans h) (by decide)
      kept := fun _ => hclose }
  | true =>
    have hkept : s.engine ≠ false := fun h => absurd (he.symm.trans h) (by decide)
    simp only [if_true]
    by_cases hc : s.fails .connect = none
    · rw [if_pos hc]
      have hcount : (Point.connect :: (reading ++ [.close])).count .close = 1 := by
        simp [List.count_append, List.count_eq_zero.mpr hclose]
      have hlast : (Point.connect :: (reading ++ [.close])).getLast? = some .close := by
        rw [← List.cons_append, List.getLast?_concat]
      exact { Restores.between [.connect] [.close] hreading.restores (by decide) (by decide) with
        closed := fun _ _ => ⟨hcount, hlast⟩
        kept := fun h => absurd h hkept }
    · rw [if_neg hc]
      exact { Restores.between [.connect] [] (.nil s) (by decide) (by decide) with
        closed := fun _ h => absurd h.2 hc
        kept := fun h => absurd h hkept }

end ObjectCatalog.Detection.Source
