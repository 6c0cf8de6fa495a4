import ObjectCatalog.Detection.Probe

/-! # How a probe can end

A plan is carried out one access at a time, and in a task the cancellation of the caller may
stand in for the end of any access. A plan is strict if it never makes good a failed access:
the only success a strict plan can end with is the one it has when nothing interrupts it.
-/
namespace ObjectCatalog.Detection

namespace Plan

variable {α β : Type}

def Fails : Plan α → Prop
  | .done outcome => ∃ r, outcome = .error r
  | .report _ rest => rest.Fails
  | .access _ next => ∀ ending, (next ending).Fails

/-- After an access that failed, this plan ends with a failure. -/
def Strict : Plan α → Prop
  | .done _ => True
  | .report _ rest => rest.Strict
  | .access _ next => (∀ r, (next (.error r)).Fails) ∧ ∀ ending, (next ending).Strict

def CanEnd (ends : Point → Except Raised Unit) (cut : Option Raised) :
    Plan α → Except Raised α → Prop
  | .done outcome, found => outcome = found
  | .report _ rest, found => rest.CanEnd ends cut found
  | .access point next, found =>
    (next (ends point)).CanEnd ends cut found ∨
      ∃ r, cut = some r ∧ (next (.error r)).CanEnd ends cut found

theorem Fails.after {p : Plan α} {next : Except Raised α → Plan β} (hp : p.Fails)
    (hn : ∀ r, (next (.error r)).Fails) : (p.after next).Fails := by
  induction p with
  | done outcome =>
    obtain ⟨r, rfl⟩ := hp
    exact hn r
  | report event rest ih => exact ih hp
  | access point rest ih =>
    intro ending
    exact ih ending (hp ending)

theorem Fails.always {p : Plan α} {next : Except Raised α → Plan β}
    (hn : ∀ outcome, (next outcome).Fails) : (p.after next).Fails := by
  induction p with
  | done outcome => exact hn outcome
  | report event rest ih => exact ih
  | access point rest ih =>
    intro ending
    exact ih ending

theorem Strict.after {p : Plan α} {next : Except Raised α → Plan β} (hp : p.Strict)
    (hf : ∀ r, (next (.error r)).Fails) (hn : ∀ outcome, (next outcome).Strict) :
    (p.after next).Strict := by
  induction p with
  | done outcome => exact hn outcome
  | report event rest ih => exact ih hp
  | access point rest ih =>
    constructor
    · intro r
      exact (hp.1 r).after hf
    · intro ending
      exact ih ending (hp.2 ending)

theorem Strict.andThen {p : Plan α} {next : α → Plan β} (hp : p.Strict)
    (hn : ∀ a, (next a).Strict) : (p.andThen next).Strict := by
  refine hp.after (fun r => ⟨r, rfl⟩) ?_
  intro outcome
  cases outcome with
  | ok a => exact hn a
  | error r => trivial

theorem Strict.andFinally {p : Plan α} {last : Plan Unit} (hp : p.Strict) (hl : last.Strict) :
    (p.andFinally last).Strict := by
  refine hp.after ?_ ?_
  · intro r
    -- The last accesses may fail or not: a failure is left in either case.
    refine Fails.always ?_
    intro outcome
    cases outcome with
    | ok _ => exact ⟨r, rfl⟩
    | error s => exact ⟨s, rfl⟩
  · intro outcome
    exact hl.andThen fun _ => trivial

theorem strict_touch (mode : Mode) (point : Point) : (touch mode point).Strict :=
  ⟨fun r => ⟨mode.passOn r, rfl⟩, fun _ => trivial⟩

theorem Fails.not_canEnd_ok {p : Plan α} (hp : p.Fails) {ends : Point → Except Raised Unit}
    {cut : Option Raised} {a : α} : ¬ p.CanEnd ends cut (.ok a) := by
  induction p with
  | done outcome =>
    obtain ⟨r, rfl⟩ := hp
    intro h
    cases h
  | report event rest ih => exact ih hp
  | access point next ih =>
    rintro (h | ⟨r, -, h⟩)
    · exact ih _ (hp _) h
    · exact ih _ (hp _) h

/-- A strict plan cannot be cut short and succeed: its success is the one of a whole visit. -/
theorem Strict.visit_of_canEnd {p : Plan α} (hp : p.Strict)
    {ends : Point → Except Raised Unit} {cut : Option Raised} {a : α}
    (h : p.CanEnd ends cut (.ok a)) : (p.visit ends).outcome = .ok a := by
  induction p with
  | done outcome => exact h
  | report event rest ih => exact ih hp h
  | access point next ih =>
    rcases h with h | ⟨r, -, h⟩
    · exact ih _ (hp.2 _) h
    · exact absurd h (hp.1 r).not_canEnd_ok

end Plan

namespace Source

open Plan

theorem strict_inspectSchema (s : Source) (mode : Mode) : (s.inspectSchema mode).Strict := by
  refine (strict_touch mode _).andThen fun _ => ?_
  have inspected : ((touch mode .inspect).andThen fun () => touch mode .hasSchema).Strict :=
    (strict_touch mode _).andThen fun _ => strict_touch mode _
  cases s.inTransaction with
  | true => exact inspected.andThen fun _ => trivial
  | false => exact (inspected.andFinally (strict_touch mode _)).andThen fun _ => trivial

theorem strict_select (s : Source) (mode : Mode) (product : Value) :
    (s.select mode product).Strict := by
  unfold select
  split
  · split
    · trivial
    · split
      · exact s.strict_inspectSchema mode
      · trivial
  · trivial

theorem strict_read (s : Source) (mode : Mode) : (s.read mode).Strict := by
  refine (strict_touch mode _).andThen fun _ => ?_
  cases lowerProduct s.product with
  | error r => trivial
  | ok product => exact s.strict_select mode product

theorem strict_readOpen (s : Source) (mode : Mode) : (s.readOpen mode).Strict := by
  refine Strict.andThen ?_ fun _ => Strict.andThen ?_ fun _ => s.strict_read mode
  · cases mode with
    | blocking => trivial
    | coroutine => exact strict_touch _ _
  · cases s.gated with
    | true => exact strict_touch mode _
    | false => trivial

theorem strict_probe (s : Source) (mode : Mode) : (s.probe mode).Strict := by
  unfold probe
  cases s.engine with
  | true =>
    exact (strict_touch mode _).andThen fun _ =>
      (s.strict_readOpen mode).andFinally (strict_touch mode _)
  | false => exact s.strict_readOpen mode

/-- The dialect that a probe of this source selects if nothing interrupts it. -/
def Selects (s : Source) (mode : Mode) (family : Family) : Prop :=
  ((s.probe mode).visit s.ends).outcome = .ok family

theorem selects_of_canEnd {s : Source} {mode : Mode} {cut : Option Raised} {family : Family}
    (h : (s.probe mode).CanEnd s.ends cut (.ok family)) : s.Selects mode family :=
  (s.strict_probe mode).visit_of_canEnd h

def reporting (product : String) : Source :=
  ⟨false, .text product, false, false, false, fun _ => none⟩

def raising (r : Raised) : Source :=
  ⟨false, .null, false, false, false, fun _ => some r⟩

end Source

end ObjectCatalog.Detection
