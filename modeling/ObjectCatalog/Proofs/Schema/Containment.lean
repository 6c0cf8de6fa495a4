import ObjectCatalog.Dialect.Builtin
import ObjectCatalog.Proofs.Schema.Accounts
import ObjectCatalog.Schema.Script

/-! # Driver errors on their way out of a call

Every operation on a connection is answered: it comes to something, or it raises a failure. A
driver's error that executing or committing a definition raises is mapped before it leaves the
call. The question whether a table is there stands outside of the block that maps errors, so a
driver's error that it raises leaves the call as it is, and that is the only way out for one.
-/
namespace ObjectCatalog.Schema

open Descriptor (mapFailure_eq_error_iff)

variable {σ α : Type}

/-! ## Answers -/

structure Answer where
  access : Access
  failure : Option Raised

namespace Access

def asks : Access → Bool
  | .inspect | .hasTable _ => true
  | _ => false

def defines : Access → Bool
  | .execute _ | .commit => true
  | _ => false

end Access

def noteAnswer (access : Access) (operation : σ → Except Raised α × σ) (s : σ × List Answer) :
    Except Raised α × σ × List Answer :=
  ((operation s.1).1, (operation s.1).2, s.2 ++ [⟨access, raisedBy? (operation s.1).1⟩])

def Connection.noted (conn : Connection σ) : Connection (σ × List Answer) where
  inspect := noteAnswer .inspect conn.inspect
  hasTable := fun t => noteAnswer (.hasTable t.name) (conn.hasTable t)
  execute := fun t sql => noteAnswer (.execute sql) (conn.execute t sql)
  commit := noteAnswer .commit conn.commit
  rollback := noteAnswer .rollback conn.rollback

def answers (conn : Connection σ) (d : Descriptor) (s : σ) : List Answer :=
  (establish conn.noted d (s, [])).state.2

def Reply.answer : Reply → Answer
  | .inspected ending => ⟨.inspect, raisedBy? ending⟩
  | .asked name ending => ⟨.hasTable name, raisedBy? ending⟩
  | .executed sql ending => ⟨.execute sql, raisedBy? ending⟩
  | .committed ending => ⟨.commit, raisedBy? ending⟩
  | .rolledBack ending => ⟨.rollback, raisedBy? ending⟩

theorem noting_answer (conn : Connection σ) : conn.noting Reply.answer = conn.noted := rfl

/-- A call has an account that accounts for every answer. -/
theorem answers_accounts (conn : Connection σ) (d : Descriptor) (s : σ) :
    ∃ handlings : List Handling,
      answers conn d s = (handlings.flatMap (·.replies d)).map Reply.answer ∧
        Accounts d catalogTables handlings (establish conn d s).outcome := by
  obtain ⟨handlings, hrecords, haccounts⟩ :=
    records_ensureAll conn d Reply.answer catalogTables s []
  refine ⟨handlings, ?_, haccounts⟩
  rw [answers, establish, ← noting_answer, hrecords.noted_eq]
  rfl

/-! ## How a call is left -/

variable {conn : Connection σ} {d : Descriptor} {t : Table} {r : Raised}

/-- The answers that a failure leaves a call with, by the last of them. -/
inductive LeftBy (d : Descriptor) : List Answer → Raised → Prop
  | asking (before : List Answer) (access : Access) (r : Raised) (asks : access.asks = true) :
      LeftBy d (before ++ [⟨access, some r⟩]) r
  | defining (before : List Answer) (access : Access) (r : Raised) (defines : access.defines = true)
      (other : r.failure.isDatabase = false) : LeftBy d (before ++ [⟨access, some r⟩]) r
  | rolledBack (before : List Answer) (access : Access) (operation : Option String) (r : Raised)
      (ending : Option Raised) (defines : access.defines = true)
      (database : r.failure.isDatabase = true) :
      LeftBy d (before ++ [⟨access, some r⟩, ⟨.rollback, ending⟩])
        (d.leaveFailed .blocking operation r ending).1

/-- What ends a call is the last of its answers, or the one before a rollback. -/
theorem leftBy_fate {fate : Fate} (h : fate.outcome d t = .error r) (before : List Answer) :
    LeftBy d (before ++ (fate.replies d t).map Reply.answer) r := by
  cases fate with
  | unasked failed =>
    obtain rfl := Except.error.inj h
    exact .asking before .inspect failed rfl
  | unanswered failed =>
    obtain rfl := Except.error.inj h
    have hleft : LeftBy d _ _ :=
      .asking (before ++ [⟨.inspect, none⟩]) (.hasTable t.name) failed rfl
    rw [List.append_assoc] at hleft
    exact hleft
  | present => cases h
  | made => cases h
  | failed stage failed rollback rolledBack =>
    obtain ⟨first, access, hdefines, hstage⟩ : ∃ first access, access.defines = true ∧
        (stage.replies (t.createStatement d) failed).map Reply.answer =
          first ++ [⟨access, some failed⟩] := by
      cases stage with
      | executing => exact ⟨[], .execute _, rfl, rfl⟩
      | committing => exact ⟨[⟨.execute _, none⟩], .commit, rfl, rfl⟩
    have hleaves : r = leftBy d t failed rollback := by
      unfold Fate.outcome at h
      dsimp only at h
      split at h
      · cases h
      · exact (Except.error.inj h).symm
    have hreplies : ((Fate.failed stage failed rollback rolledBack).replies d t).map Reply.answer =
        [⟨.inspect, none⟩, ⟨.hasTable t.name, none⟩] ++ first ++ [⟨access, some failed⟩] ++
          rollback.toList.map fun ending => ⟨.rollback, raisedBy? ending⟩ := by
      simp only [Fate.replies, List.map_append, hstage, List.map_map, List.append_assoc]
      rfl
    rw [hreplies, hleaves]
    cases rollback with
    | none =>
      have hleft := LeftBy.defining (d := d)
        (before ++ ([⟨.inspect, none⟩, ⟨.hasTable t.name, none⟩] ++ first)) access failed hdefines
        rolledBack.symm
      simpa [leftBy] using hleft
    | some ending =>
      have hleft := LeftBy.rolledBack (d := d)
        (before ++ ([⟨.inspect, none⟩, ⟨.hasTable t.name, none⟩] ++ first)) access
        (some ("create table " ++ t.name)) failed (raisedBy? ending) hdefines rolledBack.symm
      simpa [leftBy] using hleft

theorem leftBy_establish {state : σ} (h : (establish conn d state).outcome = .error r) :
    LeftBy d (answers conn d state) r := by
  obtain ⟨handlings, hanswers, haccounts⟩ := answers_accounts conn d state
  obtain ⟨before, last, rfl, -, hlast⟩ := haccounts.left r h
  rw [hanswers, List.flatMap_append, List.flatMap_singleton, List.map_append]
  exact leftBy_fate hlast _

/-! ## What a driver's error comes to -/

def Answer.driverError? (a : Answer) : Option Raised :=
  if a.access = .rollback then none else a.failure.filter (·.failure.isDatabase)

def lastDriverError? (log : List Answer) : Option Raised :=
  (log.filterMap Answer.driverError?).getLast?

/-- No driver's error leaves a call with these answers. After the last one that is not a
rollback's the call returns, or raises the store error that is made from it and chained to it, or
raises what a later operation raised, which is not the driver's; what a rollback raises counts
only if it interrupts. -/
structure Contained (d : Descriptor) (log : List Answer)
    (outcome : Except Raised (List String)) : Prop where
  not_raw : ∀ r, outcome = .error r → r.failure.isDatabase = false
  accounted : ∀ r, lastDriverError? log = some r →
    (∃ names, outcome = .ok names) ∨
    (∃ operation e, d.mapFailure operation r.failure = .ok e ∧ outcome = .error (.store e r)) ∨
    ∃ access failed, log.getLast? = some ⟨access, some failed⟩ ∧
      (access = .rollback → failed.isInterrupt = true) ∧ outcome = .error failed

/-- The call is left by the driver's error with which the question for a table failed. -/
def LeftAsking (log : List Answer) (outcome : Except Raised (List String)) : Prop :=
  ∃ before access r, log = before ++ [⟨access, some r⟩] ∧ access.asks = true ∧
    r.failure.isDatabase = true ∧ outcome = .error r

/-- The call is left by the failure to read the words of a definition's driver error, which no code
classifies. -/
def LeftWordless (d : Descriptor) (log : List Answer) (outcome : Except Raised (List String)) :
    Prop :=
  ∃ before access r ending f,
    log = before ++ [⟨access, some r⟩, ⟨.rollback, ending⟩] ∧ access.defines = true ∧
      r.failure.isDatabase = true ∧ d.reportedClass r.failure = .error f ∧
      outcome = .error (.ofFailure f)

theorem defines_ne_rollback {access : Access} (h : access.defines = true) : access ≠ .rollback := by
  rintro rfl
  cases h

theorem asks_ne_rollback {access : Access} (h : access.asks = true) : access ≠ .rollback := by
  rintro rfl
  cases h

/-- What leaves a block after a rollback: what has interrupted the rollback, or else what the
mapping of the driver's error raises. -/
theorem leaveFailed_cases (d : Descriptor) (operation : Option String) (r : Raised)
    (ending : Option Raised) :
    (∃ failed, ending = some failed ∧ failed.isInterrupt = true ∧
      (d.leaveFailed .blocking operation r ending).1 = failed) ∨
    (d.leaveFailed .blocking operation r ending).1 = d.raiseMapped operation r := by
  cases ending with
  | none => exact .inr rfl
  | some failed =>
    cases hinterrupt : failed.isInterrupt with
    | true =>
      rw [Descriptor.leaveFailed_of_isInterrupt hinterrupt]
      exact .inl ⟨failed, rfl, hinterrupt, rfl⟩
    | false =>
      rw [Descriptor.leaveFailed_of_not_isInterrupt hinterrupt]
      exact .inr rfl

/-- What cannot be classified raises the ordinary failure to read its words. -/
theorem ordinary_of_reportedClass {failure f : Failure} (h : d.reportedClass failure = .error f) :
    f.isInterrupt = false ∧ f.isDatabase = false := by
  obtain ⟨-, detail, rfl⟩ := Descriptor.wordless_of_reportedClass h
  exact ⟨rfl, rfl⟩

theorem lastDriverError?_rolledBack (before : List Answer) {access : Access} (ending : Option Raised)
    (hdefines : access.defines = true) (hdatabase : r.failure.isDatabase = true) :
    lastDriverError? (before ++ [⟨access, some r⟩, ⟨.rollback, ending⟩]) = some r := by
  have hrollback := defines_ne_rollback hdefines
  simp [lastDriverError?, Answer.driverError?, List.filterMap_append, hrollback, hdatabase]

theorem getLast?_rolledBack (before : List Answer) (access : Access) (r : Raised)
    (ending : Option Raised) :
    List.getLast? (before ++ [⟨access, some r⟩, ⟨.rollback, ending⟩]) = some ⟨.rollback, ending⟩ := by
  simp

/-- What the last operation raised accounts for the call that it ends. -/
theorem contained_of_last {log : List Answer} {access : Access}
    (hlast : log.getLast? = some ⟨access, some r⟩)
    (hinterrupt : access = .rollback → r.isInterrupt = true)
    (hother : r.failure.isDatabase = false) : Contained d log (.error r) where
  not_raw := by
    intro failed hfailed
    cases hfailed
    exact hother
  accounted := fun _ _ => .inr (.inr ⟨access, r, hlast, hinterrupt, rfl⟩)

theorem contained_of_leftBy {log : List Answer} (h : LeftBy d log r)
    (hasking : ¬ LeftAsking log (.error r)) (hwordless : ¬ LeftWordless d log (.error r)) :
    Contained d log (.error r) := by
  cases h with
  | asking before access _ hasks =>
    cases hdatabase : r.failure.isDatabase with
    | true => exact absurd ⟨before, access, r, rfl, hasks, hdatabase, rfl⟩ hasking
    | false =>
      refine contained_of_last List.getLast?_concat (fun h => ?_) hdatabase
      exact absurd h (asks_ne_rollback hasks)
  | defining before access _ hdefines hother =>
    refine contained_of_last List.getLast?_concat (fun h => ?_) hother
    exact absurd h (defines_ne_rollback hdefines)
  | rolledBack before access operation failed ending hdefines hdatabase =>
    rcases leaveFailed_cases d operation failed ending with
      ⟨interrupt, rfl, hinterrupt, hleft⟩ | hleft
    · rw [hleft]
      exact contained_of_last (getLast?_rolledBack before access failed _) (fun _ => hinterrupt)
        (isDatabase_of_isInterrupt hinterrupt)
    · rw [hleft] at hasking hwordless ⊢
      unfold Descriptor.raiseMapped at hwordless ⊢
      cases hmap : d.mapFailure operation failed.failure with
      | error f =>
        rw [hmap] at hwordless
        have hclass := mapFailure_eq_error_iff.mp hmap
        exact absurd ⟨before, access, failed, ending, f, rfl, hdefines, hdatabase, hclass, rfl⟩
          hwordless
      | ok e =>
        constructor
        · intro r hr
          cases hr
          rfl
        · intro r hr
          rw [lastDriverError?_rolledBack before ending hdefines hdatabase] at hr
          cases hr
          exact .inr (.inl ⟨operation, e, hmap, rfl⟩)

/-- No driver's error leaves a call raw exactly if the call is left neither by a question for a
table that failed with one nor by the failure to read the words of one. -/
theorem contained_iff (conn : Connection σ) (d : Descriptor) (s : σ) :
    Contained d (answers conn d s) (establish conn d s).outcome ↔
      ¬ LeftAsking (answers conn d s) (establish conn d s).outcome ∧
        ¬ LeftWordless d (answers conn d s) (establish conn d s).outcome := by
  constructor
  · rintro ⟨hraw, haccounted⟩
    constructor
    · rintro ⟨before, access, r, -, -, hdatabase, houtcome⟩
      have hother := hraw r houtcome
      rw [hdatabase] at hother
      cases hother
    · rintro ⟨before, access, r, ending, f, hlog, hdefines, hdatabase, hclass, houtcome⟩
      obtain ⟨hordinary, -⟩ := ordinary_of_reportedClass hclass
      have hlast := lastDriverError?_rolledBack before ending hdefines hdatabase
      rw [← hlog] at hlast
      rcases haccounted r hlast with ⟨names, hok⟩ | ⟨operation, e, hmapped, -⟩ |
        ⟨final, failed, hfinal, hinterrupt, hfailed⟩
      · rw [houtcome] at hok
        cases hok
      · rw [mapFailure_eq_error_iff.mpr hclass] at hmapped
        cases hmapped
      · rw [hlog, getLast?_rolledBack] at hfinal
        cases hfinal
        rw [houtcome] at hfailed
        cases hfailed
        have hloud : f.isInterrupt = true := hinterrupt rfl
        rw [hordinary] at hloud
        cases hloud
  · rintro ⟨hasking, hwordless⟩
    cases houtcome : (establish conn d s).outcome with
    | ok names => exact ⟨fun r hr => (nomatch hr), fun _ _ => .inl ⟨names, rfl⟩⟩
    | error r =>
      rw [houtcome] at hasking hwordless
      exact contained_of_leftBy (leftBy_establish houtcome) hasking hwordless

def lost : Script where
  tables := []
  pending := []
  executions := []
  commits := []
  rollbacks := []
  inspectFails := none
  hasTableFails := some (.ofFailure (.database "OperationalError"
    (some (.plain "OperationalError" [.text "server closed the connection"] []))))

/-- A question for a table lets the driver's error through as it is. -/
theorem driver_error_escapes : ∃ r, r.failure.isDatabase = true ∧
    (answers Script.connection Dialect.postgresql lost).getLast? =
      some ⟨.hasTable "refs", some r⟩ ∧
    (establish Script.connection Dialect.postgresql lost).outcome = .error r ∧
    ¬ Contained Dialect.postgresql (answers Script.connection Dialect.postgresql lost)
      (establish Script.connection Dialect.postgresql lost).outcome := by
  refine ⟨_, rfl, rfl, rfl, fun h => ?_⟩
  have hraw := h.not_raw _ rfl
  cases hraw

end ObjectCatalog.Schema
