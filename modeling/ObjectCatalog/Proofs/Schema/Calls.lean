import ObjectCatalog.Proofs.Schema.Courses

/-! # Creating the tables step by step

A call that creates the tables of the catalog carries out one operation on its connection after
another, and between any two of them others may have their turn. Left to itself it comes to the same
outcome in the same state as the whole course of operations.
-/
namespace ObjectCatalog.Schema

inductive Phase
  | inspecting
  | checking
  | executing
  | committing
  /-- The definition has failed like this. -/
  | rollingBack (r : Raised)

inductive Call
  | running (t : Table) (ahead : List Table) (created : List String) (phase : Phase)
  | ended (outcome : Except Raised (List String))

namespace Call

variable {σ : Type}

def proceed (created : List String) : List Table → Call
  | [] => .ended (.ok created)
  | t :: ahead => .running t ahead created .inspecting

def start : Call := proceed [] catalogTables

def leave (ahead : List Table) (created : List String) (r : Raised) : Call :=
  if saysExists r then proceed created ahead else .ended (.error r)

def fail (t : Table) (ahead : List Table) (created : List String) (r : Raised) : Call :=
  if r.failure.isDatabase then .running t ahead created (.rollingBack r)
  else leave ahead created r

def leaving (d : Descriptor) (t : Table) (r : Raised) (ending : Except Raised Unit) : Raised :=
  (d.leaveFailed .blocking (some ("create table " ++ t.name)) r
    (match ending with
      | .ok () => none
      | .error failed => some failed)).1

def step (conn : Connection σ) (d : Descriptor) (c : Call) (s : σ) : Call × σ :=
  match c with
  | .ended outcome => (.ended outcome, s)
  | .running t ahead created .inspecting =>
    (match (conn.inspect s).1 with
      | .error r => .ended (.error r)
      | .ok () => .running t ahead created .checking, (conn.inspect s).2)
  | .running t ahead created .checking =>
    (match (conn.hasTable t s).1 with
      | .error r => .ended (.error r)
      | .ok true => proceed created ahead
      | .ok false => .running t ahead created .executing, (conn.hasTable t s).2)
  | .running t ahead created .executing =>
    (match (conn.execute t (t.createStatement d) s).1 with
      | .error r => fail t ahead created r
      | .ok () => .running t ahead created .committing, (conn.execute t (t.createStatement d) s).2)
  | .running t ahead created .committing =>
    (match (conn.commit s).1 with
      | .error r => fail t ahead created r
      | .ok () => proceed (created ++ [t.name]) ahead, (conn.commit s).2)
  | .running t ahead created (.rollingBack r) =>
    (leave ahead created (leaving d t r (conn.rollback s).1), (conn.rollback s).2)

def run (conn : Connection σ) (d : Descriptor) : Nat → Call → σ → Call × σ
  | 0, c, s => (c, s)
  | n + 1, c, s => run conn d n (c.step conn d s).1 (c.step conn d s).2

variable {conn : Connection σ} {d : Descriptor}

/-- A step carries out one operation at most, so what holds now and after every operation holds
after the step. -/
theorem step_induction {motive : σ → Prop} {s : σ} (c : Call) (same : motive s)
    (inspect : motive (conn.inspect s).2) (hasTable : ∀ t, motive (conn.hasTable t s).2)
    (execute : ∀ t sql, motive (conn.execute t sql s).2) (commit : motive (conn.commit s).2)
    (rollback : motive (conn.rollback s).2) : motive (c.step conn d s).2 := by
  cases c with
  | ended outcome => exact same
  | running t ahead created phase =>
    cases phase with
    | inspecting => exact inspect
    | checking => exact hasTable t
    | executing => exact execute t _
    | committing => exact commit
    | rollingBack r => exact rollback

/-! ## A call on its own -/

/-- Some number of steps leads from one state of a call and its connection to another. -/
def Reaches (conn : Connection σ) (d : Descriptor) (x y : Call × σ) : Prop :=
  ∃ n, run conn d n x.1 x.2 = y

theorem Reaches.refl (x : Call × σ) : Reaches conn d x x := ⟨0, rfl⟩

theorem run_add (m n : Nat) (c : Call) (s : σ) :
    run conn d (m + n) c s = run conn d n (run conn d m c s).1 (run conn d m c s).2 := by
  induction m generalizing c s with
  | zero => rw [Nat.zero_add, run]
  | succ m ih => rw [Nat.add_right_comm, run, run, ih]

theorem Reaches.trans {x y z : Call × σ} (hxy : Reaches conn d x y) (hyz : Reaches conn d y z) :
    Reaches conn d x z := by
  obtain ⟨m, rfl⟩ := hxy
  obtain ⟨n, rfl⟩ := hyz
  exact ⟨m + n, run_add m n x.1 x.2⟩

theorem Reaches.step {c : Call} {s : σ} {y : Call × σ} (h : Reaches conn d (c.step conn d s) y) :
    Reaches conn d (c, s) y := by
  obtain ⟨n, rfl⟩ := h
  exact ⟨n + 1, rfl⟩

def next (ahead : List Table) (created : List String) : Except Raised (List String) → Call
  | .ok names => proceed (created ++ names) ahead
  | .error r => .ended (.error r)

def handled (conn : Connection σ) (d : Descriptor) (t : Table) (r : Raised) (s : σ) : Raised × σ :=
  if r.failure.isDatabase then (leaving d t r (conn.rollback s).1, (conn.rollback s).2) else (r, s)

theorem leave_eq_next (ahead : List Table) (created : List String) (r : Raised) :
    leave ahead created r = next ahead created
      (if saysExists r then .ok [] else .error r) := by
  unfold leave
  cases saysExists r with
  | true => simp [next]
  | false => rfl

theorem leaving_eq (d : Descriptor) (t : Table) (r : Raised) (ending : Except Raised Unit) :
    leaving d t r ending = leftBy d t r (some ending) := by
  cases ending <;> rfl

theorem defineGuarded_of_error {t : Table} {r : Raised} {s : σ}
    (h : (define conn d t s).outcome = .error r) :
    (defineGuarded conn d t s).outcome =
        .error (handled conn d t r (define conn d t s).state).1 ∧
      (defineGuarded conn d t s).state = (handled conn d t r (define conn d t s).state).2 := by
  unfold handled
  cases hdatabase : r.failure.isDatabase with
  | true =>
    rw [defineGuarded_eq_of_database h hdatabase, if_pos rfl, leaving_eq]
    exact ⟨rfl, rfl⟩
  | false =>
    rw [defineGuarded_eq_of_not_database h hdatabase]
    exact ⟨h, rfl⟩

theorem create_of_error {t : Table} {r : Raised} {s : σ}
    (h : (defineGuarded conn d t s).outcome = .error r) :
    ((create conn d t s).outcome.map fun made => if made then [t.name] else []) =
        (if saysExists r then .ok [] else .error r) ∧
      (create conn d t s).state = (defineGuarded conn d t s).state := by
  rw [create_eq_of_error h]
  dsimp only
  cases saysExists r with
  | true => exact ⟨rfl, rfl⟩
  | false => exact ⟨rfl, rfl⟩

theorem create_of_ok {t : Table} {s : σ} (h : (define conn d t s).outcome = .ok ()) :
    ((create conn d t s).outcome.map fun made => if made then [t.name] else []) = .ok [t.name] ∧
      (create conn d t s).state = (define conn d t s).state := by
  have hguarded := defineGuarded_eq_of_ok h
  rw [create_eq_of_ok (hguarded ▸ h), hguarded]
  exact ⟨rfl, rfl⟩

variable (conn d)

theorem reaches_fail (t : Table) (ahead : List Table) (created : List String) (r : Raised) (s : σ) :
    Reaches conn d (fail t ahead created r, s)
      (leave ahead created (handled conn d t r s).1, (handled conn d t r s).2) := by
  unfold fail handled
  cases r.failure.isDatabase with
  | true => exact .step (.refl _)
  | false => exact .refl _

theorem reaches_define (t : Table) (ahead : List Table) (created : List String) (s : σ) :
    Reaches conn d (.running t ahead created .executing, s)
      (match (define conn d t s).outcome with
        | .ok () => proceed (created ++ [t.name]) ahead
        | .error r => fail t ahead created r, (define conn d t s).state) := by
  refine .step ?_
  unfold define
  dsimp only [step]
  cases conn.execute t (t.createStatement d) s with
  | mk ending s =>
    cases ending with
    | error r => exact .refl _
    | ok u =>
      refine .step ?_
      dsimp only [step]
      cases (conn.commit s).1 with
      | error r => exact .refl _
      | ok u => exact .refl _

theorem reaches_create (t : Table) (ahead : List Table) (created : List String) (s : σ) :
    Reaches conn d (.running t ahead created .executing, s)
      (next ahead created
        ((create conn d t s).outcome.map fun made => if made then [t.name] else []),
        (create conn d t s).state) := by
  cases hdefine : (define conn d t s).outcome with
  | error r =>
    obtain ⟨houtcome, hstate⟩ := defineGuarded_of_error hdefine
    obtain ⟨hnext, hafter⟩ := create_of_error houtcome
    rw [hnext, hafter, hstate, ← leave_eq_next]
    refine Reaches.trans ?_ (reaches_fail conn d t ahead created r (define conn d t s).state)
    have hreaches := reaches_define conn d t ahead created s
    rw [hdefine] at hreaches
    exact hreaches
  | ok u =>
    obtain ⟨hnext, hafter⟩ := create_of_ok hdefine
    rw [hnext, hafter]
    have hreaches := reaches_define conn d t ahead created s
    rw [hdefine] at hreaches
    exact hreaches

theorem reaches_check (t : Table) (ahead : List Table) (created : List String) (s : σ) :
    Reaches conn d (.running t ahead created .inspecting, s)
      (match (check conn d t s).outcome with
        | .error r => .ended (.error r)
        | .ok true => proceed created ahead
        | .ok false => .running t ahead created .executing, (check conn d t s).state) := by
  refine .step ?_
  unfold check
  dsimp only [step]
  cases conn.inspect s with
  | mk ending s =>
    cases ending with
    | error r => exact .refl _
    | ok u =>
      refine .step ?_
      dsimp only [step]
      cases conn.hasTable t s with
      | mk ending s =>
        cases ending with
        | error r => exact .refl _
        | ok found => cases found <;> exact .refl _

theorem reaches_ensure (t : Table) (ahead : List Table) (created : List String) (s : σ) :
    Reaches conn d (.running t ahead created .inspecting, s)
      (next ahead created (ensure conn d t s).outcome, (ensure conn d t s).state) := by
  have hreaches := reaches_check conn d t ahead created s
  unfold ensure
  dsimp only
  cases hcheck : (check conn d t s).outcome with
  | error r =>
    rw [hcheck] at hreaches
    exact hreaches
  | ok found =>
    rw [hcheck] at hreaches
    cases found with
    | true =>
      dsimp only [next]
      rw [List.append_nil]
      exact hreaches
    | false => exact hreaches.trans (reaches_create conn d t ahead created (check conn d t s).state)

/-- A call that nobody interrupts comes to what the whole course comes to. -/
theorem reaches_ensureAll (tables : List Table) (created : List String) (s : σ) :
    Reaches conn d (proceed created tables, s)
      (.ended ((ensureAll conn d tables s).outcome.map (created ++ ·)),
        (ensureAll conn d tables s).state) := by
  induction tables generalizing created s with
  | nil =>
    have hsame : ((ensureAll conn d [] s).outcome.map (created ++ ·)) = .ok created :=
      congrArg Except.ok (List.append_nil created)
    rw [hsame]
    exact .refl _
  | cons t tables ih =>
    have hreaches := reaches_ensure conn d t tables created s
    unfold ensureAll
    dsimp only
    cases hensure : (ensure conn d t s).outcome with
    | error r =>
      rw [hensure] at hreaches
      exact hreaches
    | ok names =>
      rw [hensure] at hreaches
      refine hreaches.trans ?_
      have hrest := ih (created ++ names) (ensure conn d t s).state
      cases hall : (ensureAll conn d tables (ensure conn d t s).state).outcome with
      | error r =>
        rw [hall] at hrest
        exact hrest
      | ok more =>
        rw [hall] at hrest
        dsimp only [Except.map] at hrest ⊢
        rw [List.append_assoc] at hrest
        exact hrest

theorem reaches_establish (s : σ) :
    Reaches conn d (start, s)
      (.ended (establish conn d s).outcome, (establish conn d s).state) := by
  have hreaches := reaches_ensureAll conn d catalogTables [] s
  have hsame : (ensureAll conn d catalogTables s).outcome.map (fun names => [] ++ names) =
      (ensureAll conn d catalogTables s).outcome := by
    cases (ensureAll conn d catalogTables s).outcome <;> rfl
  rw [hsame] at hreaches
  exact hreaches

end Call

end ObjectCatalog.Schema
