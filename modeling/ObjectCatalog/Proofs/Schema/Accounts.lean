import ObjectCatalog.Proofs.Schema.Courses

/-! # An account of every table

What a connection was asked in a call that creates the tables, and what it answered, reads as a
list of tables, in their order and each with what came of it: it was there, or was made, or the
call failed at it. A definition that fails is undone by one rollback if the failure is the
database layer's, and by none otherwise. The call goes on to the next table behind each that it
could deal with, and is left at the first that it could not.
-/
namespace ObjectCatalog.Schema

variable {σ α β : Type}

/-! ## Replies -/

inductive Reply
  | inspected (ending : Except Raised Unit)
  | asked (name : String) (ending : Except Raised Bool)
  | executed (sql : String) (ending : Except Raised Unit)
  | committed (ending : Except Raised Unit)
  | rolledBack (ending : Except Raised Unit)

def Reply.access : Reply → Access
  | .inspected _ => .inspect
  | .asked name _ => .hasTable name
  | .executed sql _ => .execute sql
  | .committed _ => .commit
  | .rolledBack _ => .rollback

def takeNote (note : Reply → β) (reply : Except Raised α → Reply)
    (operation : σ → Except Raised α × σ) (s : σ × List β) : Except Raised α × σ × List β :=
  ((operation s.1).1, (operation s.1).2, s.2 ++ [note (reply (operation s.1).1)])

/-- The same connection, which also takes a note of every reply. -/
def Connection.noting (conn : Connection σ) (note : Reply → β) : Connection (σ × List β) where
  inspect := takeNote note .inspected conn.inspect
  hasTable := fun t => takeNote note (.asked t.name) (conn.hasTable t)
  execute := fun t sql => takeNote note (.executed sql) (conn.execute t sql)
  commit := takeNote note .committed conn.commit
  rollback := takeNote note .rolledBack conn.rollback

def replies (conn : Connection σ) (d : Descriptor) (s : σ) : List Reply :=
  (establish (conn.noting id) d (s, [])).state.2

/-! ## What comes of a table -/

inductive Stage
  | executing
  | committing

/-- What comes of a table in a call. A definition that fails is rolled back exactly if the failure
is the database layer's. -/
inductive Fate
  | unasked (r : Raised)
  | unanswered (r : Raised)
  | present
  | made
  | failed (stage : Stage) (r : Raised) (rollback : Option (Except Raised Unit))
    (rolledBack : rollback.isSome = r.failure.isDatabase)

def Stage.replies (sql : String) (r : Raised) : Stage → List Reply
  | .executing => [.executed sql (.error r)]
  | .committing => [.executed sql (.ok ()), .committed (.error r)]

def Fate.replies (d : Descriptor) (t : Table) : Fate → List Reply
  | .unasked r => [.inspected (.error r)]
  | .unanswered r => [.inspected (.ok ()), .asked t.name (.error r)]
  | .present => [.inspected (.ok ()), .asked t.name (.ok true)]
  | .made =>
    [.inspected (.ok ()), .asked t.name (.ok false), .executed (t.createStatement d) (.ok ()),
      .committed (.ok ())]
  | .failed stage r rollback _ =>
    [.inspected (.ok ()), .asked t.name (.ok false)] ++ stage.replies (t.createStatement d) r ++
      rollback.toList.map .rolledBack

/-- The failure is the store's own error about an existing table, or the database layer's with a
code by which the dialect knows one. -/
def MeansExists (d : Descriptor) (r : Raised) : Prop :=
  (∃ e attributes, r.failure = .fault (.store e attributes) ∧ e.kind = .alreadyExists) ∨
    (r.failure.isDatabase = true ∧ (d.classifyFailure r.failure).category = .alreadyExists)

def Fate.GoesOn (d : Descriptor) : Fate → Prop
  | .unasked _ | .unanswered _ => False
  | .present | .made => True
  | .failed _ r rollback _ =>
    MeansExists d r ∧ ∀ failed, rollback = some (.error failed) → failed.isInterrupt = false

def Fate.isMade : Fate → Bool
  | .made => true
  | _ => false

def Fate.outcome (d : Descriptor) (t : Table) : Fate → Except Raised (List String)
  | .unasked r | .unanswered r => .error r
  | .present => .ok []
  | .made => .ok [t.name]
  | .failed _ r rollback _ =>
    if saysExists (leftBy d t r rollback) then .ok [] else .error (leftBy d t r rollback)

/-! ## Courses with notes -/

/-- The course with notes is the other one, and these are the replies to its operations, noted
behind those before. -/
structure Records (note : Reply → β) (before : List β) (replies : List Reply)
    (noted : Course (σ × List β) α) (c : Course σ α) : Prop where
  noted_eq : noted = ⟨c.outcome, (c.state, before ++ replies.map note), c.trace, c.events⟩
  trace : replies.map (·.access) = c.trace

section Records

variable (conn : Connection σ) (d : Descriptor) (note : Reply → β) (t : Table) (s : σ)
  (before : List β)

theorem records_check : ∃ asked,
    Records note before asked (check (conn.noting note) d t (s, before)) (check conn d t s) ∧
      match (check conn d t s).outcome with
      | .ok found => asked = [.inspected (.ok ()), .asked t.name (.ok found)]
      | .error r =>
        asked = [.inspected (.error r)] ∨ asked = [.inspected (.ok ()), .asked t.name (.error r)] := by
  unfold check
  simp only [Connection.noting, takeNote]
  cases conn.inspect s with
  | mk ending s =>
    cases ending with
    | error r => exact ⟨_, ⟨rfl, rfl⟩, .inl rfl⟩
    | ok u =>
      dsimp only
      cases conn.hasTable t s with
      | mk ending s =>
        cases ending with
        | error r => exact ⟨_, ⟨by rw [List.append_assoc]; rfl, rfl⟩, .inr rfl⟩
        | ok found => cases found <;> exact ⟨_, ⟨by rw [List.append_assoc]; rfl, rfl⟩, rfl⟩

theorem records_define : ∃ done,
    Records note before done (define (conn.noting note) d t (s, before)) (define conn d t s) ∧
      match (define conn d t s).outcome with
      | .ok () => done = [.executed (t.createStatement d) (.ok ()), .committed (.ok ())]
      | .error r => ∃ stage : Stage, done = stage.replies (t.createStatement d) r := by
  unfold define
  simp only [Connection.noting, takeNote]
  cases conn.execute t (t.createStatement d) s with
  | mk ending s =>
    cases ending with
    | error r => exact ⟨_, ⟨rfl, rfl⟩, .executing, rfl⟩
    | ok u =>
      dsimp only
      refine ⟨[.executed (t.createStatement d) (.ok ()), .committed (conn.commit s).1], ⟨?_, rfl⟩, ?_⟩
      · rw [List.append_assoc]
        rfl
      · generalize (conn.commit s).1 = ending
        cases ending with
        | ok u => rfl
        | error r => exact ⟨.committing, rfl⟩

/-- A definition that fails is rolled back exactly if the failure is the database layer's. -/
theorem records_defineGuarded : ∃ done,
    Records note before done (defineGuarded (conn.noting note) d t (s, before))
        (defineGuarded conn d t s) ∧
      match (defineGuarded conn d t s).outcome with
      | .ok () => done = [.executed (t.createStatement d) (.ok ()), .committed (.ok ())]
      | .error left => ∃ (stage : Stage) (r : Raised) (rollback : Option (Except Raised Unit)),
        rollback.isSome = r.failure.isDatabase ∧ left = leftBy d t r rollback ∧
          done = stage.replies (t.createStatement d) r ++ rollback.toList.map .rolledBack := by
  obtain ⟨done, hrecords, hdone⟩ := records_define conn d note t s before
  have hsame : (define (conn.noting note) d t (s, before)).outcome = (define conn d t s).outcome := by
    rw [hrecords.noted_eq]
  cases hdefine : (define conn d t s).outcome with
  | ok u =>
    rw [defineGuarded_eq_of_ok hdefine, defineGuarded_eq_of_ok (hsame.trans hdefine), hdefine]
    rw [hdefine] at hdone
    exact ⟨done, hrecords, hdone⟩
  | error r =>
    rw [hdefine] at hdone
    obtain ⟨stage, rfl⟩ := hdone
    cases hdatabase : r.failure.isDatabase with
    | false =>
      rw [defineGuarded_eq_of_not_database hdefine hdatabase,
        defineGuarded_eq_of_not_database (hsame.trans hdefine) hdatabase, hdefine]
      exact ⟨_, hrecords, stage, r, none, hdatabase.symm, rfl, (List.append_nil _).symm⟩
    | true =>
      rw [defineGuarded_eq_of_database hdefine hdatabase,
        defineGuarded_eq_of_database (hsame.trans hdefine) hdatabase, hrecords.noted_eq]
      refine ⟨_, ⟨?_, ?_⟩, stage, r, some (conn.rollback (define conn d t s).state).1,
        hdatabase.symm, rfl, rfl⟩
      · rw [List.map_append, ← List.append_assoc]
        rfl
      · rw [List.map_append, hrecords.trace]
        rfl

theorem records_create : ∃ done,
    Records note before done (create (conn.noting note) d t (s, before)) (create conn d t s) ∧
      ((create conn d t s).outcome = .ok true ∧
        done = [.executed (t.createStatement d) (.ok ()), .committed (.ok ())] ∨
      ∃ (stage : Stage) (r : Raised) (rollback : Option (Except Raised Unit)),
        rollback.isSome = r.failure.isDatabase ∧
          done = stage.replies (t.createStatement d) r ++ rollback.toList.map .rolledBack ∧
          (create conn d t s).outcome =
            if saysExists (leftBy d t r rollback) then .ok false
            else .error (leftBy d t r rollback)) := by
  obtain ⟨done, hrecords, hdone⟩ := records_defineGuarded conn d note t s before
  have hsame : (defineGuarded (conn.noting note) d t (s, before)).outcome =
      (defineGuarded conn d t s).outcome := by
    rw [hrecords.noted_eq]
  cases hguarded : (defineGuarded conn d t s).outcome with
  | ok u =>
    rw [hguarded] at hdone
    rw [create_eq_of_ok hguarded, create_eq_of_ok (hsame.trans hguarded), hrecords.noted_eq]
    exact ⟨done, ⟨rfl, hrecords.trace⟩, .inl ⟨rfl, hdone⟩⟩
  | error left =>
    rw [hguarded] at hdone
    obtain ⟨stage, r, rollback, hrollback, rfl, hdone⟩ := hdone
    rw [create_eq_of_error hguarded, create_eq_of_error (hsame.trans hguarded), hrecords.noted_eq]
    exact ⟨done, ⟨rfl, hrecords.trace⟩, .inr ⟨stage, r, rollback, hrollback, hdone, rfl⟩⟩

/-- What a call does for a table is what comes of the table. -/
theorem records_ensure : ∃ fate : Fate,
    Records note before (fate.replies d t) (ensure (conn.noting note) d t (s, before))
        (ensure conn d t s) ∧
      (ensure conn d t s).outcome = fate.outcome d t := by
  obtain ⟨asked, hrecords, hasked⟩ := records_check conn d note t s before
  have hsame : (check (conn.noting note) d t (s, before)).outcome = (check conn d t s).outcome := by
    rw [hrecords.noted_eq]
  cases hcheck : (check conn d t s).outcome with
  | error r =>
    rw [hcheck] at hasked
    rw [ensure_eq_of_error hcheck, ensure_eq_of_error (hsame.trans hcheck), hrecords.noted_eq]
    rcases hasked with rfl | rfl
    · exact ⟨.unasked r, ⟨rfl, hrecords.trace⟩, rfl⟩
    · exact ⟨.unanswered r, ⟨rfl, hrecords.trace⟩, rfl⟩
  | ok found =>
    rw [hcheck] at hasked
    obtain rfl := hasked
    cases found with
    | true =>
      rw [ensure_eq_of_found hcheck, ensure_eq_of_found (hsame.trans hcheck), hrecords.noted_eq]
      exact ⟨.present, ⟨rfl, hrecords.trace⟩, rfl⟩
    | false =>
      rw [ensure_eq_of_missing hcheck, ensure_eq_of_missing (hsame.trans hcheck), hrecords.noted_eq]
      dsimp only
      obtain ⟨done, hmade, hdone⟩ := records_create conn d note t (check conn d t s).state
        (before ++ List.map note [.inspected (.ok ()), .asked t.name (.ok false)])
      rw [hmade.noted_eq]
      suffices h : ∃ fate : Fate,
          fate.replies d t = [.inspected (.ok ()), .asked t.name (.ok false)] ++ done ∧
            ((create conn d t (check conn d t s).state).outcome.map fun made =>
              if made then [t.name] else []) = fate.outcome d t by
        obtain ⟨fate, hreplies, hfate⟩ := h
        refine ⟨fate, ⟨?_, ?_⟩, hfate⟩
        · rw [hreplies, List.map_append, ← List.append_assoc]
        · rw [hreplies, List.map_append, hrecords.trace, hmade.trace]
      rcases hdone with ⟨houtcome, rfl⟩ | ⟨stage, r, rollback, hrollback, rfl, houtcome⟩
      · exact ⟨.made, rfl, by rw [houtcome]; rfl⟩
      · refine ⟨.failed stage r rollback hrollback, List.append_assoc .., ?_⟩
        rw [houtcome]
        show _ = if saysExists (leftBy d t r rollback) then Except.ok []
          else .error (leftBy d t r rollback)
        cases saysExists (leftBy d t r rollback) <;> rfl

end Records

/-! ## Which failures a call survives -/

section Surviving

variable {d : Descriptor} {t : Table} {r : Raised}

/-- A call goes on behind a definition that failed exactly if what leaves the block around it says
that the table exists. -/
theorem saysExists_leftBy_iff {rollback : Option (Except Raised Unit)}
    (h : rollback.isSome = r.failure.isDatabase) : saysExists (leftBy d t r rollback) = true ↔
      MeansExists d r ∧ ∀ failed, rollback = some (.error failed) → failed.isInterrupt = false := by
  have hmeans : r.failure.isDatabase = true →
      (MeansExists d r ↔ (d.classifyFailure r.failure).category = .alreadyExists) := by
    intro hdatabase
    refine ⟨?_, fun hcategory => .inr ⟨hdatabase, hcategory⟩⟩
    rintro (⟨e, attributes, hfault, -⟩ | ⟨-, hcategory⟩)
    · rw [hfault] at hdatabase
      cases hdatabase
    · exact hcategory
  cases rollback with
  | none =>
    have hother : r.failure.isDatabase = false := h.symm
    rw [leftBy, saysExists_iff]
    constructor
    · exact fun hstore => ⟨.inl hstore, nofun⟩
    · rintro ⟨hstore | ⟨hdatabase, -⟩, -⟩
      · exact hstore
      · rw [hother] at hdatabase
        cases hdatabase
  | some ending =>
    have hdatabase : r.failure.isDatabase = true := h.symm
    rw [hmeans hdatabase, leftBy]
    cases ending with
    | ok u =>
      have hleft := saysExists_raiseMapped_iff (d := d) (r := r) (some ("create table " ++ t.name))
      exact hleft.trans ⟨fun hcategory => ⟨hcategory, nofun⟩, And.left⟩
    | error failed =>
      dsimp only [raisedBy?]
      cases hfailed : failed.isInterrupt with
      | true =>
        rw [Descriptor.leaveFailed_of_isInterrupt hfailed, saysExists_of_isInterrupt hfailed]
        refine iff_of_false Bool.false_ne_true fun hgoes => ?_
        have hquiet := hgoes.2 failed rfl
        rw [hfailed] at hquiet
        cases hquiet
      | false =>
        rw [Descriptor.leaveFailed_of_not_isInterrupt hfailed, saysExists_raiseMapped_iff]
        refine ⟨fun hcategory => ⟨hcategory, ?_⟩, And.left⟩
        rintro _ ⟨⟩
        exact hfailed

/-- The call goes on, with the table's name if the table was made. -/
theorem Fate.outcome_eq_ok_iff {fate : Fate} {names : List String} : fate.outcome d t = .ok names ↔
    fate.GoesOn d ∧ names = if fate.isMade then [t.name] else [] := by
  cases fate with
  | unasked r => exact iff_of_false nofun And.left
  | unanswered r => exact iff_of_false nofun And.left
  | present => exact ⟨fun h => ⟨trivial, (Except.ok.inj h).symm⟩, fun h => congrArg _ h.2.symm⟩
  | made => exact ⟨fun h => ⟨trivial, (Except.ok.inj h).symm⟩, fun h => congrArg _ h.2.symm⟩
  | failed stage r rollback rolledBack =>
    have hgoes := saysExists_leftBy_iff (d := d) (t := t) rolledBack
    unfold Fate.outcome Fate.GoesOn
    dsimp only
    rw [← hgoes]
    cases saysExists (leftBy d t r rollback) with
    | true => exact ⟨fun h => ⟨rfl, (Except.ok.inj h).symm⟩, fun h => congrArg _ h.2.symm⟩
    | false => exact iff_of_false nofun fun h => nomatch h.1

theorem Fate.not_goesOn_of_error {fate : Fate} (h : fate.outcome d t = .error r) :
    ¬ fate.GoesOn d := by
  intro hgoes
  have hok : fate.outcome d t = .ok (if fate.isMade then [t.name] else []) :=
    Fate.outcome_eq_ok_iff.mpr ⟨hgoes, rfl⟩
  rw [h] at hok
  cases hok

end Surviving

/-! ## The account -/

structure Handling where
  table : Table
  fate : Fate

def Handling.replies (d : Descriptor) (h : Handling) : List Reply := h.fate.replies d h.table

def Handling.outcome (d : Descriptor) (h : Handling) : Except Raised (List String) :=
  h.fate.outcome d h.table

def madeNames (handlings : List Handling) : List String :=
  (handlings.filter (·.fate.isMade)).map (·.table.name)

/-- The tables are dealt with in their order, and no further than to the first that the call
cannot go on from. It returns the names of the tables made, once it has dealt with all of them. -/
structure Accounts (d : Descriptor) (tables : List Table) (handlings : List Handling)
    (outcome : Except Raised (List String)) : Prop where
  in_order : handlings.map (·.table) <+: tables
  went_on : ∀ h ∈ handlings.dropLast, h.fate.GoesOn d
  returned : ∀ names, outcome = .ok names → handlings.map (·.table) = tables ∧
    (∀ h ∈ handlings, h.fate.GoesOn d) ∧ names = madeNames handlings
  left : ∀ r, outcome = .error r → ∃ before h, handlings = before ++ [h] ∧ ¬ h.fate.GoesOn d ∧
    h.outcome d = .error r

section Accounts

variable {d : Descriptor} {t : Table} {tables : List Table} {handlings : List Handling} {fate : Fate}
  {outcome : Except Raised (List String)} {r : Raised}

theorem madeNames_cons (h : Handling) (handlings : List Handling) :
    madeNames (h :: handlings) =
      (if h.fate.isMade then [h.table.name] else []) ++ madeNames handlings := by
  unfold madeNames
  rw [List.filter_cons]
  cases h.fate.isMade <;> rfl

theorem accounts_nil : Accounts d [] [] (.ok []) where
  in_order := List.nil_prefix
  went_on := List.forall_mem_nil _
  returned := by
    intro names hnames
    exact ⟨rfl, List.forall_mem_nil _, (Except.ok.inj hnames).symm⟩
  left := by
    intro r hr
    cases hr

/-- A call that cannot go on from a table stops there. -/
theorem accounts_of_error (h : fate.outcome d t = .error r) :
    Accounts d (t :: tables) [⟨t, fate⟩] (.error r) where
  in_order := List.prefix_append [t] tables
  went_on := List.forall_mem_nil _
  returned := by
    intro names hnames
    cases hnames
  left := by
    intro left hleft
    obtain rfl := Except.error.inj hleft
    exact ⟨[], ⟨t, fate⟩, rfl, Fate.not_goesOn_of_error h, h⟩

/-- A table that the call goes on from comes before the account of those behind it. -/
theorem Accounts.cons {names : List String} (accounts : Accounts d tables handlings outcome)
    (h : fate.outcome d t = .ok names) :
    Accounts d (t :: tables) (⟨t, fate⟩ :: handlings) (outcome.map (names ++ ·)) := by
  obtain ⟨hgoes, hnames⟩ := Fate.outcome_eq_ok_iff.mp h
  refine ⟨List.cons_prefix_cons.mpr ⟨rfl, accounts.in_order⟩, ?_, ?_, ?_⟩
  · cases handlings with
    | nil => exact List.forall_mem_nil _
    | cons next handlings => exact List.forall_mem_cons.mpr ⟨hgoes, accounts.went_on⟩
  · intro all hall
    cases outcome with
    | error r => cases hall
    | ok more =>
      obtain ⟨hdone, hwent, hmade⟩ := accounts.returned more rfl
      refine ⟨congrArg (t :: ·) hdone, List.forall_mem_cons.mpr ⟨hgoes, hwent⟩, ?_⟩
      rw [madeNames_cons, ← hnames, ← hmade]
      exact (Except.ok.inj hall).symm
  · intro r hr
    cases outcome with
    | ok more => cases hr
    | error left =>
      obtain rfl := Except.error.inj hr
      obtain ⟨before, last, rfl, hstops, hlast⟩ := accounts.left left rfl
      exact ⟨⟨t, fate⟩ :: before, last, rfl, hstops, hlast⟩

end Accounts

/-- The replies to a call are those to what it does for the tables that its account has. -/
theorem records_ensureAll (conn : Connection σ) (d : Descriptor) (note : Reply → β)
    (tables : List Table) (s : σ) (before : List β) : ∃ handlings : List Handling,
      Records note before (handlings.flatMap (·.replies d))
          (ensureAll (conn.noting note) d tables (s, before)) (ensureAll conn d tables s) ∧
        Accounts d tables handlings (ensureAll conn d tables s).outcome := by
  induction tables generalizing s before with
  | nil => exact ⟨[], ⟨by rw [List.flatMap_nil, List.map_nil, List.append_nil]; rfl, rfl⟩, accounts_nil⟩
  | cons t tables ih =>
    obtain ⟨fate, hrecords, hfate⟩ := records_ensure conn d note t s before
    unfold ensureAll
    rw [hrecords.noted_eq]
    dsimp only
    cases hensure : (ensure conn d t s).outcome with
    | error r =>
      rw [hensure] at hfate
      refine ⟨[⟨t, fate⟩], ⟨?_, ?_⟩, accounts_of_error hfate.symm⟩
      · rw [List.flatMap_singleton]
        rfl
      · rw [List.flatMap_singleton]
        exact hrecords.trace
    | ok names =>
      rw [hensure] at hfate
      obtain ⟨handlings, hrest, haccounts⟩ :=
        ih (ensure conn d t s).state (before ++ (fate.replies d t).map note)
      dsimp only
      rw [hrest.noted_eq]
      refine ⟨⟨t, fate⟩ :: handlings, ⟨?_, ?_⟩, haccounts.cons hfate.symm⟩
      · rw [List.flatMap_cons, List.map_append, ← List.append_assoc]
        rfl
      · rw [List.flatMap_cons, List.map_append, hrest.trace]
        exact congrArg (· ++ _) hrecords.trace

/-- Whatever a connection does, a call on it has an account of the catalog's tables that accounts
for every reply. -/
theorem establish_accounts (conn : Connection σ) (d : Descriptor) (s : σ) :
    ∃ handlings : List Handling,
      replies conn d s = handlings.flatMap (·.replies d) ∧
        (replies conn d s).map (·.access) = (establish conn d s).trace ∧
        Accounts d catalogTables handlings (establish conn d s).outcome := by
  obtain ⟨handlings, hrecords, haccounts⟩ := records_ensureAll conn d id catalogTables s []
  have hreplies : replies conn d s = handlings.flatMap (·.replies d) := by
    unfold replies establish
    rw [hrecords.noted_eq, List.map_id]
    rfl
  refine ⟨handlings, hreplies, ?_, haccounts⟩
  rw [hreplies]
  exact hrecords.trace

end ObjectCatalog.Schema
