import Mathlib.Data.List.Nodup
import ObjectCatalog.Dialect.Builtin
import ObjectCatalog.Proofs.Schema.Database

/-! # What a caller's record says of its call

A call passes each table of the catalog in one of three ways: it finds the table, it makes it, or
somebody else makes it between the question and the definition. Which way it was can be told from
the record of the caller's visits, whatever others do in between. From this follows what a call
returns.
-/
namespace ObjectCatalog.Schema

inductive Passage
  | found (t : Table)
  | made (t : Table)
  /-- The table was missing when it was asked after, and there when it was to be defined. -/
  | overtaken (t : Table)

namespace Passage

def table : Passage → Table
  | found t | made t | overtaken t => t

def asked : Passage → String × Bool
  | found t => (t.name, true)
  | made t | overtaken t => (t.name, false)

def creation? : Passage → Option (String × Bool)
  | found _ => none
  | made t => some (t.name, false)
  | overtaken t => some (t.name, true)

def attempted (t : Table) : Bool → Passage
  | false => made t
  | true => overtaken t

/-- The name that a call lists. A definition that passes over the table ends as well as one that
adds it, so the call cannot tell them apart. -/
def listed? (d : Descriptor) : Passage → Option String
  | found _ => none
  | made t => some t.name
  | overtaken t => if (d.codes .exists).isEmpty then some t.name else none

theorem table_attempted (t : Table) (there : Bool) : (attempted t there).table = t := by
  cases there <;> rfl

theorem asked_attempted (t : Table) (there : Bool) :
    (attempted t there).asked = (t.name, false) := by
  cases there <;> rfl

theorem creation?_attempted (t : Table) (there : Bool) :
    (attempted t there).creation? = some (t.name, there) := by
  cases there <;> rfl

/-- A call lists a table unless its definition is refused. -/
theorem listed?_attempted (d : Descriptor) (t : Table) (there : Bool) :
    (attempted t there).listed? d =
      if there && !(d.codes .exists).isEmpty then none else some t.name := by
  cases there with
  | false => rfl
  | true =>
    unfold attempted listed?
    cases (d.codes .exists).isEmpty <;> rfl

end Passage

/-- The caller has passed tables in these ways, and then found these missing. -/
structure Recorded (s : Database) (caller : Nat) (passed : List Passage)
    (missing : List (String × Bool)) : Prop where
  checks : s.checks caller = passed.map Passage.asked ++ missing
  creations : s.creations caller = passed.filterMap Passage.creation?
  tables : ∀ p ∈ passed, p.table.name ∈ s.tables

/-- What is recorded when a call that has passed tables in these ways is in a phase of its work on
the next. -/
def Phase.OnRecord (d : Descriptor) (s : Database) (caller : Nat) (passed : List Passage)
    (t : Table) : Phase → Prop
  | .inspecting | .checking => Recorded s caller passed []
  | .executing => Recorded s caller passed [(t.name, false)]
  | .committing => ∃ p : Passage, p.table = t ∧ p.listed? d = some t.name ∧
      Recorded s caller (passed ++ [p]) []
  | .rollingBack r => Refusal d r ∧ (Passage.overtaken t).listed? d = none ∧
      Recorded s caller (passed ++ [.overtaken t]) []

inductive Call.OnRecord (d : Descriptor) (s : Database) (caller : Nat) : Call → Prop
  | running {t : Table} {ahead : List Table} {phase : Phase} (passed : List Passage)
    (tables : passed.map Passage.table ++ t :: ahead = catalogTables)
    (record : phase.OnRecord d s caller passed t) :
    OnRecord d s caller (.running t ahead (passed.filterMap (Passage.listed? d)) phase)
  | ended (passed : List Passage) (tables : passed.map Passage.table = catalogTables)
    (record : Recorded s caller passed []) :
    OnRecord d s caller (.ended (.ok (passed.filterMap (Passage.listed? d))))

variable {w : Surroundings} {d : Descriptor} {s s' : Database} {caller : Nat} {c : Call}
  {passed : List Passage} {missing : List (String × Bool)} {t : Table} {ahead : List Table}

/-! ## What stays on record -/

theorem Recorded.keeps (h : Recorded s caller passed missing) (hkeeps : s.Keeps caller s') :
    Recorded s' caller passed missing where
  checks := hkeeps.checks.trans h.checks
  creations := hkeeps.creations.trans h.creations
  tables := fun p hp => hkeeps.tables (h.tables p hp)

theorem Phase.OnRecord.keeps {phase : Phase} (h : phase.OnRecord d s caller passed t)
    (hkeeps : s.Keeps caller s') : phase.OnRecord d s' caller passed t := by
  cases phase with
  | inspecting => exact Recorded.keeps h hkeeps
  | checking => exact Recorded.keeps h hkeeps
  | executing => exact Recorded.keeps h hkeeps
  | committing =>
    obtain ⟨p, hp, hlisted, hrecord⟩ := h
    exact ⟨p, hp, hlisted, hrecord.keeps hkeeps⟩
  | rollingBack r => exact ⟨h.1, h.2.1, h.2.2.keeps hkeeps⟩

theorem Call.OnRecord.keeps (h : c.OnRecord d s caller) (hkeeps : s.Keeps caller s') :
    c.OnRecord d s' caller := by
  cases h with
  | running passed tables record => exact .running passed tables (record.keeps hkeeps)
  | ended passed tables record => exact .ended passed tables (record.keeps hkeeps)

/-! ## The caller's own steps -/

theorem Call.onRecord_proceed (htables : passed.map Passage.table ++ ahead = catalogTables)
    (hrecord : Recorded s caller passed []) :
    (proceed (passed.filterMap (Passage.listed? d)) ahead).OnRecord d s caller := by
  cases ahead with
  | nil => exact .ended passed (by rw [← htables, List.append_nil]) hrecord
  | cons t ahead => exact .running passed htables hrecord

/-- Passing one more table. -/
theorem Call.onRecord_pass (htables : passed.map Passage.table ++ t :: ahead = catalogTables)
    {p : Passage} (hp : p.table = t) (hrecord : Recorded s caller (passed ++ [p]) []) :
    (proceed (passed.filterMap (Passage.listed? d) ++ (p.listed? d).toList) ahead).OnRecord
      d s caller := by
  have hlisted : (passed ++ [p]).filterMap (Passage.listed? d) =
      passed.filterMap (Passage.listed? d) ++ (p.listed? d).toList := by
    rw [List.filterMap_append]
    cases h : p.listed? d <;> simp [h]
  rw [← hlisted]
  refine onRecord_proceed ?_ hrecord
  rw [List.map_append, List.map_singleton, hp, List.append_assoc]
  exact htables

/-- The failure of a definition that is refused is mapped to the one that says so. -/
theorem saysExists_leaving {r : Raised} (h : Refusal d r) (t : Table) :
    saysExists (Call.leaving d t r (.ok ())) = true := by
  have hcategory : (d.classifyFailure r.failure).category = .alreadyExists :=
    (Descriptor.classifyFailure_eq_category_iff .exists).mpr h.2
  exact (saysExists_raiseMapped_iff _).mpr hcategory

theorem name_no_blank (ht : t ∈ catalogTables) : ' ' ∉ t.name.toList := by
  have hall : ∀ t ∈ catalogTables, ' ' ∉ t.name.toList := by
    simp only [catalogTables, List.forall_mem_cons]
    decide
  exact hall t ht

namespace Recorded

theorem pass (h : Recorded s caller passed missing) {p : Passage}
    (hchecks : s'.checks caller = passed.map Passage.asked ++ [p.asked])
    (hcreations : s'.creations caller = s.creations caller ++ p.creation?.toList)
    (htables : s.tables ⊆ s'.tables) (hp : p.table.name ∈ s'.tables) :
    Recorded s' caller (passed ++ [p]) [] where
  checks := by rw [hchecks, List.append_nil, List.map_append, List.map_singleton]
  creations := by
    rw [hcreations, h.creations, List.filterMap_append]
    cases hcase : p.creation? <;> simp [hcase]
  tables := by
    intro q hq
    rcases List.mem_append.mp hq with hq | hq
    · exact htables (h.tables q hq)
    · rw [List.mem_singleton.mp hq]
      exact hp

/-- Of a table that has been asked after, the caller has passed it or knows that it is missing. -/
theorem asked (h : Recorded s caller passed []) (w : Surroundings) (t : Table) :
    ((s.visit w caller (.hasTable t.name)).tables.contains t.name = true ∧
        Recorded (s.visit w caller (.hasTable t.name)) caller (passed ++ [.found t]) []) ∨
      ((s.visit w caller (.hasTable t.name)).tables.contains t.name = false ∧
        Recorded (s.visit w caller (.hasTable t.name)) caller passed [(t.name, false)]) := by
  obtain ⟨hchecks, hcreations⟩ := Database.hasTable_self w caller s t
  have htables : s.tables ⊆ (s.visit w caller (.hasTable t.name)).tables :=
    Database.tables_subset_visit
  rw [h.checks, List.append_nil] at hchecks
  cases hthere : (s.visit w caller (.hasTable t.name)).tables.contains t.name with
  | true =>
    rw [hthere] at hchecks
    exact .inl ⟨rfl, h.pass hchecks (hcreations.trans (List.append_nil _).symm) htables
      (List.contains_iff_mem.mp hthere)⟩
  | false =>
    rw [hthere] at hchecks
    exact .inr ⟨rfl, hchecks, hcreations.trans h.creations, fun p hp => htables (h.tables p hp)⟩

/-- Once a missing table has been defined, the caller has passed it. The definition is refused only
if the table is there and the statement has no guard. -/
theorem executed (ht : t ∈ catalogTables) (h : Recorded s caller passed [(t.name, false)])
    (w : Surroundings) (d : Descriptor) :
    ∃ there, Recorded ((Database.connection w caller).execute t (t.createStatement d) s).2 caller
        (passed ++ [.attempted t there]) [] ∧
      ((Database.connection w caller).execute t (t.createStatement d) s).1 =
        if there && !(d.codes .exists).isEmpty then .error (w.refusal s.visits.length) else .ok () := by
  have hread := Definition.read?_createStatement (name_no_blank ht) d
  obtain ⟨hcreations, hchecks⟩ := Database.execute_self hread w caller s
  obtain ⟨hanswer, hthere⟩ := Database.define_of_read? hread (w.refusal s.visits.length)
    (s.visit w caller (.execute (t.createStatement d)))
  have hkeeps := Database.keeps_define caller (s.visit w caller (.execute (t.createStatement d)))
    (w.refusal s.visits.length) (t.createStatement d)
  rw [Database.execute_connection]
  refine ⟨_, h.pass ?_ ?_ (fun _ hname => hkeeps.tables (Database.tables_subset_visit hname)) ?_,
    hanswer⟩
  · rw [hkeeps.checks, hchecks, h.checks, Passage.asked_attempted]
  · rw [hkeeps.creations, hcreations, Passage.creation?_attempted, Option.toList_some]
  · rw [Passage.table_attempted]
    exact hthere

end Recorded

/-- The record keeps up with the call through every operation of its own. -/
theorem Call.OnRecord.step (hw : w.Refuses d) (h : c.OnRecord d s caller) :
    (c.step (Database.connection w caller) d s).1.OnRecord d
      (c.step (Database.connection w caller) d s).2 caller := by
  cases h with
  | ended passed htables record => exact .ended passed htables record
  | @running t ahead phase passed htables record =>
    have ht : t ∈ catalogTables := htables ▸ List.mem_append_right _ List.mem_cons_self
    cases phase with
    | inspecting => exact .running passed htables (record.keeps (Database.keeps_visit_self rfl rfl))
    | checking =>
      unfold Call.step
      dsimp only [Database.connection]
      obtain ⟨hthere, hrecord⟩ | ⟨hthere, hrecord⟩ := Recorded.asked record w t
      · rw [hthere]
        have hpass := Call.onRecord_pass (d := d) htables (p := .found t) rfl hrecord
        exact (List.append_nil _ ▸ hpass :)
      · rw [hthere]
        exact .running passed htables hrecord
    | executing =>
      obtain ⟨there, hrecord, hanswer⟩ := Recorded.executed ht record w d
      unfold Call.step
      dsimp only
      rw [hanswer]
      have hlisted := Passage.listed?_attempted d t there
      -- What the call will list is settled here, before the commit or the rollback.
      cases hrefused : there && !(d.codes .exists).isEmpty with
      | false =>
        rw [hrefused, if_neg Bool.false_ne_true] at hlisted
        exact .running passed htables ⟨_, Passage.table_attempted t there, hlisted, hrecord⟩
      | true =>
        rw [hrefused, if_pos rfl] at hlisted
        obtain ⟨rfl, hcodes⟩ := Bool.and_eq_true_iff.mp hrefused
        have hrefusal : Refusal d (w.refusal s.visits.length) := hw (by simpa using hcodes) _
        show (Call.fail t ahead _ (w.refusal _)).OnRecord d _ caller
        unfold Call.fail
        rw [if_pos hrefusal.1]
        exact .running passed htables ⟨hrefusal, hlisted, hrecord⟩
    | committing =>
      obtain ⟨p, hp, hlisted, hrecord⟩ := record
      have hkeeps : s.Keeps caller (s.visit w caller .commit) := Database.keeps_visit_self rfl rfl
      have hpass := Call.onRecord_pass (d := d) htables hp (hrecord.keeps hkeeps)
      rw [hlisted] at hpass
      exact hpass
    | rollingBack r =>
      obtain ⟨hrefusal, hlisted, hrecord⟩ := record
      have hkeeps : s.Keeps caller (s.visit w caller .rollback) := Database.keeps_visit_self rfl rfl
      have hpass := Call.onRecord_pass (d := d) htables (p := .overtaken t) rfl (hrecord.keeps hkeeps)
      rw [hlisted, Option.toList_none, List.append_nil] at hpass
      show (Call.leave ahead _ (Call.leaving d t r (.ok ()))).OnRecord d _ caller
      unfold Call.leave
      rw [if_pos (saysExists_leaving hrefusal t)]
      exact hpass

theorem Call.OnRecord.run (hw : w.Refuses d) (n : Nat) (h : c.OnRecord d s caller) :
    (c.run (Database.connection w caller) d n s).1.OnRecord d
      (c.run (Database.connection w caller) d n s).2 caller := by
  induction n generalizing c s with
  | zero => exact h
  | succ n ih => exact ih (h.step hw)

theorem Call.onRecord_start (d : Descriptor) (tables : List String) (caller : Nat) :
    start.OnRecord d ⟨tables, []⟩ caller := by
  have hrecord : Recorded ⟨tables, []⟩ caller [] [] :=
    ⟨rfl, rfl, fun _ hp => absurd hp List.not_mem_nil⟩
  exact onRecord_proceed rfl hrecord

/-! ## What the names on a list say -/

namespace Recorded

variable {name : String}

/-- The tables of the catalog have different names, so there is one passage for a name. -/
theorem eq_of_name (htables : passed.map Passage.table = catalogTables) {p q : Passage}
    (hp : p ∈ passed) (hq : q ∈ passed) (hname : p.table.name = q.table.name) : p = q := by
  have hnames : (passed.map fun p => p.table.name).Nodup := by
    have hmap : (passed.map fun p => p.table.name) = catalogTables.map (·.name) := by
      rw [← htables, List.map_map]
      rfl
    rw [hmap]
    decide
  exact List.inj_on_of_nodup_map hnames hp hq hname

/-- What a caller's definition has added is on the list. -/
theorem mem_listed_of_added (h : Recorded s caller passed []) (d : Descriptor)
    (hadded : (name, false) ∈ s.creations caller) : name ∈ passed.filterMap (Passage.listed? d) := by
  rw [h.creations] at hadded
  obtain ⟨p, hp, hcreation⟩ := List.mem_filterMap.mp hadded
  refine List.mem_filterMap.mpr ⟨p, hp, ?_⟩
  cases p with
  | made t =>
    cases hcreation
    rfl
  | found t => cases hcreation
  | overtaken t => cases hcreation

theorem asked_of_listed? {p : Passage} (hp : p.listed? d = some name) :
    p.table.name = name ∧ p.asked = (name, false) := by
  cases p with
  | found t => cases hp
  | made t =>
    cases hp
    exact ⟨rfl, rfl⟩
  | overtaken t =>
    obtain ⟨-, rfl⟩ : _ ∧ t.name = name := by simpa [Passage.listed?] using hp
    exact ⟨rfl, rfl⟩

/-- What is on the list was missing when the caller asked. -/
theorem missing_of_mem_listed (h : Recorded s caller passed [])
    (htables : passed.map Passage.table = catalogTables)
    (hname : name ∈ passed.filterMap (Passage.listed? d)) :
    (name, false) ∈ s.checks caller ∧ (name, true) ∉ s.checks caller := by
  obtain ⟨p, hp, hlisted⟩ := List.mem_filterMap.mp hname
  obtain ⟨hpname, hasked⟩ := asked_of_listed? hlisted
  rw [h.checks, List.append_nil]
  refine ⟨List.mem_map.mpr ⟨p, hp, hasked⟩, fun hthere => ?_⟩
  obtain ⟨q, hq, hqasked⟩ := List.mem_map.mp hthere
  have hqname : q.table.name = name := by
    cases q <;> exact congrArg Prod.fst hqasked
  rw [eq_of_name htables hp hq (hpname.trans hqname.symm), hqasked] at hasked
  cases hasked

end Recorded

/-! ## Convergence -/

theorem ensure_of_mem (ht : t.name ∈ s.tables) (w : Surroundings) (caller : Nat) (d : Descriptor) :
    (ensure (Database.connection w caller) d t s).outcome = .ok [] ∧
      s.tables ⊆ (ensure (Database.connection w caller) d t s).state.tables ∧
      (ensure (Database.connection w caller) d t s).trace = [.inspect, .hasTable t.name] := by
  have hthere : (((s.visit w caller .inspect).visit w caller (.hasTable t.name)).tables.contains
      t.name) = true :=
    List.contains_iff_mem.mpr (Database.tables_subset_visit (Database.tables_subset_visit ht))
  unfold ensure check
  dsimp only [Database.connection]
  rw [hthere]
  exact ⟨rfl, fun _ h => Database.tables_subset_visit (Database.tables_subset_visit h), rfl⟩

/-- Where all tables are there nothing is executed. -/
theorem ensureAll_of_mem (tables : List Table) (h : ∀ t ∈ tables, t.name ∈ s.tables)
    (d : Descriptor) :
    (ensureAll (Database.connection w caller) d tables s).outcome = .ok [] ∧
      ∀ sql, .execute sql ∉ (ensureAll (Database.connection w caller) d tables s).trace := by
  induction tables generalizing s with
  | nil => exact ⟨rfl, fun _ => List.not_mem_nil⟩
  | cons t tables ih =>
    obtain ⟨houtcome, hmore, htrace⟩ :=
      ensure_of_mem (h t List.mem_cons_self) w caller d
    obtain ⟨hrest, hquiet⟩ := ih fun u hu => hmore (h u (List.mem_cons_of_mem t hu))
    unfold ensureAll
    dsimp only
    rw [houtcome]
    dsimp only
    rw [hrest, htrace]
    refine ⟨rfl, fun sql hsql => ?_⟩
    simp only [List.cons_append, List.nil_append, List.mem_cons, reduceCtorEq, false_or] at hsql
    exact hquiet sql hsql

def Surroundings.course (w : Surroundings) (d : Descriptor) (caller : Nat) (tables : List String) :
    Course Database (List String) :=
  establish (Database.connection w caller) d ⟨tables, []⟩

/-- Whatever others create between any two operations, a call that creates the tables ends well and
leaves all of them. It lists every table that its own definition added, and only tables that were
missing when it asked. The next call executes nothing and lists nothing. -/
theorem establish_converges (hw : w.Refuses d) (caller : Nat) (tables : List String) :
    ∃ created, (w.course d caller tables).outcome = .ok created ∧
      (∀ t ∈ catalogTables, t.name ∈ (w.course d caller tables).state.tables) ∧
      (∀ name, (name, false) ∈ (w.course d caller tables).state.creations caller →
        name ∈ created) ∧
      (∀ name ∈ created, (name, false) ∈ (w.course d caller tables).state.checks caller ∧
        (name, true) ∉ (w.course d caller tables).state.checks caller) ∧
      ∀ next,
        (establish (Database.connection w next) d (w.course d caller tables).state).outcome =
            .ok [] ∧
          ∀ sql, .execute sql ∉
            (establish (Database.connection w next) d (w.course d caller tables).state).trace := by
  obtain ⟨n, hend⟩ := Call.reaches_establish (Database.connection w caller) d ⟨tables, []⟩
  unfold Surroundings.course
  generalize establish (Database.connection w caller) d ⟨tables, []⟩ = course at hend ⊢
  have honRecord := (Call.onRecord_start d tables caller).run hw n
  rw [hend] at honRecord
  dsimp only at honRecord
  generalize houtcome : course.outcome = outcome at honRecord
  cases honRecord with
  | ended passed htables record =>
    have hthere : ∀ t ∈ catalogTables, t.name ∈ course.state.tables := by
      intro t ht
      obtain ⟨p, hp, rfl⟩ := List.mem_map.mp (htables ▸ ht : t ∈ passed.map Passage.table)
      exact record.tables p hp
    exact ⟨_, rfl, hthere, fun _ => record.mem_listed_of_added d,
      fun _ => record.missing_of_mem_listed htables, fun _ => ensureAll_of_mem _ hthere d⟩

def overtaking : Surroundings where
  others := fun n => if n == 2 then ["refs"] else []
  refusal := fun _ => ⟨.database "ProgrammingError"
    (some (.plain "DuplicateTable" [.text "relation exists"] [("sqlstate", .text "42P07")])), []⟩

theorem overtaking_refuses : overtaking.Refuses Dialect.postgresql :=
  fun _ _ => ⟨rfl, .text "42P07", rfl, by decide, by decide⟩

theorem establish_converges_overtaken :
    overtaking.Refuses Dialect.postgresql ∧
      ∃ created, (overtaking.course Dialect.postgresql 0 []).outcome = .ok created ∧
        created = ["objs"] ∧
        "refs" ∈ (overtaking.course Dialect.postgresql 0 []).state.tables ∧
        (establish (Database.connection overtaking 1) Dialect.postgresql
          (overtaking.course Dialect.postgresql 0 []).state).outcome = .ok [] := by
  obtain ⟨created, houtcome, hthere, -, -, hnext⟩ := establish_converges overtaking_refuses 0 []
  have hcreated : (overtaking.course Dialect.postgresql 0 []).outcome.toOption = some ["objs"] := by
    decide +kernel
  rw [houtcome] at hcreated
  exact ⟨overtaking_refuses, created, houtcome, Option.some.inj hcreated,
    hthere refsTable List.mem_cons_self, (hnext 1).1⟩

end ObjectCatalog.Schema
