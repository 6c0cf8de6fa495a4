import Mathlib.Data.List.Basic
import ObjectCatalog.Proofs.Failure.Consistency
import ObjectCatalog.Proofs.Schema.Calls
import ObjectCatalog.Proofs.Schema.Definitions

/-! # A database that several processes create tables in

Of a database only its tables count. It reads the front of a statement to know which table it asks
for, and whether it passes over one that is there; a plain definition of such a table fails and
changes nothing. Between any two visits to the database other processes may create tables.

Every visit is kept, with the tables that it met. So it can be told afterwards which tables a caller
found missing, and which of them its own definition added.
-/
namespace ObjectCatalog.Schema

structure Definition where
  table : String
  guarded : Bool
  deriving DecidableEq

namespace Definition

def opening : List Char := "CREATE TABLE ".toList

def guard : List Char := "IF NOT EXISTS ".toList

def nameOf (text : List Char) : String := String.ofList (text.takeWhile (· != ' '))

def read? (sql : String) : Option Definition :=
  (sql.toList.dropPrefix? opening).map fun rest =>
    match rest.dropPrefix? guard with
    | some rest => ⟨nameOf rest, true⟩
    | none => ⟨nameOf rest, false⟩

end Definition

structure Visit where
  caller : Nat
  access : Access
  tables : List String

namespace Visit

def check? (v : Visit) : Option (String × Bool) :=
  match v.access with
  | .hasTable name => some (name, v.tables.contains name)
  | _ => none

def creation? (v : Visit) : Option (String × Bool) :=
  match v.access with
  | .execute sql =>
    (Definition.read? sql).map fun asked => (asked.table, v.tables.contains asked.table)
  | _ => none

end Visit

structure Database where
  tables : List String
  visits : List Visit

/-- What other processes create before the visit of a number, and the failure of a plain
definition at the visit of a number whose table exists. -/
structure Surroundings where
  others : Nat → List String
  refusal : Nat → Raised

/-- A failure of the database layer in which the driver's error has a code by which the dialect
knows that a table exists. -/
def Refusal (d : Descriptor) (r : Raised) : Prop :=
  r.failure.isDatabase = true ∧ r.failure.HasCodeIn (d.codes .exists)

/-- A dialect without codes for an existing table makes no plain definitions. -/
def Surroundings.Refuses (w : Surroundings) (d : Descriptor) : Prop :=
  d.codes .exists ≠ [] → ∀ n, Refusal d (w.refusal n)

namespace Database

def visit (w : Surroundings) (caller : Nat) (access : Access) (s : Database) : Database :=
  let tables := s.tables ++ w.others s.visits.length
  ⟨tables, s.visits ++ [⟨caller, access, tables⟩]⟩

def define (refusal : Raised) (sql : String) (s : Database) : Except Raised Unit × Database :=
  match Definition.read? sql with
  | none => (.ok (), s)
  | some asked =>
    if s.tables.contains asked.table then (if asked.guarded then .ok () else .error refusal, s)
    else (.ok (), { s with tables := s.tables ++ [asked.table] })

def connection (w : Surroundings) (caller : Nat) : Connection Database where
  inspect := fun s => (.ok (), s.visit w caller .inspect)
  hasTable := fun t s =>
    let s := s.visit w caller (.hasTable t.name)
    (.ok (s.tables.contains t.name), s)
  execute := fun _ sql s => (s.visit w caller (.execute sql)).define (w.refusal s.visits.length) sql
  commit := fun s => (.ok (), s.visit w caller .commit)
  rollback := fun s => (.ok (), s.visit w caller .rollback)

def visitsOf (s : Database) (caller : Nat) : List Visit :=
  s.visits.filter fun v => v.caller == caller

def checks (s : Database) (caller : Nat) : List (String × Bool) :=
  (s.visitsOf caller).filterMap Visit.check?

def creations (s : Database) (caller : Nat) : List (String × Bool) :=
  (s.visitsOf caller).filterMap Visit.creation?

end Database

/-! ## Statements as the database reads them -/

namespace Definition

variable {name rest : List Char}

theorem nameOf_append (h : ' ' ∉ name) : nameOf (name ++ ' ' :: rest) = String.ofList name := by
  unfold nameOf
  rw [List.takeWhile_append_of_pos]
  · simp
  · intro c hc
    have hne : c ≠ ' ' := fun heq => h (heq ▸ hc)
    simpa using hne

/-- A name followed by a parenthesis is not mistaken for the guard. -/
theorem dropPrefix?_guard (h : ' ' ∉ name) :
    (name ++ ' ' :: '(' :: rest).dropPrefix? guard = none := by
  rw [← Option.not_isSome_iff_eq_none, Option.isSome_iff_exists]
  rintro ⟨more, hmore⟩
  obtain ⟨front, heq, hfront⟩ := List.dropPrefix?_eq_some_iff.mp hmore
  have hguard : front = ['I', 'F', ' ', 'N', 'O', 'T', ' ', 'E', 'X', 'I', 'S', 'T', 'S', ' '] :=
    eq_of_beq hfront
  subst hguard
  rcases name with _ | ⟨a, _ | ⟨b, _ | ⟨c, name⟩⟩⟩
  · simp at heq
  · simp at heq
  · simp at heq
  · simp only [List.cons_append, List.cons.injEq] at heq
    obtain ⟨-, -, rfl, -⟩ := heq
    exact h (by simp)

/-- The database reads a statement as the definition of its table, and finds it guarded exactly if
the dialect has no code for an existing table. -/
theorem read?_createStatement {t : Table} (h : ' ' ∉ t.name.toList) (d : Descriptor) :
    read? (t.createStatement d) = some ⟨t.name, (d.codes .exists).isEmpty⟩ := by
  obtain ⟨rest, hrest⟩ : ∃ rest, (t.createStatement d).toList =
      opening ++ ((Table.existsClause d).toList ++ (t.name.toList ++ ' ' :: '(' :: rest)) := by
    rw [Table.toList_createStatement, String.toList_append, List.append_assoc]
    exact ⟨_, rfl⟩
  unfold read?
  rw [hrest, List.dropPrefix?_append_of_beq _ (beq_self_eq_true _), Option.map_some]
  unfold Table.existsClause
  cases (d.codes .exists).isEmpty with
  | true =>
    rw [if_pos rfl, List.dropPrefix?_append_of_beq _ (by decide)]
    simp only [nameOf_append h, String.ofList_toList]
  | false =>
    rw [if_neg Bool.false_ne_true]
    show some (match (t.name.toList ++ ' ' :: '(' :: rest).dropPrefix? guard with
      | some rest => Definition.mk (nameOf rest) true
      | none => ⟨nameOf (t.name.toList ++ ' ' :: '(' :: rest), false⟩) = _
    rw [dropPrefix?_guard h, nameOf_append h, String.ofList_toList]

end Definition

/-! ## What an operation does to the record of a caller -/

namespace Database

variable {w : Surroundings} {caller other : Nat} {access : Access} {s s' s'' : Database}

/-- Between two states nothing is added to what a caller has asked after and defined, and no table
has gone. -/
structure Keeps (caller : Nat) (s s' : Database) : Prop where
  checks : s'.checks caller = s.checks caller
  creations : s'.creations caller = s.creations caller
  tables : s.tables ⊆ s'.tables

theorem Keeps.refl (caller : Nat) (s : Database) : Keeps caller s s := ⟨rfl, rfl, fun _ h => h⟩

theorem Keeps.trans (h : Keeps caller s s') (h' : Keeps caller s' s'') : Keeps caller s s'' where
  checks := h'.checks.trans h.checks
  creations := h'.creations.trans h.creations
  tables := fun _ hname => h'.tables (h.tables hname)

theorem tables_subset_visit : s.tables ⊆ (s.visit w caller access).tables :=
  List.subset_append_left ..

theorem visitsOf_visit_self : (s.visit w caller access).visitsOf caller =
    s.visitsOf caller ++ [⟨caller, access, (s.visit w caller access).tables⟩] := by
  simp [visitsOf, visit]

theorem visitsOf_visit_of_ne (h : caller ≠ other) :
    (s.visit w caller access).visitsOf other = s.visitsOf other := by
  simp [visitsOf, visit, h]

theorem checks_visit_self : (s.visit w caller access).checks caller = s.checks caller ++
    (Visit.check? ⟨caller, access, (s.visit w caller access).tables⟩).toList := by
  unfold checks
  rw [visitsOf_visit_self, List.filterMap_append]
  cases h : Visit.check? ⟨caller, access, (s.visit w caller access).tables⟩ <;> simp [h]

theorem creations_visit_self : (s.visit w caller access).creations caller = s.creations caller ++
    (Visit.creation? ⟨caller, access, (s.visit w caller access).tables⟩).toList := by
  unfold creations
  rw [visitsOf_visit_self, List.filterMap_append]
  cases h : Visit.creation? ⟨caller, access, (s.visit w caller access).tables⟩ <;> simp [h]

theorem keeps_visit_of_ne (h : caller ≠ other) : Keeps other s (s.visit w caller access) where
  checks := by rw [checks, visitsOf_visit_of_ne h, checks]
  creations := by rw [creations, visitsOf_visit_of_ne h, creations]
  tables := tables_subset_visit

/-- A visit for neither a table nor its definition. -/
theorem keeps_visit_self
    (hcheck : Visit.check? ⟨caller, access, (s.visit w caller access).tables⟩ = none)
    (hcreation : Visit.creation? ⟨caller, access, (s.visit w caller access).tables⟩ = none) :
    Keeps caller s (s.visit w caller access) where
  checks := by rw [checks_visit_self, hcheck, Option.toList_none, List.append_nil]
  creations := by rw [creations_visit_self, hcreation, Option.toList_none, List.append_nil]
  tables := tables_subset_visit

theorem keeps_define (caller : Nat) (s : Database) (refusal : Raised) (sql : String) :
    Keeps caller s (s.define refusal sql).2 := by
  unfold define
  cases Definition.read? sql with
  | none => exact .refl _ _
  | some asked =>
    dsimp only
    split
    · exact .refl _ _
    · exact ⟨rfl, rfl, List.subset_append_left ..⟩

/-- What the database answers to a definition, by whether its table is there. -/
theorem define_of_read? {sql : String} {asked : Definition} (h : Definition.read? sql = some asked)
    (refusal : Raised) (s : Database) :
    (s.define refusal sql).1 =
        (if s.tables.contains asked.table && !asked.guarded then .error refusal else .ok ()) ∧
      asked.table ∈ (s.define refusal sql).2.tables := by
  unfold define
  rw [h]
  dsimp only
  cases hthere : s.tables.contains asked.table with
  | false => exact ⟨rfl, List.mem_append_right _ (List.mem_singleton.mpr rfl)⟩
  | true =>
    refine ⟨?_, List.contains_iff_mem.mp hthere⟩
    cases asked.guarded <;> rfl

theorem hasTable_self (w : Surroundings) (caller : Nat) (s : Database) (t : Table) :
    (s.visit w caller (.hasTable t.name)).checks caller =
        s.checks caller ++ [(t.name, (s.visit w caller (.hasTable t.name)).tables.contains t.name)] ∧
      (s.visit w caller (.hasTable t.name)).creations caller = s.creations caller :=
  ⟨checks_visit_self, creations_visit_self.trans (List.append_nil _)⟩

theorem execute_self {sql : String} {asked : Definition} (h : Definition.read? sql = some asked)
    (w : Surroundings) (caller : Nat) (s : Database) :
    (s.visit w caller (.execute sql)).creations caller = s.creations caller ++
        [(asked.table, (s.visit w caller (.execute sql)).tables.contains asked.table)] ∧
      (s.visit w caller (.execute sql)).checks caller = s.checks caller := by
  have hcreation : Visit.creation? ⟨caller, .execute sql, (s.visit w caller (.execute sql)).tables⟩ =
      some (asked.table, (s.visit w caller (.execute sql)).tables.contains asked.table) := by
    simp [Visit.creation?, h]
  refine ⟨?_, checks_visit_self.trans (List.append_nil _)⟩
  rw [creations_visit_self, hcreation, Option.toList_some]

theorem execute_connection (w : Surroundings) (caller : Nat) (t : Table) (sql : String)
    (s : Database) : (connection w caller).execute t sql s =
      (s.visit w caller (.execute sql)).define (w.refusal s.visits.length) sql := rfl

/-- An operation of one caller leaves the records of the others as they are. -/
theorem keeps_step_of_ne (h : caller ≠ other) (d : Descriptor) (c : Call) :
    Keeps other s (c.step (connection w caller) d s).2 :=
  Call.step_induction c (.refl _ _) (keeps_visit_of_ne h) (fun _ => keeps_visit_of_ne h)
    (fun _ sql => (keeps_visit_of_ne h).trans (keeps_define _ _ _ sql)) (keeps_visit_of_ne h)
    (keeps_visit_of_ne h)

end Database

end ObjectCatalog.Schema
