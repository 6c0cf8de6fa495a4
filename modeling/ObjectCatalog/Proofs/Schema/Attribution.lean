import ObjectCatalog.Proofs.Schema.Progress

/-! # Who has created a table

Several callers create the tables of one database in turns, each turn being one operation of one
of them. A table is added by at most one of them. Where an existing table makes a definition fail,
a call lists what it has added itself. Where such a definition is passed over, the call lists the
table as well, and then two callers may list the same one.
-/
namespace ObjectCatalog.Schema

/-! ## Tables that callers have added -/

/-- A table that somebody's definition has added is there, and nobody else's has added it. -/
structure Database.Once (s : Database) : Prop where
  present : ∀ i name, (name, false) ∈ s.creations i → name ∈ s.tables
  owner : ∀ i j name, (name, false) ∈ s.creations i → (name, false) ∈ s.creations j → i = j

namespace Database

variable {w : Surroundings} {caller : Nat} {access : Access} {s s' : Database}

theorem once_nil (tables : List String) : Once ⟨tables, []⟩ where
  present := fun _ _ h => absurd h List.not_mem_nil
  owner := fun _ _ _ h => absurd h List.not_mem_nil

/-- Definitions that add nothing leave it as it is. -/
theorem Once.of_added (h : s.Once) (htables : s.tables ⊆ s'.tables)
    (hadded : ∀ i name, (name, false) ∈ s'.creations i → (name, false) ∈ s.creations i) :
    s'.Once where
  present := fun i name hname => htables (h.present i name (hadded i name hname))
  owner := fun i j name hi hj => h.owner i j name (hadded i name hi) (hadded j name hj)

/-- What is added after a visit and was not before was missing until then. -/
theorem added_of_visit {i : Nat} {name : String}
    (h : (name, false) ∈ (s.visit w caller access).creations i) :
    (name, false) ∈ s.creations i ∨ i = caller ∧ name ∉ s.tables ∧
      Visit.creation? ⟨caller, access, (s.visit w caller access).tables⟩ = some (name, false) := by
  by_cases hi : i = caller
  · subst hi
    rw [creations_visit_self, List.mem_append, Option.mem_toList] at h
    refine h.imp id fun hcreation => ⟨rfl, fun hname => ?_, hcreation⟩
    cases access with
    | execute sql =>
      obtain ⟨asked, -, heq⟩ := Option.map_eq_some_iff.mp hcreation
      obtain ⟨rfl, hmissing⟩ := Prod.mk.inj heq
      have hthere : (s.visit w i (.execute sql)).tables.contains asked.table = true :=
        List.contains_iff_mem.mpr (tables_subset_visit hname)
      cases hthere.symm.trans hmissing
    | _ => cases hcreation
  · rw [(keeps_visit_of_ne (Ne.symm hi)).creations] at h
    exact .inl h

theorem Once.visit (h : s.Once) (hnone : ∀ tables, Visit.creation? ⟨caller, access, tables⟩ = none) :
    (s.visit w caller access).Once := by
  refine h.of_added tables_subset_visit fun i name hadded => ?_
  rcases added_of_visit hadded with hold | ⟨-, -, hcreation⟩
  · exact hold
  · rw [hnone] at hcreation
    cases hcreation

theorem Once.execute (h : s.Once) (refusal : Raised) (sql : String) :
    ((s.visit w caller (.execute sql)).define refusal sql).2.Once where
  present := by
    intro i name hname
    have hkeeps := keeps_define i (s.visit w caller (.execute sql)) refusal sql
    rw [hkeeps.creations] at hname
    rcases added_of_visit hname with hold | ⟨-, -, hcreation⟩
    · exact hkeeps.tables (tables_subset_visit (h.present i name hold))
    · obtain ⟨asked, hread, heq⟩ := Option.map_eq_some_iff.mp hcreation
      obtain ⟨rfl, -⟩ := Prod.mk.inj heq
      exact (define_of_read? hread refusal _).2
  owner := by
    intro i j name hi hj
    rw [(keeps_define i _ refusal sql).creations] at hi
    rw [(keeps_define j _ refusal sql).creations] at hj
    -- Of two callers one at most is the one that has just defined a table.
    rcases added_of_visit hi with hiold | ⟨hicaller, hmissing, -⟩
    · rcases added_of_visit hj with hjold | ⟨-, hmissing, -⟩
      · exact h.owner i j name hiold hjold
      · exact absurd (h.present i name hiold) hmissing
    · rcases added_of_visit hj with hjold | ⟨hjcaller, -, -⟩
      · exact absurd (h.present j name hjold) hmissing
      · exact hicaller.trans hjcaller.symm

theorem Once.step (h : s.Once) (d : Descriptor) (c : Call) :
    (c.step (connection w caller) d s).2.Once :=
  Call.step_induction c h (h.visit fun _ => rfl) (fun _ => h.visit fun _ => rfl)
    (fun _ sql => h.execute _ sql) (h.visit fun _ => rfl) (h.visit fun _ => rfl)

end Database

/-! ## What a record says about the tables on a list -/

namespace Recorded

variable {d : Descriptor} {s : Database} {caller : Nat} {passed : List Passage} {name : String}

theorem name_of_creation? {p : Passage} {there : Bool} (h : p.creation? = some (name, there)) :
    p.table.name = name := by
  cases p with
  | found t => cases h
  | made t => exact congrArg Prod.fst (Option.some.inj h)
  | overtaken t => exact congrArg Prod.fst (Option.some.inj h)

theorem not_added_of_overtaken (h : Recorded s caller passed [])
    (htables : passed.map Passage.table = catalogTables) (hthere : (name, true) ∈ s.creations caller) :
    (name, false) ∉ s.creations caller := by
  intro hadded
  rw [h.creations] at hthere hadded
  obtain ⟨p, hp, hpthere⟩ := List.mem_filterMap.mp hthere
  obtain ⟨q, hq, hqadded⟩ := List.mem_filterMap.mp hadded
  have hname := (name_of_creation? hpthere).trans (name_of_creation? hqadded).symm
  rw [eq_of_name htables hp hq hname, hqadded] at hpthere
  cases hpthere

theorem mem_listed_of_overtaken (h : Recorded s caller passed []) (hcodes : d.codes .exists = [])
    (hthere : (name, true) ∈ s.creations caller) :
    name ∈ passed.filterMap (Passage.listed? d) := by
  rw [h.creations] at hthere
  obtain ⟨p, hp, hpthere⟩ := List.mem_filterMap.mp hthere
  refine List.mem_filterMap.mpr ⟨p, hp, ?_⟩
  cases p with
  | found t => cases hpthere
  | made t => cases hpthere
  | overtaken t =>
    cases hpthere
    simp [Passage.listed?, hcodes]

theorem added_of_mem_listed (h : Recorded s caller passed [])
    (hcase : d.codes .exists ≠ [] ∨ (name, true) ∉ s.creations caller)
    (hname : name ∈ passed.filterMap (Passage.listed? d)) : (name, false) ∈ s.creations caller := by
  obtain ⟨p, hp, hlisted⟩ := List.mem_filterMap.mp hname
  rw [h.creations] at hcase ⊢
  cases p with
  | found t => cases hlisted
  | made t =>
    cases hlisted
    exact List.mem_filterMap.mpr ⟨_, hp, rfl⟩
  | overtaken t =>
    obtain ⟨hcodes, rfl⟩ : d.codes .exists = [] ∧ t.name = name := by
      simpa [Passage.listed?] using hlisted
    rcases hcase with hne | hnot
    · exact absurd hcodes hne
    · have hthere : (t.name, true) ∈ passed.filterMap Passage.creation? :=
        List.mem_filterMap.mpr ⟨.overtaken t, hp, rfl⟩
      exact absurd hthere hnot

end Recorded

/-! ## Callers in turns -/

structure System where
  database : Database
  calls : Nat → Call

namespace System

variable {w : Surroundings} {d : Descriptor} {S : System}

def fresh (tables : List String) : System := ⟨⟨tables, []⟩, fun _ => .start⟩

def advance (w : Surroundings) (d : Descriptor) (S : System) (i : Nat) : System where
  database := ((S.calls i).step (Database.connection w i) d S.database).2
  calls := fun j =>
    if j = i then ((S.calls i).step (Database.connection w i) d S.database).1 else S.calls j

def run (w : Surroundings) (d : Descriptor) (S : System) (turns : List Nat) : System :=
  turns.foldl (advance w d) S

def returned? (S : System) (i : Nat) : Option (List String) :=
  match S.calls i with
  | .ended (.ok names) => some names
  | _ => none

/-- A caller lists only what its own definitions have added, and no two callers list the same. -/
structure AttributesOnce (S : System) : Prop where
  added : ∀ i names, S.returned? i = some names →
    ∀ name ∈ names, (name, false) ∈ S.database.creations i
  apart : ∀ i j mine yours, S.returned? i = some mine → S.returned? j = some yours →
    ∀ name ∈ mine, name ∈ yours → i = j

structure OnRecord (d : Descriptor) (S : System) : Prop where
  once : S.database.Once
  calls : ∀ i, (S.calls i).OnRecord d S.database i

theorem onRecord_fresh (d : Descriptor) (tables : List String) : (fresh tables).OnRecord d :=
  ⟨Database.once_nil tables, Call.onRecord_start d tables⟩

theorem OnRecord.advance (hw : w.Refuses d) (h : S.OnRecord d) (i : Nat) :
    (S.advance w d i).OnRecord d where
  once := h.once.step d (S.calls i)
  calls := by
    intro j
    unfold System.advance
    dsimp only
    split_ifs with hj
    · subst hj
      exact (h.calls j).step hw
    · exact (h.calls j).keeps (Database.keeps_step_of_ne (Ne.symm hj) d (S.calls i))

theorem OnRecord.run (hw : w.Refuses d) (h : S.OnRecord d) (turns : List Nat) :
    (S.run w d turns).OnRecord d := by
  induction turns generalizing S with
  | nil => exact h
  | cons i turns ih => exact ih (h.advance hw i)

theorem OnRecord.passed_of_returned (h : S.OnRecord d) {i : Nat} {names : List String}
    (hreturned : S.returned? i = some names) : ∃ passed,
      names = passed.filterMap (Passage.listed? d) ∧ passed.map Passage.table = catalogTables ∧
        Recorded S.database i passed [] := by
  have hcall := h.calls i
  unfold returned? at hreturned
  generalize S.calls i = c at hcall hreturned
  cases hcall with
  | running passed htables record => cases hreturned
  | ended passed htables record =>
    cases hreturned
    exact ⟨passed, rfl, htables, record⟩

/-- In any order of turns, the callers list what they have added if an existing table makes a
definition fail. Otherwise they do so exactly as long as no caller that has returned has defined a
table that was there by then. -/
theorem attributesOnce_run_iff (hw : w.Refuses d) (tables : List String) (turns : List Nat) :
    ((fresh tables).run w d turns).AttributesOnce ↔ d.codes .exists ≠ [] ∨
      ∀ i names, ((fresh tables).run w d turns).returned? i = some names →
        ∀ name, (name, true) ∉ ((fresh tables).run w d turns).database.creations i := by
  have h : ((fresh tables).run w d turns).OnRecord d := (onRecord_fresh d tables).run hw turns
  generalize (fresh tables).run w d turns = S at h ⊢
  constructor
  · rintro ⟨hadded, -⟩
    by_contra hneither
    obtain ⟨hcodes, hovertaken⟩ := not_or.mp hneither
    rw [not_not] at hcodes
    push Not at hovertaken
    obtain ⟨i, names, hreturned, name, hthere⟩ := hovertaken
    obtain ⟨passed, rfl, htables, record⟩ := h.passed_of_returned hreturned
    have hname := record.mem_listed_of_overtaken hcodes hthere
    exact record.not_added_of_overtaken htables hthere (hadded i _ hreturned name hname)
  · intro hcase
    have hadded : ∀ i names, S.returned? i = some names → ∀ name ∈ names,
        (name, false) ∈ S.database.creations i := by
      intro i names hreturned name hname
      obtain ⟨passed, rfl, -, record⟩ := h.passed_of_returned hreturned
      exact record.added_of_mem_listed (hcase.imp id fun hnone => hnone i _ hreturned name) hname
    refine ⟨hadded, fun i j mine yours hi hj name hmine hyours => ?_⟩
    exact h.once.owner i j name (hadded i mine hi name hmine) (hadded j yours hj name hyours)

def alone : Surroundings where
  others := fun _ => []
  refusal := overtaking.refusal

/-- Two callers find a table missing before either defines it. -/
def crossing : List Nat := [0, 0, 1, 1] ++ List.replicate 4 0 ++ List.replicate 4 1

theorem attributesOnce_crossing :
    alone.Refuses Dialect.postgresql ∧
      ((fresh ["objs"]).run alone Dialect.postgresql crossing).AttributesOnce := by
  have hrefuses : alone.Refuses Dialect.postgresql := overtaking_refuses
  exact ⟨hrefuses, (attributesOnce_run_iff hrefuses ["objs"] crossing).mpr (.inl (by decide))⟩

/-- Where a definition passes over an existing table, both of them list it. -/
theorem refs_returned_twice :
    alone.Refuses Dialect.sqlite ∧
      ((fresh ["objs"]).run alone Dialect.sqlite crossing).returned? 0 = some ["refs"] ∧
      ((fresh ["objs"]).run alone Dialect.sqlite crossing).returned? 1 = some ["refs"] := by
  refine ⟨fun hcodes => absurd rfl hcodes, ?_⟩
  decide +kernel

end System

end ObjectCatalog.Schema
