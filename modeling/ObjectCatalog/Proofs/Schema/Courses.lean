import ObjectCatalog.Proofs.Failure.Blocks
import ObjectCatalog.Schema.Initialization

/-! # The course of a call, part by part

What the definition of a table comes to decides how its block is left, that decides whether the
table is created, and this what is done for the table. A failure counts as success exactly if it
is classified as the failure of a definition whose table exists.
-/
namespace ObjectCatalog.Schema

variable {σ α : Type} {conn : Connection σ} {d : Descriptor} {t : Table} {s : σ} {r : Raised}

def raisedBy? : Except Raised α → Option Raised
  | .ok _ => none
  | .error r => some r

def leftBy (d : Descriptor) (t : Table) (r : Raised) : Option (Except Raised Unit) → Raised
  | none => r
  | some ending =>
    (d.leaveFailed .blocking (some ("create table " ++ t.name)) r (raisedBy? ending)).1

/-! ## Parts of a course -/

theorem defineGuarded_eq_of_ok (h : (define conn d t s).outcome = .ok ()) :
    defineGuarded conn d t s = define conn d t s := by
  unfold defineGuarded
  dsimp only
  rw [h]

theorem defineGuarded_eq_of_not_database (h : (define conn d t s).outcome = .error r)
    (hother : r.failure.isDatabase = false) : defineGuarded conn d t s = define conn d t s := by
  unfold defineGuarded
  dsimp only
  rw [h]
  dsimp only
  rw [hother]
  rfl

theorem defineGuarded_eq_of_database (h : (define conn d t s).outcome = .error r)
    (hdatabase : r.failure.isDatabase = true) :
    defineGuarded conn d t s =
      ⟨.error (leftBy d t r (some (conn.rollback (define conn d t s).state).1)),
        (conn.rollback (define conn d t s).state).2, (define conn d t s).trace ++ [.rollback],
        (d.leaveFailed .blocking (some ("create table " ++ t.name)) r
          (raisedBy? (conn.rollback (define conn d t s).state).1)).2⟩ := by
  unfold defineGuarded
  simp only [h, hdatabase, if_true]
  cases (conn.rollback (define conn d t s).state).1 <;> rfl

theorem create_eq_of_ok (h : (defineGuarded conn d t s).outcome = .ok ()) :
    create conn d t s = ⟨.ok true, (defineGuarded conn d t s).state,
      (defineGuarded conn d t s).trace,
      (defineGuarded conn d t s).events ++ [createdEvent t d]⟩ := by
  unfold create
  simp only [h]

theorem create_eq_of_error (h : (defineGuarded conn d t s).outcome = .error r) :
    create conn d t s = ⟨if saysExists r then .ok false else .error r,
      (defineGuarded conn d t s).state, (defineGuarded conn d t s).trace,
      (defineGuarded conn d t s).events ++
        if saysExists r then [concurrentEvent t d] else []⟩ := by
  unfold create
  simp only [h]
  cases saysExists r with
  | true => rfl
  | false =>
    simp only [Bool.false_eq_true, if_false, List.append_nil]

theorem ensure_eq_of_error (h : (check conn d t s).outcome = .error r) :
    ensure conn d t s = ⟨.error r, (check conn d t s).state, (check conn d t s).trace,
      (check conn d t s).events⟩ := by
  unfold ensure
  simp only [h]

theorem ensure_eq_of_found (h : (check conn d t s).outcome = .ok true) :
    ensure conn d t s = ⟨.ok [], (check conn d t s).state, (check conn d t s).trace,
      (check conn d t s).events⟩ := by
  unfold ensure
  simp only [h]

theorem ensure_eq_of_missing (h : (check conn d t s).outcome = .ok false) :
    ensure conn d t s =
      let made := create conn d t (check conn d t s).state
      ⟨made.outcome.map fun made => if made then [t.name] else [], made.state,
        (check conn d t s).trace ++ made.trace, (check conn d t s).events ++ made.events⟩ := by
  unfold ensure
  simp only [h]

/-! ## Failures that count as success -/

theorem saysExists_iff : saysExists r = true ↔
    ∃ e attributes, r.failure = .fault (.store e attributes) ∧ e.kind = .alreadyExists := by
  unfold saysExists
  split
  · rename_i e attributes hfailure
    rw [decide_eq_true_iff, hfailure]
    constructor
    · exact fun hkind => ⟨e, attributes, rfl, hkind⟩
    · rintro ⟨_, _, ⟨⟩, hkind⟩
      exact hkind
  · rename_i hother
    refine iff_of_false Bool.false_ne_true ?_
    rintro ⟨e, attributes, hfailure, -⟩
    exact hother e attributes hfailure

theorem saysExists_of_isInterrupt (h : r.isInterrupt = true) : saysExists r = false := by
  rw [← Bool.not_eq_true, saysExists_iff]
  rintro ⟨e, attributes, hfailure, -⟩
  unfold Raised.isInterrupt at h
  rw [hfailure] at h
  cases h

/-- The error made of a failure says that a table exists exactly if the failure is classified so. -/
theorem saysExists_raiseMapped_iff (operation : Option String) :
    saysExists (d.raiseMapped operation r) = true ↔
      (d.classifyFailure r.failure).category = .alreadyExists := by
  unfold Descriptor.raiseMapped
  cases hmap : d.mapFailure operation r.failure with
  | ok e =>
    obtain ⟨rfl, -⟩ := Descriptor.mapFailure_eq_ok_iff.mp hmap
    dsimp only [saysExists, Raised.store, Failure.store, Descriptor.storeError]
    rw [decide_eq_true_iff]
    exact Category.errorClass_eq_iff (k := .alreadyExists)
  | error f =>
    have hreported := Descriptor.mapFailure_eq_error_iff.mp hmap
    obtain ⟨hcategory, detail, rfl⟩ := Descriptor.wordless_of_reportedClass hreported
    rw [hcategory]
    exact iff_of_false Bool.false_ne_true nofun

end ObjectCatalog.Schema
