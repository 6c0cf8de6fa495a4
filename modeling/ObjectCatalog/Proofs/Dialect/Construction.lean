import Mathlib.Data.String.Basic
import ObjectCatalog.Proofs.Dialect.Classes

/-! # Which descriptors can be built

A descriptor is built exactly from a declaration that names a type for every kind of column and that
claims no code twice. The other declarations are rejected for what is wrong with them: for the kinds
without a type first, and then for the first two sets with a code in common.

In a descriptor that has been built no code is in two sets, so the order in which the sets are
searched for a code has no influence on what the code means.
-/
namespace ObjectCatalog

open CodeSet (constraint retry)

/-! ## Codes -/

def CodeSet.Separate (codes : CodeSet → List String) : Prop :=
  ∀ s t, s ≠ t → (codes s).Disjoint (codes t)

/-- The two are the first sets with a code in common, in the order in which pairs are written
down. -/
inductive CodeSet.FirstOverlap (codes : CodeSet → List String) : CodeSet → CodeSet → Prop
  | constraintRetry (h : ¬ (codes constraint).Disjoint (codes retry)) :
    FirstOverlap codes constraint retry
  | constraintExists (hretry : (codes constraint).Disjoint (codes retry))
    (h : ¬ (codes constraint).Disjoint (codes .exists)) : FirstOverlap codes constraint .exists
  | retryExists (hretry : (codes constraint).Disjoint (codes retry))
    (hexists : (codes constraint).Disjoint (codes .exists))
    (h : ¬ (codes retry).Disjoint (codes .exists)) : FirstOverlap codes retry .exists

theorem CodeSet.FirstOverlap.not_separate {codes : CodeSet → List String} {left right : CodeSet}
    (h : FirstOverlap codes left right) : ¬ Separate codes := by
  intro hseparate
  cases h with
  | constraintRetry h => exact h (hseparate _ _ (by decide))
  | constraintExists _ h => exact h (hseparate _ _ (by decide))
  | retryExists _ _ h => exact h (hseparate _ _ (by decide))

theorem mem_sortedDistinct {codes : List String} {code : String} :
    code ∈ sortedDistinct codes ↔ code ∈ codes := by
  rw [sortedDistinct, List.mem_mergeSort, List.mem_eraseDups]

theorem nodup_eraseDups : (codes : List String) → codes.eraseDups.Nodup
  | [] => List.nodup_nil
  | code :: codes => by
    rw [List.eraseDups_cons, List.nodup_cons, List.mem_eraseDups]
    exact ⟨by simp, nodup_eraseDups _⟩
termination_by codes => codes.length
decreasing_by exact Nat.lt_succ_of_le (List.length_filter_le _ _)

theorem sortedDistinct_ascending (codes : List String) :
    (sortedDistinct codes).Pairwise (· < ·) := by
  have hle : (sortedDistinct codes).Pairwise fun a b => decide (a ≤ b) = true := by
    refine List.pairwise_mergeSort ?_ ?_ _
    · intro a b c hab hbc
      exact decide_eq_true ((of_decide_eq_true hab).trans (of_decide_eq_true hbc))
    · intro a b
      simpa using le_total a b
  have hne : (sortedDistinct codes).Pairwise (· ≠ ·) :=
    (List.mergeSort_perm _ _).nodup_iff.mpr (nodup_eraseDups codes)
  exact hle.imp₂ (fun a b hab hne => lt_of_le_of_ne (of_decide_eq_true hab) hne) hne

namespace Declaration

variable {decl : Declaration} {left right : CodeSet}

theorem sharedCodes_isEmpty_iff :
    (decl.sharedCodes left right).isEmpty = true ↔
      (decl.codes left).Disjoint (decl.codes right) := by
  rw [List.isEmpty_iff, sharedCodes, List.filter_eq_nil_iff]
  simp only [List.contains_iff_mem]
  rfl

theorem mem_sharedCodes {code : String} :
    code ∈ decl.sharedCodes left right ↔ code ∈ decl.codes left ∧ code ∈ decl.codes right := by
  rw [sharedCodes, List.mem_filter, List.contains_iff_mem]

theorem firstOverlap_of_overlap? (h : decl.overlap? = some (left, right)) :
    CodeSet.FirstOverlap decl.codes left right := by
  have hshared (s t : CodeSet) : (!(decl.sharedCodes s t).isEmpty) = true ↔
      ¬ (decl.codes s).Disjoint (decl.codes t) := by
    rw [← sharedCodes_isEmpty_iff, Bool.not_eq_true, Bool.not_eq_true']
  have hnone (s t : CodeSet) : (!(decl.sharedCodes s t).isEmpty) = false ↔
      (decl.codes s).Disjoint (decl.codes t) := by
    rw [← sharedCodes_isEmpty_iff, Bool.not_eq_false']
  simp only [overlap?, codePairs, List.find?_cons, List.find?_nil] at h
  split at h
  case h_1 hretry =>
    cases h
    exact .constraintRetry ((hshared _ _).mp hretry)
  case h_2 hretry =>
    split at h
    case h_1 hexists =>
      cases h
      exact .constraintExists ((hnone _ _).mp hretry) ((hshared _ _).mp hexists)
    case h_2 hexists =>
      split at h
      case h_1 hrest =>
        cases h
        exact .retryExists ((hnone _ _).mp hretry) ((hnone _ _).mp hexists) ((hshared _ _).mp hrest)
      case h_2 => cases h

/-! ## Declarations by members -/

def naming (family : Family) (adapter : Adapter) (types : List (LogicalType × ColumnType))
    (codes : CodeSet → List String) : Declaration where
  family := family.value
  adapter := adapter
  columnTypes := types.map fun entry => (entry.1.value, entry.2)
  constraintCodes := codes .constraint
  retryCodes := codes .retry
  existsCodes := codes .exists

def untyped (types : List (LogicalType × ColumnType)) : List LogicalType :=
  LogicalType.all.filter fun t => decide (t ∉ types.map Prod.fst)

variable {family : Family} {adapter : Adapter} {types : List (LogicalType × ColumnType)}
  {codes : CodeSet → List String}

theorem codes_naming : (naming family adapter types codes).codes = codes := by
  funext s
  cases s <;> rfl

theorem family?_naming : (naming family adapter types codes).family? = .ok family := by
  unfold family? naming
  rw [Family.ofValue?_value]

theorem resolveTypes_naming :
    resolveTypes (naming family adapter types codes).columnTypes = .ok types := by
  show resolveTypes (types.map fun entry => (entry.1.value, entry.2)) = .ok types
  induction types with
  | nil => rfl
  | cons entry types ih =>
    simp only [List.map_cons, resolveTypes, LogicalType.ofValue?_value, ih]
    rfl

theorem missingTypes_eq (types : List (LogicalType × ColumnType)) :
    missingTypes types = untyped types := by
  refine List.filter_congr fun t _ => ?_
  rw [Bool.eq_iff_iff, Option.isNone_iff_eq_none, List.lookup_eq_none_iff, decide_eq_true_iff,
    List.mem_map]
  constructor
  · rintro h ⟨entry, hentry, rfl⟩
    exact absurd (h entry hentry) (by simp)
  · intro h entry hentry
    rw [bne_iff_ne]
    rintro rfl
    exact h ⟨entry, hentry, rfl⟩

theorem untyped_eq_nil_iff : untyped types = [] ↔ ∀ t, t ∈ types.map Prod.fst := by
  rw [untyped, List.filter_eq_nil_iff]
  simp only [LogicalType.mem_all, forall_const, decide_eq_true_iff, not_not]

/-- What becomes of a declaration. -/
theorem build_naming_cases (family : Family) (adapter : Adapter)
    (types : List (LogicalType × ColumnType)) (codes : CodeSet → List String) :
    (untyped types ≠ [] ∧ (naming family adapter types codes).build =
      .error (.missingTypes family (untyped types))) ∨
    untyped types = [] ∧ ((∃ left right, CodeSet.FirstOverlap codes left right ∧
        (naming family adapter types codes).build = .error (.sharedCodes family left right
          (sortedDistinct ((naming family adapter types codes).sharedCodes left right)))) ∨
      CodeSet.Separate codes ∧ ∃ d, (naming family adapter types codes).build = .ok d) := by
  unfold build
  rw [family?_naming, resolveTypes_naming]
  simp only [bind, Except.bind]
  split
  · rename_i hcomplete
    rw [missingTypes_eq] at hcomplete
    refine .inr ⟨hcomplete, ?_⟩
    split
    · rename_i left right hoverlap
      have hfirst := firstOverlap_of_overlap? hoverlap
      rw [codes_naming] at hfirst
      exact .inl ⟨left, right, hfirst, rfl⟩
    · rename_i hoverlap
      have hseparate : CodeSet.Separate (naming family adapter types codes).codes :=
        disjoint_of_overlap? hoverlap
      rw [codes_naming] at hseparate
      exact .inr ⟨hseparate, _, rfl⟩
  · rename_i hmissing
    rw [missingTypes_eq] at hmissing
    rw [missingTypes_eq]
    exact .inl ⟨hmissing, rfl⟩

end Declaration

namespace Descriptor

/-! ## Descriptors -/

/-- What a code means if the sets are searched for it in this order. -/
def classifyIn (d : Descriptor) (order : List CodeSet) (code : String) : Category :=
  match order.find? fun s => d.hasCode s code with
  | some s => s.category
  | none => .unclassified

/-- A code means one thing at most, in whatever order the sets are searched for it. -/
structure Unambiguous (d : Descriptor) : Prop where
  single : ∀ code s t, d.hasCode s code = true → d.hasCode t code = true → s = t
  category : ∀ code s, code ≠ "" → d.hasCode s code = true → d.classify (some code) = s.category
  unclassified : ∀ code, code ≠ "" →
    (d.classify (some code) = .unclassified ↔ ∀ s, d.hasCode s code = false)
  order : ∀ order, order.Perm [.constraint, .retry, .exists] → ∀ code, code ≠ "" →
    d.classifyIn order code = d.classify (some code)
  missing : d.classify none = .unclassified
  empty : d.classify (some "") = .unclassified

theorem eq_of_hasCode {d : Descriptor} {code : String} {s t : CodeSet}
    (hs : d.hasCode s code = true) (ht : d.hasCode t code = true) : s = t := by
  by_contra hne
  exact d.disjoint s t hne code (hasCode_iff.mp hs) (hasCode_iff.mp ht)

/-- Whichever set is found first, it is the only one with the code. -/
theorem classifyIn_eq (d : Descriptor) {order : List CodeSet} (horder : ∀ s, s ∈ order)
    {code : String} (hne : code ≠ "") : d.classifyIn order code = d.classify (some code) := by
  unfold classifyIn
  split
  · rename_i s hfind
    have hcode : d.hasCode s code = true := by simpa using List.find?_some hfind
    exact (classify_of_mem hne (hasCode_iff.mp hcode)).symm
  · rename_i hfind
    refine (classify_of_notMem fun s hs => ?_).symm
    exact List.find?_eq_none.mp hfind s (horder s) (hasCode_iff.mpr hs)

theorem unambiguous (d : Descriptor) : d.Unambiguous where
  single _ _ _ hs ht := eq_of_hasCode hs ht
  category _ _ hne h := classify_of_mem hne (hasCode_iff.mp h)
  unclassified _ hne := by
    rw [classify_eq_unclassified_iff hne]
    exact forall_congr' fun s => hasCode_eq_false_iff.symm
  order order hperm _ hne := by
    refine d.classifyIn_eq (fun s => hperm.mem_iff.mpr ?_) hne
    cases s <;> decide
  missing := rfl
  empty := rfl

end Descriptor

namespace Declaration

def Refused (decl : Declaration) (e : BuildError) (text : String) : Prop :=
  decl.build = .error e ∧ e.message = text

/-- A declaration is built into a descriptor exactly if it names a type for every kind of column
and claims no code twice. It is refused for all kinds without a type, or else for the first codes
that it claims twice. A code has one meaning for the descriptor, whichever way it is looked up. -/
theorem build_naming (family : Family) (adapter : Adapter)
    (types : List (LogicalType × ColumnType)) (codes : CodeSet → List String) :
    ((∃ d, (naming family adapter types codes).build = .ok d) ↔
        (∀ t, t ∈ types.map Prod.fst) ∧ CodeSet.Separate codes) ∧
      (¬ (∀ t, t ∈ types.map Prod.fst) →
        (naming family adapter types codes).Refused (.missingTypes family (untyped types))
          (family.value ++ ": no column type for " ++
            String.intercalate ", " ((untyped types).map LogicalType.label))) ∧
      ((∀ t, t ∈ types.map Prod.fst) → ¬ CodeSet.Separate codes → ∃ left right shared,
        CodeSet.FirstOverlap codes left right ∧ shared.Pairwise (· < ·) ∧
          (∀ code, code ∈ shared ↔ code ∈ codes left ∧ code ∈ codes right) ∧
          (naming family adapter types codes).Refused (.sharedCodes family left right shared)
            (family.value ++ ": code(s) " ++ Text.quoteList shared ++ " are both " ++ left.name ++
              " and " ++ right.name)) ∧
      ∀ d, (naming family adapter types codes).build = .ok d →
        d.codes = codes ∧ d.Unambiguous := by
  have hcases := build_naming_cases family adapter types codes
  rw [ne_eq, untyped_eq_nil_iff] at hcases
  refine ⟨?_, ?_, ?_, fun d h => ⟨(of_build h).1.trans codes_naming, d.unambiguous⟩⟩
  · rcases hcases with ⟨hmissing, h⟩ | ⟨htotal, ⟨left, right, hfirst, h⟩ | ⟨hseparate, hbuilt⟩⟩
    · rw [h]
      exact iff_of_false nofun fun hgood => hmissing hgood.1
    · rw [h]
      exact iff_of_false nofun fun hgood => hfirst.not_separate hgood.2
    · exact iff_of_true hbuilt ⟨htotal, hseparate⟩
  · intro hmissing
    rcases hcases with ⟨-, h⟩ | ⟨htotal, -⟩
    · exact ⟨h, rfl⟩
    · exact absurd htotal hmissing
  · intro htotal hshared
    rcases hcases with ⟨hmissing, -⟩ | ⟨-, ⟨left, right, hfirst, h⟩ | ⟨hseparate, -⟩⟩
    · exact absurd htotal hmissing
    · refine ⟨left, right, _, hfirst, sortedDistinct_ascending _, ?_, h, rfl⟩
      intro code
      rw [mem_sortedDistinct, mem_sharedCodes, codes_naming]
    · exact absurd hseparate hshared

end Declaration

end ObjectCatalog
