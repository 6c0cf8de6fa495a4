import ObjectCatalog.Path.Tree

/-! # The way up from a path

From every path but a root a step leads up to its parent. The paths above a path are those that are
met on this way, each at one distance and the root last, and no two of them are the same.
-/
namespace ObjectCatalog.PathName

variable {p q : PathName} {d : Nat}

def parent (p : PathName) : PathName := { p with names := p.names.dropLast }

/-- From `p` it is `d` steps up to `q`. No step leads up from a root. -/
inductive Above : Nat → PathName → PathName → Prop
  | here (p : PathName) : Above 0 p p
  | up {d : Nat} {p q : PathName} (hroot : p.parent ≠ p) (h : Above d p.parent q) :
    Above (d + 1) p q

theorem parent_eq_self_iff : p.parent = p ↔ p.names = [] := by
  obtain ⟨root, names⟩ := p
  constructor
  · intro h
    have hnames : names.dropLast = names := congrArg PathName.names h
    have hlength := congrArg List.length hnames
    rw [List.length_dropLast] at hlength
    exact List.eq_nil_of_length_eq_zero (by omega : names.length = 0)
  · rintro rfl
    rfl

theorem length_parent (hroot : p.parent ≠ p) : p.parent.names.length + 1 = p.names.length := by
  have hnames : p.names ≠ [] := fun h => hroot (parent_eq_self_iff.mpr h)
  have hpos := List.length_pos_iff.mpr hnames
  have hparent : p.parent.names.length = p.names.length - 1 := List.length_dropLast
  omega

namespace Above

theorem zero_iff : Above 0 p q ↔ q = p := by
  constructor
  · rintro ⟨⟩
    rfl
  · rintro rfl
    exact .here q

theorem succ_iff : Above (d + 1) p q ↔ p.parent ≠ p ∧ Above d p.parent q := by
  constructor
  · rintro (_ | ⟨hroot, h⟩)
    exact ⟨hroot, h⟩
  · rintro ⟨hroot, h⟩
    exact .up hroot h

theorem length_eq (h : Above d p q) : q.names.length + d = p.names.length := by
  induction h with
  | here p => rfl
  | up hroot h ih =>
    have hparent := length_parent hroot
    omega

/-- At every distance up to that of the root there is a path. -/
theorem exists_of_le (p : PathName) (h : d ≤ p.names.length) : ∃ q, Above d p q := by
  induction d generalizing p with
  | zero => exact ⟨p, .here p⟩
  | succ d ih =>
    have hroot : p.parent ≠ p := by
      intro hself
      rw [parent_eq_self_iff.mp hself] at h
      exact absurd h (by simp)
    have hparent := length_parent hroot
    obtain ⟨q, hq⟩ := ih p.parent (by omega)
    exact ⟨q, .up hroot hq⟩

end Above

/-! ## The list of all paths above a path -/

theorem ancestors_of_root (hroot : p.parent = p) : p.ancestors = [p] := by
  obtain ⟨root, names⟩ := p
  obtain rfl : names = [] := parent_eq_self_iff.mp hroot
  rfl

theorem ancestors_of_up (hroot : p.parent ≠ p) : p.ancestors = p :: p.parent.ancestors := by
  obtain ⟨root, names⟩ := p
  rcases List.eq_nil_or_concat names with rfl | ⟨above, name, rfl⟩
  · exact absurd rfl hroot
  · simp [ancestors, parent, climb]

theorem child_inj {name : String} : p.child name = q.child name ↔ p = q := by
  obtain ⟨root, names⟩ := p
  obtain ⟨root', names'⟩ := q
  simp [child]

end ObjectCatalog.PathName
