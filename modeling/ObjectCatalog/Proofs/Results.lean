/-! # What a sequence of steps comes to -/
namespace Except

variable {ε δ α β : Type} {x : Except ε α} {f : α → Except ε β} {g : ε → δ} {a : α} {b : β}

theorem bind_eq_ok_iff : x >>= f = .ok b ↔ ∃ a, x = .ok a ∧ f a = .ok b := by
  cases x <;> simp [bind, Except.bind]

theorem bind_eq_error_iff {e : ε} :
    x >>= f = .error e ↔ x = .error e ∨ ∃ a, x = .ok a ∧ f a = .error e := by
  cases x <;> simp [bind, Except.bind]

@[simp] theorem mapError_eq_ok_iff : x.mapError g = .ok a ↔ x = .ok a := by
  cases x with
  | error e => exact ⟨nofun, nofun⟩
  | ok v =>
    change (Except.ok v : Except δ α) = .ok a ↔ _
    simp

@[simp] theorem mapError_eq_error_iff {d : δ} :
    x.mapError g = .error d ↔ ∃ e, x = .error e ∧ g e = d := by
  cases x with
  | error e =>
    change Except.error (g e) = .error d ↔ _
    simp
  | ok v => exact ⟨nofun, nofun⟩

end Except
