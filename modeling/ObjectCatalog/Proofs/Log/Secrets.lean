import ObjectCatalog.Log.ColorLine
import ObjectCatalog.Log.JsonLine
import ObjectCatalog.Proofs.Log.RedactedMessage

/-! # Secrets stay out of every line

Before a record is written, the attributes with the name of a secret are masked. Records that differ
in the values of such attributes alone are one and the same record from then on, so that no line
tells them apart, whatever these values are and however the names are spelled.
-/
namespace ObjectCatalog.Record

def SameEntry (e f : String × Value) : Prop :=
  e.1 = f.1 ∧ (Redaction.isSensitive e.1 = false → e.2 = f.2)

/-- The records differ at most in the values of attributes with the name of a secret. -/
structure SameButSecrets (r s : Record) : Prop where
  extras : List.Forall₂ SameEntry r.extras s.extras
  rest : s = { r with extras := s.extras }

variable {r s : Record} {xs ys : List (String × Value)} {name : String}

theorem redactAttribute_eq {e f : String × Value} (h : SameEntry e f) :
    redactAttribute e = redactAttribute f := by
  obtain ⟨name, v⟩ := e
  obtain ⟨other, w⟩ := f
  obtain ⟨rfl, hvalue⟩ : name = other ∧ _ := h
  unfold redactAttribute
  dsimp only
  cases hname : Redaction.isSensitive name with
  | true => rfl
  | false => rw [show v = w from hvalue hname]

theorem map_redactAttribute_eq (h : List.Forall₂ SameEntry xs ys) :
    xs.map redactAttribute = ys.map redactAttribute := by
  rw [← List.forall₂_eq_eq_eq, List.forall₂_map_left_iff, List.forall₂_map_right_iff]
  exact h.imp fun _ _ => redactAttribute_eq

theorem lookup_eq (h : List.Forall₂ SameEntry xs ys) (hname : Redaction.isSensitive name = false) :
    xs.lookup name = ys.lookup name := by
  induction h with
  | nil => rfl
  | @cons e f xs ys hentry _ ih =>
    obtain ⟨key, v⟩ := e
    obtain ⟨other, w⟩ := f
    obtain ⟨rfl, hvalue⟩ : key = other ∧ _ := hentry
    rw [List.lookup_cons, List.lookup_cons]
    cases hkey : name == key with
    | true =>
      rw [← eq_of_beq hkey] at hvalue
      exact congrArg some (hvalue hname)
    | false => exact ih

theorem setAttribute_same (h : List.Forall₂ SameEntry xs ys) (name : String) (v : Value) :
    List.Forall₂ SameEntry (setAttribute name v xs) (setAttribute name v ys) := by
  have hown : SameEntry (name, v) (name, v) := ⟨rfl, fun _ => rfl⟩
  induction h with
  | nil => exact .cons hown .nil
  | @cons e f xs ys hentry hrest ih =>
    obtain ⟨key, u⟩ := e
    obtain ⟨other, w⟩ := f
    obtain ⟨rfl, -⟩ : key = other ∧ _ := id hentry
    unfold setAttribute
    split
    · exact .cons hown hrest
    · exact .cons hentry ih

theorem transactionKey_not_sensitive : Redaction.isSensitive transactionKey = false := by
  decide

/-- Records that differ in secrets alone are the same record once they are prepared. -/
theorem prepare_eq (h : SameButSecrets r s) (current : Option String) :
    r.prepare current = s.prepare current := by
  have hown : r.attribute? transactionKey = s.attribute? transactionKey :=
    lookup_eq h.extras transactionKey_not_sensitive
  have hidentified := map_redactAttribute_eq (setAttribute_same h.extras
    transactionKey (chooseTransaction (r.attribute? transactionKey) current))
  unfold prepare redact identify
  dsimp only
  rw [hidentified, hown, h.rest]

/-- Two records that differ in the values of secrets alone leave the same line, or the same error,
in both forms. -/
theorem lines_withhold_secrets (h : SameButSecrets r s) (current : Option String)
    (layout : JsonLine) (timePattern : String) :
    layout.write (r.prepare current) = layout.write (s.prepare current) ∧
      ColorLine.write timePattern (r.prepare current) =
        ColorLine.write timePattern (s.prepare current) := by
  rw [prepare_eq h]
  exact ⟨rfl, rfl⟩

def signedIn (secret : Value) : Record :=
  { saying "signed in" (.positional []) with
    extras := [("user", .text "admin"), ("PassWord", secret)] }

theorem lines_withhold_secrets_signedIn :
    SameButSecrets (signedIn (.list [.int 7])) (signedIn (.text "hunter2")) ∧
      JsonLine.write ⟨.null, .text "catalog", ""⟩ ((signedIn (.list [.int 7])).prepare (some "t1")) =
        JsonLine.write ⟨.null, .text "catalog", ""⟩
          ((signedIn (.text "hunter2")).prepare (some "t1")) ∧
      ColorLine.write "%H:%M" ((signedIn (.list [.int 7])).prepare (some "t1")) =
        ColorLine.write "%H:%M" ((signedIn (.text "hunter2")).prepare (some "t1")) := by
  have hsame : SameButSecrets (signedIn (.list [.int 7])) (signedIn (.text "hunter2")) := by
    refine ⟨.cons ⟨rfl, fun _ => rfl⟩ (.cons ⟨rfl, fun h => ?_⟩ .nil), rfl⟩
    exact absurd h (by decide)
  exact ⟨hsame, lines_withhold_secrets hsame (some "t1") ⟨.null, .text "catalog", ""⟩ "%H:%M"⟩

end ObjectCatalog.Record
