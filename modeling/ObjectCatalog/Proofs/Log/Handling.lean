import ObjectCatalog.Log.Session
import ObjectCatalog.Proofs.Log.Fits

/-! # Records on their way through handlers

Handlers are called one after another with one and the same record. Neither a filter nor a layout
changes its level, so that each handler takes it or not whatever the others do; and no attribute is
ever taken from it, so that an identifier it has been given is there for all that follow.
-/
namespace ObjectCatalog

namespace Record

variable {r : Record} {current : Option String} {filters : List RecordFilter}

/-! ## The identifier -/

theorem lookup_setAttribute (name : String) (v : Value) (extras : List (String × Value)) :
    (setAttribute name v extras).lookup name = some v := by
  induction extras with
  | nil => simp [setAttribute]
  | cons entry extras ih =>
    obtain ⟨other, w⟩ := entry
    unfold setAttribute
    by_cases h : other = name
    · simp [h]
    · have hother : (name == other) = false := by simpa using Ne.symm h
      simp [h, List.lookup_cons, hother, ih]

theorem setAttribute_of_lookup {name : String} {v : Value} {extras : List (String × Value)}
    (h : extras.lookup name = some v) : setAttribute name v extras = extras := by
  induction extras with
  | nil => simp at h
  | cons entry extras ih =>
    obtain ⟨other, w⟩ := entry
    by_cases hname : other = name
    · subst hname
      simp only [List.lookup_cons, beq_self_eq_true, Option.some.injEq] at h
      simp [setAttribute, h]
    · have hother : (name == other) = false := by simpa using Ne.symm hname
      simp only [List.lookup_cons, hother] at h
      simp [setAttribute, hname, ih h]

theorem isGiven_chooseTransaction (own : Option Value) (current : Option String) :
    (chooseTransaction own current).isGiven = true := by
  unfold chooseTransaction
  cases hown : own.filter Value.isGiven with
  | some v => exact (Option.filter_eq_some_iff.mp hown).2
  | none =>
    cases current with
    | none => rfl
    | some id => by_cases h : id = "" <;> simp [h, noTransaction, Value.isGiven]

theorem chooseTransaction_of_given {v : Value} (h : v.isGiven = true) (current : Option String) :
    chooseTransaction (some v) current = v := by
  simp [chooseTransaction, Option.filter, h]

theorem chooseTransaction_of_filter_eq_none {own : Option Value} {id : String}
    (h : own.filter Value.isGiven = none) (hid : id ≠ "") :
    chooseTransaction own (some id) = .text id := by
  simp [chooseTransaction, h, hid]

theorem identify_of_given {v : Value} (h : r.attribute? transactionKey = some v)
    (hv : v.isGiven = true) (current : Option String) : r.identify current = r := by
  unfold identify
  rw [h, chooseTransaction_of_given hv, setAttribute_of_lookup h]

theorem attribute?_identify (current : Option String) (r : Record) :
    (r.identify current).attribute? transactionKey =
      some (chooseTransaction (r.attribute? transactionKey) current) :=
  lookup_setAttribute _ _ _

/-- A record keeps the identifier it has been given, also in other transactions. -/
theorem identify_identify (current later : Option String) (r : Record) :
    (r.identify current).identify later = r.identify current :=
  identify_of_given (attribute?_identify current r) (isGiven_chooseTransaction _ _) later

theorem identify_pass_transactions (n : Nat) (r : Record) :
    (r.pass current (List.replicate n .transaction)).identify current = r.identify current := by
  induction n generalizing r with
  | zero => rfl
  | succ n ih =>
    rw [List.replicate_succ]
    exact (ih (r.identify current)).trans (identify_identify current current r)

def isIdentified (r : Record) : Bool := (r.attribute? transactionKey).isSome

@[simp] theorem isIdentified_identify (current : Option String) (r : Record) :
    (r.identify current).isIdentified = true := by
  simp [isIdentified, attribute?_identify]

/-- Of an attribute that is no secret, redacting changes the text at most. -/
theorem attribute?_redact {name : String} (hname : Redaction.isSensitive name = false) (r : Record) :
    r.redact.attribute? name = (r.attribute? name).map redactText := by
  have hlookup (extras : List (String × Value)) :
      (extras.map redactAttribute).lookup name = (extras.lookup name).map redactText := by
    induction extras with
    | nil => rfl
    | cons entry extras ih =>
      obtain ⟨other, v⟩ := entry
      rw [List.map_cons, redactAttribute, List.lookup_cons, List.lookup_cons]
      cases hother : name == other with
      | true =>
        rw [← eq_of_beq hother, hname]
        rfl
      | false => exact ih
  exact hlookup r.extras

theorem attribute?_transactionKey_redact (r : Record) :
    r.redact.attribute? transactionKey = (r.attribute? transactionKey).map redactText :=
  attribute?_redact (by decide) r

@[simp] theorem isIdentified_redact (r : Record) : r.redact.isIdentified = r.isIdentified := by
  simp [isIdentified, attribute?_transactionKey_redact]

theorem isIdentified_pass (current : Option String) (filters : List RecordFilter) (r : Record) :
    (r.pass current filters).isIdentified = true ↔
      r.isIdentified = true ∨ .transaction ∈ filters := by
  induction filters generalizing r with
  | nil => simp [pass]
  | cons filter filters ih =>
    have hstep := ih (RecordFilter.apply current r filter)
    cases filter <;> simpa [pass, RecordFilter.apply] using hstep

/-! ## The level -/

@[simp] theorem level_pass (current : Option String) (filters : List RecordFilter) (r : Record) :
    (r.pass current filters).level = r.level := by
  induction filters generalizing r with
  | nil => rfl
  | cons filter filters ih =>
    have hstep : (RecordFilter.apply current r filter).level = r.level := by
      cases filter <;> rfl
    exact (ih _).trans hstep

end Record

/-! ## Layouts -/

/-- A layout leaves a text on the record at most. -/
theorem Layout.write_keeps {layout : Layout} {r s : Record} {line : String}
    (h : layout.write r = .ok (line, s)) : s.level = r.level ∧ s.extras = r.extras := by
  cases layout with
  | json shape =>
    obtain ⟨text, -, hwritten⟩ := Except.bind_eq_ok_iff.mp h
    cases hwritten
    exact ⟨rfl, rfl⟩
  | color =>
    obtain ⟨text, -, hwritten⟩ := Except.bind_eq_ok_iff.mp h
    cases hwritten
    exact ⟨rfl, rfl⟩
  | plain =>
    obtain ⟨message, -, h⟩ := Except.bind_eq_ok_iff.mp h
    obtain ⟨time, -, hwritten⟩ := Except.bind_eq_ok_iff.mp h
    cases hwritten
    exact ⟨rfl, rfl⟩
  | bare =>
    obtain ⟨message, -, hwritten⟩ := Except.bind_eq_ok_iff.mp h
    cases hwritten
    exact ⟨rfl, rfl⟩

namespace LogSession

variable {h : Handler} {r x : Record} {current : Option String}

theorem handOn_keeps (h : Handler) (r : Record) :
    (handOn h r).level = r.level ∧ (handOn h r).extras = r.extras := by
  unfold handOn
  cases hwritten : h.layout.write r with
  | ok written => exact Layout.write_keeps hwritten
  | error failure => exact ⟨rfl, rfl⟩

@[simp] theorem level_handOn (h : Handler) (r : Record) : (handOn h r).level = r.level :=
  (handOn_keeps h r).1

@[simp] theorem isIdentified_handOn (h : Handler) (r : Record) :
    (handOn h r).isIdentified = r.isIdentified := by
  simp [Record.isIdentified, Record.attribute?, (handOn_keeps h r).2]

/-! ## Deliveries -/

theorem deliveries_cons_of_le (hlevel : h.level ≤ r.level) (handlers : List Handler) :
    deliveries current (h :: handlers) r = (h, r.pass current h.filters) ::
      deliveries current handlers (handOn h (r.pass current h.filters)) := by
  simp [deliveries, hlevel]

theorem deliveries_cons_of_lt (hlevel : ¬ h.level ≤ r.level) (handlers : List Handler) :
    deliveries current (h :: handlers) r = deliveries current handlers r := by
  simp [deliveries, hlevel]

/-- The handlers that take a record are those whose level it reaches, each in its turn. -/
theorem map_fst_deliveries (current : Option String) (handlers : List Handler) (r : Record) :
    (deliveries current handlers r).map (·.1) = handlers.filter (·.level ≤ r.level) := by
  induction handlers generalizing r with
  | nil => rfl
  | cons h handlers ih =>
    by_cases hlevel : h.level ≤ r.level
    · rw [deliveries_cons_of_le hlevel, List.map_cons, ih,
        List.filter_cons_of_pos (by simpa using hlevel)]
      simp
    · rw [deliveries_cons_of_lt hlevel, ih, List.filter_cons_of_neg (by simpa using hlevel)]

def handedOn (r : Record) (before : List (Handler × Record)) : Record :=
  before.foldl (fun _ delivery => handOn delivery.1 delivery.2) r

/-- Each handler writes the record as it is handed on to it and has passed its filters. -/
theorem deliveries_split {handlers : List Handler} {before after : List (Handler × Record)}
    (h : deliveries current handlers r = before ++ (g, x) :: after) :
    x = (handedOn r before).pass current g.filters := by
  induction handlers generalizing r before with
  | nil => simp [deliveries] at h
  | cons f handlers ih =>
    by_cases hlevel : f.level ≤ r.level
    · rw [deliveries_cons_of_le hlevel] at h
      cases before with
      | nil =>
        cases h
        rfl
      | cons first before =>
        obtain ⟨rfl, hrest⟩ := List.cons.inj h
        have hlater : x = (handedOn (handOn f (r.pass current f.filters)) before).pass current
            g.filters := ih hrest
        exact hlater
    · rw [deliveries_cons_of_lt hlevel] at h
      exact ih h

end LogSession

end ObjectCatalog
