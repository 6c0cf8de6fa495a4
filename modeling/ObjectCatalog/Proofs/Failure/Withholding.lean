import ObjectCatalog.Dialect.Builtin
import ObjectCatalog.Proofs.Failure.Consistency

/-! # A driver's words stay inside

Mapping a failure reads the code and the class of the driver's error, and asks for its words only to
report them at the lowest severity. Two failures that agree in code and class are mapped to the same
error and reported in the same way to everybody who does not listen at that severity, whatever their
words, arguments and attributes are, and whatever statement, parameters and words the database layer
has put around them.
-/
namespace ObjectCatalog

def aboveDebug (events : List Event) : List Event :=
  events.filter fun e => e.severity != .debug

/-- Two failures that cannot be told apart by the class of the driver's error and its code. -/
structure Failure.Alike (f g : Failure) : Prop where
  driverClass : f.driverClass = g.driverClass
  code : f.code? = g.code?

namespace Descriptor

variable {f g : Failure}

theorem aboveDebug_rawEvents (d : Descriptor) (f : Failure) : aboveDebug (d.rawEvents f) = [] := by
  unfold rawEvents
  split <;> rfl

theorem classifyFailure_eq_of_alike (d : Descriptor) (h : f.Alike g) :
    d.classifyFailure f = d.classifyFailure g := by
  unfold classifyFailure
  rw [h.code]

theorem aboveDebug_classificationEvents_eq (d : Descriptor) (h : f.Alike g) :
    aboveDebug (d.classificationEvents f) = aboveDebug (d.classificationEvents g) := by
  dsimp only [classificationEvents]
  rw [d.classifyFailure_eq_of_alike h, h.driverClass]
  cases (d.classifyFailure g).category with
  | unclassified =>
    have hraw := (d.aboveDebug_rawEvents f).trans (d.aboveDebug_rawEvents g).symm
    exact congrArg (List.cons _) hraw
  | _ => rfl

/-- Two failures with drivers' errors of the same class and the same code, and with words that can
be had, are mapped to one and the same error, and the reports differ at the lowest severity only.
-/
theorem mapFailure_withholds (d : Descriptor) (operation : Option String) (f g : Failure)
    (hclass : f.driverClass = g.driverClass) (hcode : f.code? = g.code?)
    (hf : ∃ text, f.driverText? = .ok text) (hg : ∃ text, g.driverText? = .ok text) :
    (∃ e, d.mapFailure operation f = .ok e ∧ d.mapFailure operation g = .ok e) ∧
      aboveDebug (d.mappingEvents operation f) = aboveDebug (d.mappingEvents operation g) := by
  have halike : f.Alike g := ⟨hclass, hcode⟩
  have hsame := d.classifyFailure_eq_of_alike halike
  constructor
  · refine ⟨d.storeError operation (d.classifyFailure f), ?_, ?_⟩
    · exact mapFailure_eq_ok_iff.mpr ⟨rfl, fun _ => hf⟩
    · exact mapFailure_eq_ok_iff.mpr ⟨hsame ▸ rfl, fun _ => hg⟩
  · have hevents := d.aboveDebug_classificationEvents_eq halike
    unfold mappingEvents aboveDebug at *
    rw [List.filter_append, List.filter_append, hevents, hsame]

def outspoken : Failure :=
  .fault (.plain "OperationalError" [.text "server says no: password=hunter2"] [])

/-- An error of the same class that says little, inside one of the database layer's that tells the
statement and its parameters. -/
def reticent : Failure :=
  .database "InterfaceError"
    (some (.plain "OperationalError" [.int 2006] [("detail", .text "gone away")]))
    { sql := some "UPDATE users SET password = ?", parameters := .list [.text "hunter2"] }

theorem mapFailure_withholds_password :
    outspoken.driverClass = reticent.driverClass ∧ outspoken.code? = reticent.code? ∧
      outspoken.driverText? = .ok "server says no: password=hunter2" ∧
      (∃ e, Dialect.postgresql.mapFailure none outspoken = .ok e ∧
        Dialect.postgresql.mapFailure none reticent = .ok e) ∧
      aboveDebug (Dialect.postgresql.mappingEvents none outspoken) =
        aboveDebug (Dialect.postgresql.mappingEvents none reticent) :=
  ⟨rfl, rfl, rfl,
    mapFailure_withholds Dialect.postgresql none outspoken reticent rfl rfl ⟨_, rfl⟩ ⟨_, rfl⟩⟩

end Descriptor

end ObjectCatalog
