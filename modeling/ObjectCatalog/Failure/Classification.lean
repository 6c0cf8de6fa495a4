import ObjectCatalog.Dialect.Descriptor
import ObjectCatalog.Log.Event

/-! # Classifying failed statements

A failed statement is classified by the vendor code that the driver's error carries. Drivers
leave the code in different places: one of three attributes, or a number as the first argument.
The reports name the code and the class of the error; the driver's own words appear only at the
lowest severity, and only when the code meant nothing. Asking a driver's error for its words can
fail, and the classification fails with it.
-/
namespace ObjectCatalog

def codeAttributes : List String := ["sqlstate", "pgcode", "sqlite_errorname"]

/-- Server error numbers whose standard code matters here: two kinds of duplicate entries, a
deadlock and an existing table. -/
def codeOfNumber : List (Int × String) :=
  [(1062, "23000"), (1586, "23000"), (1213, "40001"), (1050, "42S01")]

namespace Fault

def numberCode? (f : Fault) : Option Code :=
  match f.arguments with
  | .int n :: _ => (codeOfNumber.lookup n).map .text
  | _ => none

/-- The vendor code an error carries: the first attribute that holds a text, else the code of
the number it begins with. -/
def code? (f : Fault) : Option Code :=
  match codeAttributes.findSome? fun name => (f.attribute? name).bind Code.ofValue? with
  | some code => some code
  | none => f.numberCode?

end Fault

namespace Failure

def ownCode? : Failure → Option Code
  | .fault f => f.code?
  | _ => none

def code? (f : Failure) : Option Code := f.driver.bind Fault.code?

def driverClass (f : Failure) : String :=
  match f.driver with
  | some e => e.className
  | none => "NoneType"

def driverText? (f : Failure) : Except Failure String :=
  match f.driver with
  | some e => (fault e).text?
  | none => .ok f.text

end Failure

structure Classification where
  category : Category
  code : Option Code
  deriving DecidableEq

def codeValue (code : Option Code) : Value :=
  match code with
  | some code => code.toValue
  | none => .null

namespace Descriptor

def classifyCode (d : Descriptor) (code : Option Code) : Category :=
  d.classify (code.map Code.value)

def classifyFailure (d : Descriptor) (f : Failure) : Classification :=
  ⟨d.classifyCode f.code?, f.code?⟩

/-- The classification, once it is reported: of an unclassified error the words are reported too. -/
def reportedClass (d : Descriptor) (f : Failure) : Except Failure Classification :=
  let c := d.classifyFailure f
  match c.category, f.driverText? with
  | .unclassified, .error failure => .error failure
  | _, _ => .ok c

def rawEvents (d : Descriptor) (f : Failure) : List Event :=
  match f.driverText? with
  | .ok text =>
    [{ severity := .debug, logger := Event.classifierLogger, name := "classifier.unclassified_raw",
       extra := [("dialect", .text d.name), ("raw", .text text)] }]
  | .error _ => []

def classificationEvents (d : Descriptor) (f : Failure) : List Event :=
  let c := d.classifyFailure f
  match c.category with
  | .unclassified =>
    { severity := .warning, logger := Event.classifierLogger, name := "classifier.unclassified",
      extra := [("dialect", .text d.name), ("sql_state", codeValue c.code),
        ("error_type", .text f.driverClass)] } :: d.rawEvents f
  | category =>
    [{ severity := .debug, logger := Event.classifierLogger, name := "classifier.classified",
       extra := [("dialect", .text d.name), ("sql_state", codeValue c.code),
         ("category", .text category.value)] }]

end Descriptor

end ObjectCatalog
