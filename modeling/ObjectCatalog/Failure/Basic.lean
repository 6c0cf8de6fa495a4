import ObjectCatalog.Failure.StoreError

/-! # Failures

What can go wrong around a statement, as far as its handlers can tell: an ordinary error with its
arguments and attributes, a store error, an interruption of the process or task, and the database
layer's own errors, which carry the driver's error inside. A raised failure also knows the
failures that led to it.
-/
namespace ObjectCatalog

/-- An error object that is not the database layer's. Attributes may stand in for arguments, and an
error that interrupts passes by all ordinary handlers. -/
inductive Fault
  | plain (className : String) (arguments : List Value) (attributes : List (String × Value))
    (interrupts : Bool := false)
  | store (error : StoreError) (attributes : List (String × Value))

structure StatementReport where
  sql : Option String := none
  parameters : Value := .null
  words : String := ""

inductive Failure
  | fault (f : Fault)
  /-- Nothing, where an error was expected. -/
  | absent
  /-- A statement that failed before a driver saw it. -/
  | statement (report : StatementReport := {})
  /-- A driver's error, under the database layer's own class. -/
  | database (className : String) (driver : Option Fault) (report : StatementReport := {})

/-- A failure, and those that led to it, the nearest first. -/
structure Raised where
  failure : Failure
  causes : List Failure

def interruptClasses : List String :=
  ["KeyboardInterrupt", "SystemExit", "GeneratorExit", "CancelledError", "BaseException"]

def systemErrorClasses : List (Int × String) :=
  [(1, "PermissionError"), (2, "FileNotFoundError"), (3, "ProcessLookupError"),
    (4, "InterruptedError"), (10, "ChildProcessError"), (11, "BlockingIOError"),
    (13, "PermissionError"), (17, "FileExistsError"), (20, "NotADirectoryError"),
    (21, "IsADirectoryError"), (32, "BrokenPipeError"), (103, "ConnectionAbortedError"),
    (104, "ConnectionResetError"), (108, "BrokenPipeError"), (110, "TimeoutError"),
    (111, "ConnectionRefusedError"), (114, "BlockingIOError"), (115, "BlockingIOError")]

def systemErrorSynonyms : List String := ["IOError", "EnvironmentError"]

def systemErrorNames : List String :=
  "OSError" :: "ConnectionError" :: systemErrorClasses.map (·.2)

structure SystemFault where
  number : Value
  reason : Value
  files : List Value

namespace SystemFault

def ofArguments? (className : String) (arguments : List Value) : Option SystemFault :=
  match arguments with
  | number :: reason :: rest =>
    if !systemErrorNames.contains className || 3 < rest.length then none
    else
      let files := match rest with
        | [file] | [file, _] => [file]
        | [file, _, target] => [file, target]
        | _ => []
      some ⟨number, reason, files.takeWhile fun file => !file.isNull⟩
  | _ => none

def text (f : SystemFault) : String :=
  let files := f.files.map Value.literal
  "[Errno " ++ f.number.display ++ "] " ++ f.reason.display ++
    (if files.isEmpty then "" else ": " ++ String.intercalate " -> " files)

end SystemFault

namespace Fault

def attributes : Fault → List (String × Value)
  | .plain _ _ attributes _ | .store _ attributes => attributes

def attribute? (f : Fault) (name : String) : Option Value := f.attributes.lookup name

/-- The arguments an error was made with, unless an attribute has replaced them. -/
def arguments (f : Fault) : List Value :=
  match (f.attribute? "args").bind Value.items? with
  | some vs => vs
  | none =>
    match f with
    | .plain _ vs _ _ => vs
    | .store e _ => [e.detail]

def className : Fault → String
  | .plain name _ _ _ => name
  | .store e _ => e.kind.name

/-- The text of an error: its arguments, where a system error shows the number it was made with in
brackets and an error about a missing key quotes the key. -/
def text (f : Fault) : String :=
  match f with
  | .store e _ => e.message
  | .plain name vs _ _ =>
    match SystemFault.ofArguments? name vs, f.arguments with
    | some system, _ => system.text
    | none, [key] => if name == "KeyError" then key.literal else key.display
    | none, arguments => Value.displayArguments arguments

def isInterrupt : Fault → Bool
  | .plain _ _ _ interrupts => interrupts
  | .store _ _ => false

/-- An error of the class with this name. System errors with a known number have a class of
their own, and the store's classes take their detail, or the unsupported product. -/
def ofClass (name : String) (arguments : List Value) (attributes : List (String × Value)) :
    Fault :=
  match StoreErrorClass.ofName? name with
  | some .unsupportedDatabase =>
    .store (StoreError.unsupported (arguments.headD (.text ""))) attributes
  | some kind =>
    .store (StoreError.plain kind (arguments.headD (.text (kind.message?.getD "")))) attributes
  | none =>
    let name := if systemErrorSynonyms.contains name then "OSError" else name
    let special := match SystemFault.ofArguments? name arguments with
      | some ⟨.int number, _, _⟩ =>
        if name == "OSError" then systemErrorClasses.lookup number else none
      | _ => none
    .plain (special.getD name) arguments attributes (interruptClasses.contains name)

end Fault

namespace Failure

def plain (className detail : String) : Failure := .fault (.plain className [.text detail] [])

def interrupt (className : String) : Failure := .fault (.plain className [] [] true)

def store (e : StoreError) : Failure := .fault (.store e [])

/-- What a failed statement is made of: the driver's error, or the failure itself. -/
def driver : Failure → Option Fault
  | .fault f => some f
  | .absent => none
  | .statement report => some (.plain "StatementError" [.text report.words] [])
  | .database _ driver _ => driver

def isDatabase : Failure → Bool
  | .database .. => true
  | _ => false

def isInterrupt : Failure → Bool
  | .fault f => f.isInterrupt
  | _ => false

def className : Failure → String
  | .fault f => f.className
  | .absent => "NoneType"
  | .statement _ => "StatementError"
  | .database className _ _ => className

def text (f : Failure) : String :=
  match f with
  | .fault e => e.text
  | .absent => "None"
  | .statement report | .database _ _ report => report.words

/-- The text of a failure, if it has one: a store error without a message has none, and asking
for it fails. -/
def text? (f : Failure) : Except Failure String :=
  match f with
  | .fault (.store e _) =>
    if e.hasMessage then .ok f.text
    else .error
      (plain "TypeError" ("__str__ returned non-string (type " ++ e.detail.kindName ++ ")"))
  | _ => .ok f.text

def hasLayerText : Failure → Bool
  | .statement .. | .database .. => true
  | _ => false

end Failure

namespace Raised

def ofFailure (f : Failure) : Raised := ⟨f, []⟩

def store (e : StoreError) (cause : Raised) : Raised :=
  ⟨.store e, cause.failure :: cause.causes⟩

def className (r : Raised) : String := r.failure.className

def text (r : Raised) : String := r.failure.text

def isInterrupt (r : Raised) : Bool := r.failure.isInterrupt

end Raised

end ObjectCatalog
