import ObjectCatalog.Log.Configuration
import ObjectCatalog.Log.Filter
import ObjectCatalog.Log.Layout
import ObjectCatalog.Log.Rotation
import ObjectCatalog.Log.Transaction

/-! # Logging at work

Loggers form a tree by the dots in their names, under a root without a name. A logger is there
once it has been asked for. One without a level of its own has that of the nearest one above it. A
record that reaches the level of its logger goes to the handlers of the logger and of those above
it, up to one that keeps records to itself. The handlers share the record: each passes it through
its filters, writes it to the console or to its file, and leaves it to the next. The filters of a
logger are for records of its own only.
-/
namespace ObjectCatalog

/-! ## Levels -/

def levelNumbers : List (String × Int) :=
  [("CRITICAL", 50), ("FATAL", 50), ("ERROR", 40), ("WARN", 30), ("WARNING", 30), ("INFO", 20),
    ("DEBUG", 10), ("NOTSET", 0)]

def wholeNumber? : Value → Option Int
  | .int n => some n
  | .bool b => some (if b then 1 else 0)
  | .float x => x.toInt?
  | _ => none

def levelNumber? : Value → Option Int
  | .text name => levelNumbers.lookup name
  | .float _ => none
  | v => wholeNumber? v

/-! ## Handlers and loggers -/

inductive Sink
  | console
  | file (path : String) (maxBytes backups : Int)

structure Handler where
  name : String
  level : Int
  filters : List RecordFilter
  layout : Layout
  sink : Sink

structure Logger where
  name : String
  level : Int
  propagate : Bool
  handlers : List Handler

namespace Logger

def unset (name : String) : Logger := ⟨name, 0, true, []⟩

def properName (name : String) : String := if name == "root" then "" else name

end Logger

/-- The root and the other loggers there are. Of the others, only the one for statements of the
database layer can have handlers of its own. -/
structure LoggerTree where
  root : Logger
  loggers : List Logger
  plain : ∀ l ∈ loggers, l.name ≠ LogSettings.statementLogger →
    l.handlers = [] ∧ l.propagate = true

namespace LoggerTree

def find? (t : LoggerTree) (name : String) : Option Logger := t.loggers.find? (·.name == name)

/-- The loggers above a name, which is given backwards. What stands before its last dot names the
logger above it. If there is no such logger, the search goes on, but not at the sign right before
that dot: of two dots side by side, it sees the second only. -/
def above (t : LoggerTree) : List Char → List Logger
  | '.' :: c :: rest =>
    match t.find? (String.ofList (c :: rest).reverse) with
    | some l => l :: t.above (c :: rest)
    | none => t.above rest
  | _ :: rest => t.above rest
  | [] => []

def below (t : LoggerTree) (name : String) : List Logger :=
  if name == "" then [] else (t.find? name).toList ++ t.above name.toList.reverse

def chain (t : LoggerTree) (name : String) : List Logger := t.below name ++ [t.root]

/-- The names that a logger is entered under when it is made, besides its own: those that the search
for loggers above it looks up, with its own name given backwards. -/
def entriesOf (older : List Logger) : List Char → List String
  | '.' :: c :: rest =>
    let parent := String.ofList (c :: rest).reverse
    parent :: if older.any (·.name == parent) then [] else entriesOf older rest
  | _ :: rest => entriesOf older rest
  | [] => []

/-- Is anything entered under a name? The loggers are listed from the latest to the oldest. -/
def hasEntry (name : String) : List Logger → Bool
  | [] => false
  | l :: older =>
    l.name == name || (entriesOf older l.name.toList.reverse).contains name || hasEntry name older

/-- Configuring a logger resets those whose names begin with its own and a dot, but only if there
was an entry for it. -/
def resets (t : LoggerTree) (configured name : String) : Bool :=
  hasEntry configured t.loggers && name.startsWith (configured ++ ".")

def ownLevel (t : LoggerTree) (name : String) : Int :=
  if name == "" then t.root.level else ((t.find? name).map (·.level)).getD 0

def withLogger (t : LoggerTree) (name : String) : LoggerTree :=
  if name == "" || (t.find? name).isSome then t
  else
    { t with
      loggers := Logger.unset name :: t.loggers
      plain := by
        intro l hl hname
        rcases List.mem_cons.mp hl with rfl | hl
        · exact ⟨rfl, rfl⟩
        · exact t.plain l hl hname }

end LoggerTree

structure LogOutput where
  console : String
  files : LogFiles

structure LogSession where
  tree : LoggerTree
  rootFilters : Nat
  transactions : Transactions
  directories : List (List String)
  files : LogFiles

namespace LogSession

/-- Before anything is set up, only loggers of libraries are there, the latest first, with the
levels that the libraries have given them. -/
def fresh (libraries : List (String × Int)) : LogSession where
  tree := {
    root := ⟨"", 30, true, []⟩
    loggers := libraries.map fun library => ⟨library.1, library.2, true, []⟩
    plain := by
      intro l hl _
      obtain ⟨library, -, rfl⟩ := List.mem_map.mp hl
      exact ⟨rfl, rfl⟩ }
  rootFilters := 0
  transactions := .empty
  directories := []
  files := .empty

def chain (s : LogSession) (name : String) : List Logger := s.tree.chain (Logger.properName name)

def effectiveLevel (s : LogSession) (name : String) : Int :=
  (((s.chain name).find? fun l => l.level != 0).map (·.level)).getD 0

def isEnabled (s : LogSession) (name : String) (level : Int) : Bool :=
  0 < level && s.effectiveLevel name ≤ level

def handlersOf : List Logger → List Handler
  | [] => []
  | l :: above => l.handlers ++ if l.propagate then handlersOf above else []

/-- Where no handler is found, warnings and worse are shown as bare messages. -/
def lastResort : Handler := ⟨"", 30, [], .bare, .console⟩

def handOn (h : Handler) (r : Record) : Record :=
  match h.layout.write r with
  | .ok (_, r) => r
  | .error _ => r

def deliveries (current : Option String) : List Handler → Record → List (Handler × Record)
  | [], _ => []
  | h :: handlers, r =>
    if h.level ≤ r.level then
      let filtered := r.pass current h.filters
      (h, filtered) :: deliveries current handlers (handOn h filtered)
    else deliveries current handlers r

def passLogger (s : LogSession) (r : Record) : Record :=
  if Logger.properName r.logger == "" then
    r.pass s.transactions.current (List.replicate s.rootFilters .transaction)
  else r

def received (s : LogSession) (r : Record) : List (Handler × Record) :=
  if s.isEnabled r.logger r.level then
    let handlers := handlersOf (s.chain r.logger)
    deliveries s.transactions.current (if handlers.isEmpty then [lastResort] else handlers)
      (s.passLogger r)
  else []

def writeTo (sink : Sink) (line : String) (out : LogOutput) : LogOutput :=
  match sink with
  | .console => { out with console := out.console ++ line ++ "\n" }
  | .file path maxBytes backups =>
    { out with files := out.files.writeLine path maxBytes backups line }

def emit (out : LogOutput) (delivery : Handler × Record) : LogOutput :=
  match delivery.1.layout.write delivery.2 with
  | .ok (line, _) => writeTo delivery.1.sink line out
  | .error _ => out

def log (s : LogSession) (r : Record) : Bool × LogSession × String :=
  let out := (s.received r).foldl emit ⟨"", s.files⟩
  let tree := s.tree.withLogger (Logger.properName r.logger)
  (s.isEnabled r.logger r.level, { s with tree, files := out.files }, out.console)

/-! ## Setting up -/

structure SetupError where
  handler : String
  deriving DecidableEq

def SetupError.message (e : SetupError) : String :=
  "Unable to configure handler " ++ Text.quote e.handler

def fileName (path : PathName) : String :=
  String.intercalate "/" (PathName.collapse path.names)

def sinkOf? : HandlerTarget → Option Sink
  | .console => some .console
  | .file path maxBytes backupCount =>
    (wholeNumber? maxBytes).map fun limit =>
      .file (fileName path) limit ((wholeNumber? backupCount).getD 0)

def layoutOf (settings : LogSettings) (structured : Bool) : Layout :=
  if structured then
    .json ⟨settings.environment, .text JsonLine.defaultService, ""⟩
  else if settings.isFormat "text" then .color else .plain

def handlerOf (settings : LogSettings) (h : HandlerConfig) :
    Except SetupError (String × Handler) :=
  match if h.level.isNull then some 0 else levelNumber? h.level, sinkOf? h.target with
  | some level, some sink =>
    let filters := HandlerConfig.filterNames.filterMap fun name => RecordFilter.table.lookup name
    .ok (h.name, ⟨h.name, level, filters, layoutOf settings h.structured, sink⟩)
  | _, _ => .error ⟨h.name⟩

def handlersFor (settings : LogSettings) : Except SetupError (List (String × Handler)) :=
  (settings.handlers.mergeSort fun a b => a.name ≤ b.name).mapM (handlerOf settings)

def loggerOf (s : LogSession) (handlers : List (String × Handler)) (l : LoggerConfig) : Logger :=
  ⟨l.name, if l.level.isNull then s.tree.ownLevel l.name else (levelNumber? l.level).getD 0,
    l.propagate, (l.handlers.getD []).filterMap fun name => handlers.lookup name⟩

def keptLoggers (s : LogSession) (configured : List LoggerConfig) : List Logger :=
  (s.tree.loggers.filter fun l => !configured.any (·.name == l.name)).map fun l =>
    if configured.any fun c => s.tree.resets c.name l.name then .unset l.name else l

def configuredTree (s : LogSession) (settings : LogSettings) (handlers : List (String × Handler)) :
    LoggerTree where
  root := s.loggerOf handlers settings.rootLogger
  loggers := settings.namedLoggers.map (s.loggerOf handlers) ++ s.keptLoggers settings.namedLoggers
  plain := by
    intro l hl hname
    rcases List.mem_append.mp hl with hl | hl
    · obtain ⟨config, hconfig, rfl⟩ := List.mem_map.mp hl
      rcases List.mem_cons.mp hconfig with rfl | hconfig
      · exact ⟨rfl, rfl⟩
      · rw [List.mem_singleton.mp hconfig] at hname
        exact absurd rfl hname
    · obtain ⟨kept, hkept, rfl⟩ := List.mem_map.mp hl
      have hplain := s.tree.plain kept (List.mem_filter.mp hkept).1
      split at hname <;> rename_i hbelow
      · rw [if_pos hbelow]
        exact ⟨rfl, rfl⟩
      · rw [if_neg hbelow]
        exact hplain hname

def directoriesTo (names : List String) : List (List String) :=
  (List.range (names.length + 1)).map fun n => PathName.collapse (names.take n)

def hasDirectory (s : LogSession) (directory : PathName) : Bool :=
  (PathName.collapse directory.names).isEmpty ||
    s.directories.contains (PathName.collapse directory.names)

def openFile (fs : LogFiles) (h : Handler) : LogFiles :=
  match h.sink with
  | .console => fs
  | .file path _ _ => fs.touch path

def makeDirectory (s : LogSession) (settings : LogSettings) : LogSession :=
  match settings.fileDirectory? with
  | some directory => { s with directories := s.directories ++ directoriesTo directory.names }
  | none => s

/-- Puts handlers and levels in place of those before, opens the files, and adds a filter to the
root. -/
def configure (s : LogSession) (settings : LogSettings) : Except SetupError LogSession := do
  let handlers ← handlersFor settings
  return { s with
    tree := s.configuredTree settings handlers
    rootFilters := s.rootFilters + 1
    files := handlers.foldl (fun fs h => openFile fs h.2) s.files }

/-- Makes the directory for files and configures logging. What cannot be configured leaves the
directory and changes nothing else. -/
def setup (s : LogSession) (settings : LogSettings) : LogSession × Option SetupError :=
  let s := s.makeDirectory settings
  match s.configure settings with
  | .ok s => (s, none)
  | .error e => (s, some e)

end LogSession

end ObjectCatalog
