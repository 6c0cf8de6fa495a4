import ObjectCatalog.Path.Basic
import ObjectCatalog.Settings.Basic
import ObjectCatalog.Value.Basic

/-! # The configuration of logging

Settings say where records go, in which form and from which severity on. Records always go to the
console; a second handler takes errors alone, always as JSON. Files are written, one for all
records and one for errors, only when the console is not to be the only place and a directory is
given; otherwise errors appear on the console again. Values of settings are handed on as they are.
-/
namespace ObjectCatalog

structure LogSettings where
  format : Value := .text "json"
  level : Value := .text "INFO"
  consoleOnly : Bool := true
  directory : Option PathName := none
  maxBytes : Value := .int 1000
  backupCount : Value := .int 1
  environment : Value := .text "development"
  showStatements : Bool := false

def Settings.logging (s : Settings) : LogSettings where
  format := .text s.logFormat.name
  level := .text s.logLevel.name
  consoleOnly := s.logToStdout
  directory := s.logDirectory
  maxBytes := .int s.logMaxBytes
  backupCount := .int s.logBackupCount
  environment := .text s.environment.name
  showStatements := s.sqlLogging

inductive HandlerTarget
  | console
  | file (path : PathName) (maxBytes backupCount : Value)

structure HandlerConfig where
  name : String
  target : HandlerTarget
  /-- Records as JSON, or in the standard form. -/
  structured : Bool
  level : Value

inductive HandlerError
  | noDirectory
  deriving DecidableEq

def HandlerError.message : HandlerError → String
  | .noDirectory => "expected str, bytes or os.PathLike object, not NoneType"

namespace LogSettings

def isFormat (s : LogSettings) (name : String) : Bool :=
  match s.format.asText? with
  | some format => format == name
  | none => false

def structured (s : LogSettings) : Bool := s.isFormat "json"

def errorLevel : Value := .text "ERROR"

def consoleHandler (s : LogSettings) : HandlerConfig :=
  ⟨"console", .console, s.structured, s.level⟩

def errorConsoleHandler : HandlerConfig := ⟨"error_console", .console, true, errorLevel⟩

def fileIn (s : LogSettings) (directory : PathName) (name : String) : HandlerTarget :=
  .file (directory.child name) s.maxBytes s.backupCount

def fileHandlerIn (s : LogSettings) (directory : PathName) : HandlerConfig :=
  ⟨"file", s.fileIn directory "catalog.log", s.structured, s.level⟩

def errorFileHandlerIn (s : LogSettings) (directory : PathName) : HandlerConfig :=
  ⟨"error_file", s.fileIn directory "errors.log", true, errorLevel⟩

def inDirectory (s : LogSettings) (handler : PathName → HandlerConfig) :
    Except HandlerError HandlerConfig :=
  match s.directory with
  | some directory => .ok (handler directory)
  | none => .error .noDirectory

def fileHandler (s : LogSettings) : Except HandlerError HandlerConfig :=
  s.inDirectory s.fileHandlerIn

def errorFileHandler (s : LogSettings) : Except HandlerError HandlerConfig :=
  s.inDirectory s.errorFileHandlerIn

def fileDirectory? (s : LogSettings) : Option PathName :=
  if s.consoleOnly then none else s.directory

def handlers (s : LogSettings) : List HandlerConfig :=
  s.consoleHandler :: match s.fileDirectory? with
    | some directory => [s.fileHandlerIn directory, s.errorFileHandlerIn directory]
    | none => [errorConsoleHandler]

end LogSettings

/-! ## Loggers -/

structure LoggerConfig where
  name : String
  level : Value
  propagate : Bool
  /-- The names of its own handlers, if it has any. -/
  handlers : Option (List String)

namespace LogSettings

def storeLogger : String := "catalog_store"

def statementLogger : String := "sqlalchemy.engine"

def rootLogger (s : LogSettings) : LoggerConfig :=
  ⟨"", s.level, true, some (s.handlers.map (·.name))⟩

def namedLoggers (s : LogSettings) : List LoggerConfig :=
  [⟨storeLogger, s.level, true, none⟩,
    ⟨statementLogger, .text (if s.showStatements then "DEBUG" else "WARNING"), false,
      some ["console"]⟩]

def loggers (s : LogSettings) : List LoggerConfig := s.rootLogger :: s.namedLoggers

end LogSettings

/-! ## As a table -/

def HandlerConfig.filterNames : List String := ["transaction_id", "redact"]

def textList (texts : List String) : Value := .list (texts.map .text)

def HandlerConfig.table (h : HandlerConfig) : Value :=
  let shared : List (String × Value) :=
    [("formatter", .text (if h.structured then "json" else "standard")), ("level", h.level),
      ("filters", textList filterNames)]
  match h.target with
  | .console => .table (("class", .text "logging.StreamHandler") :: shared)
  | .file path maxBytes backupCount =>
    .table (("class", .text "logging.handlers.RotatingFileHandler") :: shared ++
      [("filename", .text path.text), ("maxBytes", maxBytes), ("backupCount", backupCount),
        ("encoding", .text "utf-8")])

def LoggerConfig.table (l : LoggerConfig) : Value :=
  .table ((match l.handlers with
    | some names => [("handlers", textList names)]
    | none => []) ++ [("level", l.level), ("propagate", .bool l.propagate)])

namespace LogSettings

def standardPattern : String :=
  "%(asctime)s | %(levelname)s | %(name)s | %(transaction_id)s | %(message)s"

def maker (name : String) : String × Value := ("()", .text name)

def formatterTable (s : LogSettings) (service : String) : Value :=
  .table [
    ("standard", .table [maker (if s.isFormat "text" then "ColorFormatter" else "Formatter"),
      ("format", .text standardPattern)]),
    ("json", .table [maker "JsonFormatter", ("env", s.environment), ("service", .text service)])]

def filterTable : Value :=
  .table [("transaction_id", .table [maker "TransactionIdFilter"]),
    ("redact", .table [maker "RedactFilter"])]

def table (s : LogSettings) (service : String) : Value :=
  .table [
    ("version", .int 1),
    ("disable_existing_loggers", .bool false),
    ("formatters", s.formatterTable service),
    ("filters", filterTable),
    ("handlers", .table (s.handlers.map fun h => (h.name, h.table))),
    ("loggers", .table (s.loggers.map fun l => (l.name, l.table)))]

end LogSettings

end ObjectCatalog
