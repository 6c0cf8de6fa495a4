import ObjectCatalog.Text.Casing
import ObjectCatalog.Validation.Coercion

/-! # Settings

What the store can be told from outside: its database, its engine options and its logging. Every
setting has a default, and all that is given is validated together, so that every issue shows.
The log level and the log format may be given in any case and with blanks around them.
-/
namespace ObjectCatalog

inductive Environment
  | development
  | testing
  | staging
  | production
  deriving DecidableEq, Repr

inductive LogLevel
  | debug
  | info
  | warning
  | error
  | critical
  deriving DecidableEq, Repr

inductive LogFormat
  | json
  | text
  deriving DecidableEq, Repr

namespace Environment

def table : List (String × Environment) :=
  [("development", .development), ("testing", .testing), ("staging", .staging),
    ("production", .production)]

def name : Environment → String
  | .development => "development"
  | .testing => "testing"
  | .staging => "staging"
  | .production => "production"

end Environment

namespace LogLevel

def table : List (String × LogLevel) :=
  [("DEBUG", .debug), ("INFO", .info), ("WARNING", .warning), ("ERROR", .error),
    ("CRITICAL", .critical)]

def name : LogLevel → String
  | .debug => "DEBUG"
  | .info => "INFO"
  | .warning => "WARNING"
  | .error => "ERROR"
  | .critical => "CRITICAL"

end LogLevel

namespace LogFormat

def table : List (String × LogFormat) := [("json", .json), ("text", .text)]

def name : LogFormat → String
  | .json => "json"
  | .text => "text"

end LogFormat

inductive Setting
  | environment
  | databaseUrl
  | asyncDatabaseUrl
  | echo
  | prePing
  | logLevel
  | logFormat
  | logToStdout
  | logDirectory
  | logMaxBytes
  | logBackupCount
  | sqlLogging
  deriving DecidableEq, Repr

def Setting.name : Setting → String
  | .environment => "ENV"
  | .databaseUrl => "DATABASE_URL"
  | .asyncDatabaseUrl => "ASYNC_DATABASE_URL"
  | .echo => "SQLALCHEMY_ECHO"
  | .prePing => "POOL_PRE_PING"
  | .logLevel => "LOG_LEVEL"
  | .logFormat => "LOG_FORMAT"
  | .logToStdout => "LOG_TO_STDOUT"
  | .logDirectory => "LOG_DIR"
  | .logMaxBytes => "LOG_MAX_BYTES"
  | .logBackupCount => "LOG_BACKUP_COUNT"
  | .sqlLogging => "ENABLE_SQL_LOGGING"

structure Settings where
  environment : Environment
  databaseUrl : String
  asyncDatabaseUrl : Option String
  echo : Bool
  prePing : Bool
  logLevel : LogLevel
  logFormat : LogFormat
  logToStdout : Bool
  logDirectory : Option PathName
  logMaxBytes : Int
  logBackupCount : Int
  sqlLogging : Bool
  deriving DecidableEq, Repr

abbrev Given := Setting → Option Value

namespace Settings

def trimmed (s : String) : String := String.ofList (Text.trim s.toList)

def normalizeUpper (v : Value) : Value :=
  match v.asText? with
  | some s => .text (Text.upper (trimmed s))
  | none => v

def normalizeLower (v : Value) : Value :=
  match v.asText? with
  | some s => .text (Text.lower (trimmed s))
  | none => v

def read (given : Given) (setting : Setting) (fallback : α) (coerce : Value → Except Issue α) :
    Validated α :=
  match given setting with
  | none => .ok fallback
  | some v => Validated.field setting.name (coerce v)

def validate (given : Given) : Validated Settings :=
  Validated.apply (Validated.apply (Validated.apply (Validated.apply (Validated.apply
  (Validated.apply (Validated.apply (Validated.apply (Validated.apply (Validated.apply
  (Validated.apply (Validated.apply (.ok Settings.mk)
    (read given .environment .development (Coercion.literal Environment.table)))
    (read given .databaseUrl "sqlite:///./catalog.db" Coercion.text))
    (read given .asyncDatabaseUrl none Coercion.optionalText))
    (read given .echo false Coercion.bool))
    (read given .prePing true Coercion.bool))
    (read given .logLevel .info fun v => Coercion.literal LogLevel.table (normalizeUpper v)))
    (read given .logFormat .json fun v => Coercion.literal LogFormat.table (normalizeLower v)))
    (read given .logToStdout true Coercion.bool))
    (read given .logDirectory none Coercion.optionalPath))
    (read given .logMaxBytes 10000000 Coercion.int))
    (read given .logBackupCount 5 Coercion.int))
    (read given .sqlLogging false Coercion.bool)

def defaults : Settings :=
  ⟨.development, "sqlite:///./catalog.db", none, false, true, .info, .json, true, none, 10000000, 5,
    false⟩

def entries (s : Settings) : List (String × Value) :=
  [(Setting.environment.name, .text s.environment.name),
    (Setting.databaseUrl.name, .text s.databaseUrl),
    (Setting.asyncDatabaseUrl.name, (s.asyncDatabaseUrl.map Value.text).getD .null),
    (Setting.echo.name, .bool s.echo),
    (Setting.prePing.name, .bool s.prePing),
    (Setting.logLevel.name, .text s.logLevel.name),
    (Setting.logFormat.name, .text s.logFormat.name),
    (Setting.logToStdout.name, .bool s.logToStdout),
    (Setting.logDirectory.name, (s.logDirectory.map fun p => Value.text p.text).getD .null),
    (Setting.logMaxBytes.name, .int s.logMaxBytes),
    (Setting.logBackupCount.name, .int s.logBackupCount),
    (Setting.sqlLogging.name, .bool s.sqlLogging)]

end Settings

end ObjectCatalog
