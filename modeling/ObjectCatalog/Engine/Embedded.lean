import ObjectCatalog.Engine.Pool
import ObjectCatalog.Engine.Url

/-! # Engines of an embedded database

What makes engines where the drivers of one embedded database are installed, one for each way of
waiting, and none for the servers.
-/
namespace ObjectCatalog

def installedDrivers : List (String × String × Bool) :=
  [("sqlite", "pysqlite", false), ("sqlite+pysqlite", "pysqlite", false),
    ("sqlite+aiosqlite", "aiosqlite", true)]

def missingDrivers : List (String × String) :=
  [("sqlite+pysqlcipher", "pysqlcipher3"),
    ("postgresql", "psycopg"), ("postgresql+psycopg", "psycopg"),
    ("postgresql+psycopg_async", "psycopg"),
    ("postgresql+psycopg2", "psycopg2"), ("postgresql+psycopg2cffi", "psycopg2cffi"),
    ("postgresql+asyncpg", "asyncpg"), ("postgresql+pg8000", "pg8000"),
    ("mysql", "MySQLdb"), ("mysql+mysqldb", "MySQLdb"), ("mysql+pymysql", "pymysql"),
    ("mysql+aiomysql", "aiomysql"), ("mysql+asyncmy", "asyncmy"),
    ("mysql+mysqlconnector", "mysql"), ("mysql+mariadbconnector", "mariadb"),
    ("mysql+cymysql", "cymysql"), ("mysql+pyodbc", "pyodbc"),
    ("mariadb", "MySQLdb"), ("mariadb+mysqldb", "MySQLdb"), ("mariadb+pymysql", "pymysql"),
    ("mariadb+aiomysql", "aiomysql"), ("mariadb+asyncmy", "asyncmy"),
    ("mariadb+mysqlconnector", "mysql"), ("mariadb+mariadbconnector", "mariadb"),
    ("mariadb+cymysql", "cymysql"), ("mariadb+pyodbc", "pyodbc"),
    ("oracle", "oracledb"), ("oracle+oracledb", "oracledb"),
    ("oracle+oracledb_async", "oracledb"), ("oracle+cx_oracle", "cx_Oracle"),
    ("mssql", "pyodbc"), ("mssql+pyodbc", "pyodbc"), ("mssql+pymssql", "pymssql"),
    ("mssql+aioodbc", "aioodbc"), ("mssql+mssqlpython", "mssql_python")]

inductive EngineError
  | unreadableUrl (error : DatabaseUrl.ReadError)
  | severalDrivers
  | unknownScheme (scheme : String)
  | missingModule (name : String)
  | notForTasks (driver : String)
  | misplacedServer (url : DatabaseUrl)
  deriving DecidableEq, Repr

namespace EngineError

def className : EngineError → String
  | .unreadableUrl .malformed | .misplacedServer _ => "ArgumentError"
  | .unreadableUrl (.portNotNumber _) | .severalDrivers => "ValueError"
  | .unreadableUrl .portMissing => "TypeError"
  | .unknownScheme _ => "NoSuchModuleError"
  | .missingModule _ => "ModuleNotFoundError"
  | .notForTasks _ => "InvalidRequestError"

def message : EngineError → String
  | .unreadableUrl e => e.message
  | .severalDrivers => "too many values to unpack (expected 2)"
  | .unknownScheme scheme =>
    "Can't load plugin: sqlalchemy.dialects:" ++
      String.ofList (scheme.toList.map fun c => if c == '+' then '.' else c)
  | .missingModule name => "No module named '" ++ name ++ "'"
  | .notForTasks driver =>
    "The asyncio extension requires an async driver to be used. The loaded '" ++ driver ++
      "' is not async."
  | .misplacedServer url =>
    "Invalid SQLite URL: " ++ url.text ++ "\nValid SQLite URL forms are sqlite:///:memory: or " ++
      "sqlite:////absolute/path/to/file.db"

def failure (e : EngineError) : Failure := .plain e.className e.message

end EngineError

def DatabaseUrl.driver (url : DatabaseUrl) : Except EngineError (String × Bool) :=
  if (url.scheme.toList.filter (· == '+')).length > 1 then .error .severalDrivers
  else
    match installedDrivers.lookup url.scheme, missingDrivers.lookup url.scheme with
    | some driver, _ => .ok driver
    | none, some name => .error (.missingModule name)
    | none, none => .error (.unknownScheme url.scheme)

def embeddedUrl (text : String) (forTasks : Bool) : Except EngineError DatabaseUrl := do
  let url ← (DatabaseUrl.ofText text).mapError .unreadableUrl
  let (driver, servesTasks) ← url.driver
  if url.namesServer then throw (.misplacedServer url)
  if forTasks && !servesTasks then throw (.notForTasks driver)
  return url

def EngineMaker.embedded : EngineMaker where
  make number key forTasks :=
    match embeddedUrl key.url forTasks with
    | .ok url => .ok ⟨number, key, forTasks, "sqlite", url.database⟩
    | .error e => .error e.failure
  isNew := by
    intro number key forTasks engine h
    cases hurl : embeddedUrl key.url forTasks with
    | error e =>
      rw [hurl] at h
      cases h
    | ok url =>
      rw [hurl] at h
      cases h
      exact ⟨rfl, rfl, rfl⟩

end ObjectCatalog
