import ObjectCatalog.Value.Basic

/-! # The manifest of the store itself -/
namespace ObjectCatalog.Manifest

def ownName : String := "catalog-store"

def ownVersion : String := "0.1.0"

private def texts (items : List String) : Value := .list (items.map .text)

def own : Value :=
  .table [
    ("build-system", .table [
      ("requires", texts ["setuptools>=68", "wheel"]),
      ("build-backend", .text "setuptools.build_meta")]),
    ("project", .table [
      ("name", .text ownName),
      ("version", .text ownVersion),
      ("description", .text ("Dialect abstraction and transactional-error classification for " ++
        "a versioned, content-addressed catalog store on SQL databases")),
      ("requires-python", .text ">=3.11"),
      ("dependencies", texts ["sqlalchemy[asyncio]>=2.0", "pydantic>=2.0",
        "pydantic-settings>=2.0"]),
      ("optional-dependencies", .table [
        ("postgres", texts ["psycopg[binary]>=3.1"]),
        ("mysql", texts ["pymysql>=1.1"]),
        ("test", texts ["pytest>=8.0", "pytest-asyncio>=0.23", "aiosqlite>=0.19"])])]),
    ("tool", .table [
      ("setuptools", .table [
        ("packages", .table [
          ("find", .table [
            ("where", texts ["src"]),
            ("include", texts ["catalog_store*"])])])]),
      ("pytest", .table [
        ("ini_options", .table [
          ("testpaths", texts ["src/catalog_store/tests"]),
          ("asyncio_mode", .text "auto"),
          ("asyncio_default_fixture_loop_scope", .text "function")])])])]

end ObjectCatalog.Manifest
