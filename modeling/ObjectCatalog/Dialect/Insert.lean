import ObjectCatalog.Dialect.Descriptor
import ObjectCatalog.Text.Keyword

/-! # Inserts that pass over stored rows

An insert statement is adapted once: a conflict clause is appended, or the leading words are
replaced by those that ignore duplicates, and an adapted statement is left as it is. A statement
begins with the words INSERT INTO after optional blanks, and INTO ends at a word boundary.
-/
namespace ObjectCatalog.Insert

def insertInto : List (List Char) := ["insert".toList, "into".toList]
def insertIgnoreInto : List (List Char) := ["insert".toList, "ignore".toList, "into".toList]
def conflictWords : List (List Char) :=
  ["on".toList, "conflict".toList, "do".toList, "nothing".toList]

def conflictClause : List Char := " ON CONFLICT DO NOTHING".toList
def insertIgnoreClause : List Char := "INSERT IGNORE INTO".toList

def afterWords? (words : List (List Char)) (sql : List Char) : Option (List Char) :=
  (Text.keywords? words (Text.trimStart sql)).filter Text.startsOutsideWord

/-- Blanks with at most one semicolon among them. -/
def isTerminator (text : List Char) : Bool :=
  match Text.trimStart text with
  | [] => true
  | c :: rest => c == ';' && (Text.trimStart rest).isEmpty

def isConflictClause (text : List Char) : Bool :=
  match Text.keywords? conflictWords text with
  | some rest => isTerminator rest
  | none => false

/-- Does some ending that no word runs into make up the conflict clause? -/
def endsWithClause (insideWord : Bool) : List Char → Bool
  | [] => false
  | c :: rest =>
    (!insideWord && isConflictClause (c :: rest)) || endsWithClause (Text.isWordChar c) rest

structure NotAnInsert where
  sql : String
  deriving DecidableEq

def NotAnInsert.message (e : NotAnInsert) : String :=
  "Expected an 'INSERT INTO' statement, got: " ++
    Text.quote (String.ofList (e.sql.toList.take 60))

def appendClause (sql : List Char) : List Char :=
  Text.dropEndWhile (· == ';') (Text.trimEnd sql) ++ conflictClause

def leadingBlanks (sql : List Char) : List Char := sql.takeWhile Text.isBlank

def adaptChars? (adapter : Adapter) (sql : List Char) : Option (List Char) :=
  match adapter with
  | .onConflict =>
    (afterWords? insertInto sql).map fun _ =>
      if endsWithClause false sql then sql else appendClause sql
  | .insertIgnore _ =>
    match afterWords? insertIgnoreInto sql with
    | some _ => some sql
    | none =>
      (afterWords? insertInto sql).map fun rest =>
        leadingBlanks sql ++ insertIgnoreClause ++ rest

def adapt (adapter : Adapter) (sql : String) : Except NotAnInsert String :=
  match adaptChars? adapter sql.toList with
  | some adapted => .ok (String.ofList adapted)
  | none => .error ⟨sql⟩

end ObjectCatalog.Insert
