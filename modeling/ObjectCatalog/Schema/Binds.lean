import ObjectCatalog.Text.WordChar

/-! # Binds of a statement

A bind is a colon and the word after it. A colon that follows a colon, a backslash or a word
character begins none, and a word that runs up to another colon is cut by one character.
-/
namespace ObjectCatalog.Binds

def blocksBind (c : Char) : Bool := c == ':' || c == '\\' || Text.isWordChar c

def nameAt (text : List Char) : List Char :=
  let word := text.takeWhile Text.isWordChar
  match text.drop word.length with
  | ':' :: _ => word.dropLast
  | _ => word

/-- The names of binds in a text, in order; `blocked` if none can begin at its start. What belongs
to a name cannot begin another, since it blocks. -/
def scan (blocked : Bool) : List Char → List (List Char)
  | [] => []
  | c :: rest =>
    (if c == ':' && !blocked && !(nameAt rest).isEmpty then [nameAt rest] else []) ++
      scan (blocksBind c) rest

def names (sql : String) : List String := ((scan false sql.toList).map String.ofList).eraseDups

end ObjectCatalog.Binds
