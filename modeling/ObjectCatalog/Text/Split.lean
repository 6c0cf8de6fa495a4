/-! # Splitting a text

The pieces between separators, in order; there is one more of them than there are separators.
-/
namespace ObjectCatalog.Text

def split (separator : Char) : List Char → List (List Char)
  | [] => [[]]
  | c :: rest =>
    match split separator rest with
    | [] => [[c]]
    | first :: others =>
      if c == separator then [] :: first :: others else (c :: first) :: others

theorem split_ne_nil (separator : Char) (text : List Char) : split separator text ≠ [] := by
  cases text with
  | nil => simp [split]
  | cons c rest =>
    unfold split
    split
    · simp
    · split <;> simp

def splitString (separator : Char) (text : String) : List String :=
  (split separator text.toList).map String.ofList

end ObjectCatalog.Text
