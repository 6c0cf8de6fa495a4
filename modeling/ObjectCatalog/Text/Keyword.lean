import ObjectCatalog.Text.Blank
import ObjectCatalog.Text.WordChar

/-! # Keywords in any case

Readers for keywords at the start of a text. Each takes what it recognises off the front and
gives the rest. Letters match in either case; the dotted and dotless i match the letter i, and
the long s matches the letter s, as simple case folding has it.
-/
namespace ObjectCatalog.Text

/-- Does `c` stand for the lower-case ASCII letter `letter`? -/
def sameLetter (letter c : Char) : Bool :=
  c.toLower == letter || (letter == 'i' && (c.toNat == 0x130 || c.toNat == 0x131)) ||
    (letter == 's' && c.toNat == 0x17f)

def keyword? : (word text : List Char) → Option (List Char)
  | [], text => some text
  | _ :: _, [] => none
  | letter :: word, c :: text => if sameLetter letter c then keyword? word text else none

def blanks? : List Char → Option (List Char)
  | [] => none
  | c :: text => if isBlank c then some (trimStart text) else none

def keywords? : (words : List (List Char)) → List Char → Option (List Char)
  | [], text => some text
  | [word], text => keyword? word text
  | word :: words, text => keyword? word text >>= blanks? >>= keywords? words

end ObjectCatalog.Text
