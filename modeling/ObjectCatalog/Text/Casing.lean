import ObjectCatalog.Text.CasingTable

/-! # Upper and lower case

Full case mapping: a character may become several, and a capital sigma at the end of a word
becomes a final small sigma. ASCII letters are mapped by rule, all others by table.
-/
namespace ObjectCatalog.Text

def upperChar (c : Char) : List Char :=
  if c.toNat < 0x80 then [c.toUpper] else (upperTable.apply c.toNat).map Char.ofNat

def lowerChar (c : Char) : List Char :=
  if c.toNat < 0x80 then [c.toLower] else (lowerTable.apply c.toNat).map Char.ofNat

def isCased (c : Char) : Bool :=
  if c.toNat < 0x80 then c.isAlpha else casedRanges.contains c.toNat

def isCaseIgnorable (c : Char) : Bool :=
  if c.toNat < 0x80 then c.toNat ∈ [0x27, 0x2e, 0x3a, 0x5e, 0x60]
  else caseIgnorableRanges.contains c.toNat

def meetsCased (text : List Char) : Bool :=
  match text.dropWhile isCaseIgnorable with
  | [] => false
  | c :: _ => isCased c

def capitalSigma : Char := Char.ofNat 0x3a3
def smallSigma : Char := Char.ofNat 0x3c3
def finalSigma : Char := Char.ofNat 0x3c2

def lowerAfter (before : List Char) : List Char → List Char
  | [] => []
  | c :: rest =>
    (if c == capitalSigma then
      [if meetsCased before && !meetsCased rest then finalSigma else smallSigma]
    else lowerChar c) ++ lowerAfter (c :: before) rest

def upper (text : String) : String := String.ofList (text.toList.flatMap upperChar)

def lower (text : String) : String := String.ofList (lowerAfter [] text.toList)

end ObjectCatalog.Text
