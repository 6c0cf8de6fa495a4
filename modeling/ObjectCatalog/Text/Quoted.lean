import ObjectCatalog.Text.Printable

/-! # Quoted text

A text between quote marks, with every mark, backslash, line break, tab and unprintable character
escaped, so that the quoted form is printable and shows where the text ends. The mark is the
single quote unless the text has single quotes and no double quote.
-/
namespace ObjectCatalog.Text

def hexDigit (n : Nat) : Char :=
  if n < 10 then Char.ofNat (0x30 + n) else Char.ofNat (0x61 + (n - 10))

def hexValue? (c : Char) : Option Nat :=
  if '0' ≤ c && c ≤ '9' then some (c.toNat - 0x30)
  else if 'a' ≤ c && c ≤ 'f' then some (c.toNat - 0x57)
  else if 'A' ≤ c && c ≤ 'F' then some (c.toNat - 0x37) else none

def hexDigits : (width n : Nat) → List Char
  | 0, _ => []
  | width + 1, n => hexDigits width (n / 16) ++ [hexDigit (n % 16)]

def singleQuote : Char := Char.ofNat 0x27
def doubleQuote : Char := Char.ofNat 0x22

def quoteMark (hasSingle hasDouble : Bool) : Char :=
  if hasSingle && !hasDouble then doubleQuote else singleQuote

def shortEscape (code : Nat) : Option Char :=
  if code == 0x09 then some 't' else if code == 0x0a then some 'n'
  else if code == 0x0d then some 'r' else none

def escapeQuoted (mark c : Char) : List Char :=
  if c == mark || c == '\\' then ['\\', c]
  else match shortEscape c.toNat with
    | some letter => ['\\', letter]
    | none =>
      if isPrintable c then [c]
      else if c.toNat < 0x100 then '\\' :: 'x' :: hexDigits 2 c.toNat
      else if c.toNat < 0x10000 then '\\' :: 'u' :: hexDigits 4 c.toNat
      else '\\' :: 'U' :: hexDigits 8 c.toNat

def quoteChars (text : List Char) : List Char :=
  let mark := quoteMark (text.contains singleQuote) (text.contains doubleQuote)
  mark :: text.flatMap (escapeQuoted mark) ++ [mark]

def quote (text : String) : String := String.ofList (quoteChars text.toList)

def escapeByte (mark : Char) (byte : UInt8) : List Char :=
  let c := Char.ofNat byte.toNat
  if c == mark || c == '\\' then ['\\', c]
  else match shortEscape byte.toNat with
    | some letter => ['\\', letter]
    | none =>
      if 0x20 ≤ byte.toNat && byte.toNat < 0x7f then [c]
      else '\\' :: 'x' :: hexDigits 2 byte.toNat

def quoteBytes (bytes : List UInt8) : String :=
  let mark := quoteMark (bytes.contains 0x27) (bytes.contains 0x22)
  String.ofList ('b' :: mark :: bytes.flatMap (escapeByte mark) ++ [mark])

def quoteList (texts : List String) : String :=
  "[" ++ String.intercalate ", " (texts.map quote) ++ "]"

end ObjectCatalog.Text
