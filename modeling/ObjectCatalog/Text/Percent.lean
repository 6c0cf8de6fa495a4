import ObjectCatalog.Text.Utf8

/-! # Percent encoding

A percent sign and two hexadecimal digits stand for a byte. Bytes next to one another are decoded
together as UTF-8, where what is ill-formed becomes a replacement character; a percent sign
without two such digits stands for itself. Encoding keeps letters, digits, a few signs and what is
declared safe.
-/
namespace ObjectCatalog.Text

def replacement : Char := Char.ofNat 0xfffd

/-- Decodes bytes as UTF-8, with a replacement for each ill-formed sequence. -/
def decodeReplacing : (fuel : Nat) → List UInt8 → List Char
  | 0, _ => []
  | fuel + 1, bytes =>
    match decodeUtf8 bytes with
    | .ok text => text
    | .error e =>
      ((decodeUtf8 (bytes.take e.start)).toOption.getD []) ++
        replacement :: decodeReplacing fuel (bytes.drop e.stop)

def codedByte? : List Char → Option UInt8
  | a :: b :: _ => do return UInt8.ofNat (16 * (← hexValue? a) + (← hexValue? b))
  | _ => none

/-- The bytes of a text in ASCII; the first `skip` characters belong to a byte already read. -/
def bytesOf : (skip : Nat) → List Char → List UInt8
  | _, [] => []
  | skip + 1, _ :: text => bytesOf skip text
  | 0, c :: text =>
    match if c == '%' then codedByte? text else none with
    | some byte => byte :: bytesOf 2 text
    | none => UInt8.ofNat c.toNat :: bytesOf 0 text

def decodeAscii (text : List Char) : List Char :=
  decodeReplacing (text.length + 1) (bytesOf 0 text)

/-- Decodes a text, of which `ascii` holds the last characters so far, latest first. Characters
beyond ASCII separate the bytes on their two sides. -/
def percentDecodeFrom (ascii : List Char) : List Char → List Char
  | [] => decodeAscii ascii.reverse
  | c :: text =>
    if c.toNat < 0x80 then percentDecodeFrom (c :: ascii) text
    else decodeAscii ascii.reverse ++ c :: percentDecodeFrom [] text

def percentDecode (text : List Char) : List Char := percentDecodeFrom [] text

def upperHexDigit (n : Nat) : Char := (hexDigit n).toUpper

def percentByte (byte : UInt8) : List Char :=
  ['%', upperHexDigit (byte.toNat / 16), upperHexDigit (byte.toNat % 16)]

def isUnreserved (c : Char) : Bool := c.isAlphanum || c == '_' || c == '.' || c == '-' || c == '~'

def percentEncode (isSafe : Char → Bool) (text : List Char) : List Char :=
  text.flatMap fun c =>
    if isUnreserved c || isSafe c then [c] else (String.utf8EncodeChar c).flatMap percentByte

/-! ## Forms

In a form, a plus sign stands for a space, and fields stand between ampersands as names and values
with an equals sign between them. Fields without a value are left out.
-/

def spaceOfPlus (c : Char) : Char := if c == '+' then ' ' else c

def plusOfSpace (c : Char) : Char := if c == ' ' then '+' else c

def formDecode (text : List Char) : String := String.ofList (percentDecode (text.map spaceOfPlus))

def formEncode (text : String) : String :=
  String.ofList ((percentEncode (· == ' ') text.toList).map plusOfSpace)

def formField? (text : List Char) : Option (String × String) :=
  match text.dropWhile (· != '=') with
  | _ :: c :: value => some (formDecode (text.takeWhile (· != '=')), formDecode (c :: value))
  | _ => none

end ObjectCatalog.Text
