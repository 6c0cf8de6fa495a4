import ObjectCatalog.Text.Quoted

/-! # Reading UTF-8

Decoding is strict: the shortest form only, no surrogates, nothing above U+10FFFF. A fault is
reported for the longest start of a well-formed sequence that could not be completed.
-/
namespace ObjectCatalog.Text

inductive Utf8Fault
  | invalidStart
  | invalidContinuation
  | unexpectedEnd
  deriving DecidableEq

/-- The bytes from `start` up to and without `stop` could not be decoded; `lead` is the first. -/
structure Utf8Error where
  fault : Utf8Fault
  lead : UInt8
  start : Nat
  stop : Nat
  deriving DecidableEq

def Utf8Fault.message : Utf8Fault → String
  | .invalidStart => "invalid start byte"
  | .invalidContinuation => "invalid continuation byte"
  | .unexpectedEnd => "unexpected end of data"

def Utf8Error.message (e : Utf8Error) : String :=
  if e.stop == e.start + 1 then
    "'utf-8' codec can't decode byte 0x" ++ String.ofList (hexDigits 2 e.lead.toNat) ++
      " in position " ++ toString e.start ++ ": " ++ e.fault.message
  else
    "'utf-8' codec can't decode bytes in position " ++ toString e.start ++ "-" ++
      toString (e.stop - 1) ++ ": " ++ e.fault.message

/-- How many bytes must follow this lead byte, and the least and greatest the first may be. -/
def leadShape (lead : Nat) : Option (Nat × Nat × Nat) :=
  if 0xc2 ≤ lead && lead ≤ 0xdf then some (1, 0x80, 0xbf)
  else if lead == 0xe0 then some (2, 0xa0, 0xbf)
  else if lead == 0xed then some (2, 0x80, 0x9f)
  else if 0xe1 ≤ lead && lead ≤ 0xef then some (2, 0x80, 0xbf)
  else if lead == 0xf0 then some (3, 0x90, 0xbf)
  else if lead == 0xf4 then some (3, 0x80, 0x8f)
  else if 0xf1 ≤ lead && lead ≤ 0xf3 then some (3, 0x80, 0xbf)
  else none

def leadBits (lead count : Nat) : Nat := lead % Nat.pow 2 (6 - count)

/-- Reads `count` further bytes, the first within the given bounds, onto the bits in hand; gives
the code point, or how many bytes were good and why the next was not. -/
def readTail : (count low high code : Nat) → List UInt8 → Nat ⊕ (Nat × Utf8Fault)
  | 0, _, _, code, _ => .inl code
  | _ + 1, _, _, _, [] => .inr (0, .unexpectedEnd)
  | count + 1, low, high, code, b :: rest =>
    if low ≤ b.toNat && b.toNat ≤ high then
      match readTail count 0x80 0xbf (code * 64 + b.toNat % 64) rest with
      | .inl code => .inl code
      | .inr (good, fault) => .inr (good + 1, fault)
    else .inr (0, .invalidContinuation)

/-- Decodes the bytes that begin at `start`, passing over the first `skip`, which belong to a
character already read. -/
def decodeFrom : (start skip : Nat) → List UInt8 → Except Utf8Error (List Char)
  | _, _, [] => .ok []
  | start, skip + 1, _ :: rest => decodeFrom (start + 1) skip rest
  | start, 0, b :: rest =>
    if b.toNat < 0x80 then do
      return Char.ofNat b.toNat :: (← decodeFrom (start + 1) 0 rest)
    else match leadShape b.toNat with
      | none => .error ⟨.invalidStart, b, start, start + 1⟩
      | some (count, low, high) =>
        match readTail count low high (leadBits b.toNat count) rest with
        | .inr (good, fault) => .error ⟨fault, b, start, start + 1 + good⟩
        | .inl code => do return Char.ofNat code :: (← decodeFrom (start + 1) count rest)

def decodeUtf8 (bytes : List UInt8) : Except Utf8Error (List Char) := decodeFrom 0 0 bytes

end ObjectCatalog.Text
