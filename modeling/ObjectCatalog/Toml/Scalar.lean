import ObjectCatalog.Calendar.Moment
import ObjectCatalog.Toml.Scan

/-! # Numbers and dates of a TOML text

Integers to four bases, floating-point numbers, dates and times. Digits may have single
underscores between them; only a decimal zero starts with a zero. Dates and times are kept as
their text.
-/
namespace ObjectCatalog.Toml

/-! ## Numbers -/

def digitTail (isDigit : Char → Bool) : List Char → List Char × List Char
  | [] => ([], [])
  | '_' :: c :: text =>
    if isDigit c then (c :: (digitTail isDigit text).1, (digitTail isDigit text).2)
    else ([], '_' :: c :: text)
  | c :: text =>
    if isDigit c then (c :: (digitTail isDigit text).1, (digitTail isDigit text).2)
    else ([], c :: text)

def digits? (isDigit : Char → Bool) : List Char → Option (List Char × List Char)
  | [] => none
  | c :: text =>
    if isDigit c then some (c :: (digitTail isDigit text).1, (digitTail isDigit text).2)
    else none

def baseOf (c : Char) : Option (Nat × (Char → Bool)) :=
  if c == 'x' then some (16, isHexDigit)
  else if c == 'o' then some (8, fun c => '0' ≤ c && c ≤ '7')
  else if c == 'b' then some (2, fun c => c == '0' || c == '1') else none

def whole? : List Char → Option (List Char × List Char)
  | '0' :: text => some (['0'], text)
  | text => digits? Char.isDigit text

def fraction? : List Char → Option (List Char × List Char)
  | '.' :: text => digits? Char.isDigit text
  | _ => none

def power? : List Char → Option (Int × List Char)
  | [] => none
  | mark :: text =>
    if mark.toLower != 'e' then none
    else
      let (negative, text) := match text with
        | '-' :: text => (true, text)
        | '+' :: text => (false, text)
        | text => (false, text)
      (digits? Char.isDigit text).map fun (digits, rest) =>
        let n : Int := numberOfDigits 10 digits
        (if negative then -n else n, rest)

def splitSign : List Char → Bool × List Char
  | '-' :: text => (true, text)
  | '+' :: text => (false, text)
  | text => (false, text)

def decimal? (text : List Char) : Option (Value × List Char) := do
  let (negative, unsigned) := splitSign text
  let (whole, afterWhole) ← whole? unsigned
  let (fraction, afterFraction) := (fraction? afterWhole).getD ([], afterWhole)
  let (power, rest) := (power? afterFraction).getD (0, afterFraction)
  let n := numberOfDigits 10 (whole ++ fraction)
  if rest.length == afterWhole.length then
    return (.int (if negative then -n else n), rest)
  return (.float (Binary64.ofDecimal negative n (power - fraction.length)), rest)

def based? : List Char → Option (Value × List Char)
  | '0' :: mark :: text => do
    let (base, isDigit) ← baseOf mark
    let (digits, rest) ← digits? isDigit text
    return (.int (numberOfDigits base digits), rest)
  | _ => none

def special? (text : List Char) : Option (Value × List Char) :=
  let (negative, unsigned) := splitSign text
  if unsigned.take 3 == ['i', 'n', 'f'] then some (.float (.infinite negative), unsigned.drop 3)
  else if unsigned.take 3 == ['n', 'a', 'n'] then some (.float .nan, unsigned.drop 3)
  else none

/-! ## Dates and times -/

def fixedDigits? (count : Nat) (text : List Char) : Option (Nat × List Char) :=
  let digits := text.take count
  if digits.length == count && digits.all Char.isDigit then
    some (numberOfDigits 10 digits, text.drop count)
  else none

def skipChar? (c : Char) : List Char → Option (List Char)
  | [] => none
  | d :: text => if d == c then some text else none

def pair? (low high : Nat) (text : List Char) : Option (Nat × List Char) :=
  (fixedDigits? 2 text).filter fun (n, _) => low ≤ n && n ≤ high

def date? (text : List Char) : Option ((Nat × Nat × Nat) × List Char) := do
  let (year, text) ← fixedDigits? 4 text
  let (month, text) ← skipChar? '-' text >>= pair? 1 12
  let (day, text) ← skipChar? '-' text >>= pair? 1 31
  return ((year, month, day), text)

def time? (text : List Char) : Option (List Char) := do
  let (_, text) ← pair? 0 23 text
  let (_, text) ← skipChar? ':' text >>= pair? 0 59
  let (_, text) ← skipChar? ':' text >>= pair? 0 59
  match text with
  | '.' :: fraction =>
    return if (fraction.takeWhile Char.isDigit).isEmpty then text
      else fraction.dropWhile Char.isDigit
  | _ => return text

def skipOffset (text : List Char) : List Char :=
  match text with
  | [] => []
  | c :: rest =>
    if c == 'Z' || c == 'z' then rest
    else if c == '+' || c == '-' then
      (do
        let (_, rest) ← pair? 0 23 rest
        let (_, rest) ← skipChar? ':' rest >>= pair? 0 59
        return rest).getD text
    else text

def skipTime (text : List Char) : List Char :=
  match text with
  | [] => []
  | c :: rest =>
    if c == 'T' || c == 't' || c == ' ' then ((time? rest).map skipOffset).getD text else text

def daysInMonth (year month : Nat) : Nat :=
  if month == 2 then (if Moment.isLeap year then 29 else 28)
  else if [4, 6, 9, 11].contains month then 30 else 31

def isDate (date : Nat × Nat × Nat) : Bool :=
  0 < date.1 && date.2.2 ≤ daysInMonth date.1 date.2.1

def textBefore (rest text : List Char) : Value :=
  .text (String.ofList (text.take (text.length - rest.length)))

def wholeLength (text : List Char) : Nat :=
  ((whole? (splitSign text).2).map fun (digits, _) => digits.length).getD 0

def number (text : List Char) : Except Fault (Value × List Char) :=
  match (based? text).or ((decimal? text).or (special? text)) with
  | none => refuse .invalidValue text
  | some (.int n, rest) =>
    if digitLimit < wholeLength text then refuse (.tooManyDigits (wholeLength text)) text
    else .ok (.int n, rest)
  | some found => .ok found

def scalar (text : List Char) : Except Fault (Value × List Char) :=
  match date? text with
  | some (date, rest) =>
    if isDate date then .ok (textBefore (skipTime rest) text, skipTime rest)
    else refuse .invalidDate text
  | none =>
    match time? text with
    | some rest => .ok (textBefore rest text, rest)
    | none => number text

end ObjectCatalog.Toml
