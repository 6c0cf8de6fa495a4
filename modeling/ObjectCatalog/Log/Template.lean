import ObjectCatalog.Decimal.Scientific
import ObjectCatalog.Value.Basic

/-! # Message templates

A message is a template with its arguments put in. A directive starts with a percent sign and
names, in this order, a key in parentheses, flags, a width, a precision after a point, a size
letter without meaning, and the letter of a conversion. Two percent signs stand for one.

Arguments stand in a list, from which directives without a key take one after the other, or are
one mapping, in which keys are looked up and which a directive without a key takes whole.

Directives are carried out from left to right, so of two faults the left one is reported; a list
must be used up at the end. A template without arguments is left as it is.
-/
namespace ObjectCatalog

inductive Arguments
  | positional (values : List Value)
  | named (entries : List (Value × Value))

/-- A single mapping with entries stands for its entries. -/
def Arguments.ofList : List Value → Arguments
  | [.mapping (entry :: entries)] => .named (entry :: entries)
  | values => .positional values

def Arguments.isEmpty : Arguments → Bool
  | .positional values => values.isEmpty
  | .named entries => entries.isEmpty

def Arguments.value : Arguments → Value
  | .positional values => .tuple values
  | .named entries => .mapping entries

inductive MessageError
  | unused
  | exhausted
  | noMapping
  | missingKey (key : String)
  | unclosedKey
  | unfinished
  | unknownConversion (letter : Char) (index : Nat)
  | notANumber (letter : Char) (kind : String)
  | notAnInteger (letter : Char) (kind : String)
  | notReal (kind : String)
  | notACharacter
  | characterRange
  | extentNotInteger
  | extentRange (ofPrecision : Bool)
  | noWholePart (infinite : Bool)
  | tooLarge
  deriving DecidableEq

def MessageError.message : MessageError → String
  | .unused => "not all arguments converted during string formatting"
  | .exhausted => "not enough arguments for format string"
  | .noMapping => "format requires a mapping"
  | .missingKey key => Text.quote key
  | .unclosedKey => "incomplete format key"
  | .unfinished => "incomplete format"
  | .unknownConversion letter index =>
    "unsupported format character '" ++
      String.singleton (if 31 ≤ letter.toNat && letter.toNat < 126 then letter else '?') ++
      "' (0x" ++ String.ofList (Nat.toDigits 16 letter.toNat) ++ ") at index " ++ toString index
  | .notANumber letter kind =>
    "%" ++ String.singleton letter ++ " format: a real number is required, not " ++ kind
  | .notAnInteger letter kind =>
    "%" ++ String.singleton letter ++ " format: an integer is required, not " ++ kind
  | .notReal kind => "must be real number, not " ++ kind
  | .notACharacter => "%c requires int or char"
  | .characterRange => "%c arg not in range(0x110000)"
  | .extentNotInteger => "* wants int"
  | .extentRange ofPrecision => (if ofPrecision then "precision" else "width") ++ " too big"
  | .noWholePart infinite =>
    "cannot convert float " ++ (if infinite then "infinity" else "NaN") ++ " to integer"
  | .tooLarge => "int too large to convert to float"

namespace Template

inductive Key
  | absent
  | unclosed
  | name (text : String)

/-- A width or precision; an asterisk takes it from the arguments. -/
inductive Extent
  | unset
  | fixed (n : Nat)
  | argument

/-- A directive as far as the template spells it out; the conversion comes with its index. -/
structure Directive where
  key : Key
  flags : List Char
  width : Extent
  precision : Extent
  conversion : Option (Char × Nat)

inductive Piece
  | verbatim (c : Char)
  | directive (d : Directive)

/-! ## Reading -/

def closeKey? : (depth : Nat) → List Char → Option (List Char × List Char)
  | _, [] => none
  | depth, c :: text =>
    if c == ')' && depth == 0 then some ([], text)
    else
      let depth := if c == '(' then depth + 1 else if c == ')' then depth - 1 else depth
      (closeKey? depth text).map fun (key, rest) => (c :: key, rest)

def readKey : List Char → Key × List Char
  | '(' :: text =>
    match closeKey? 0 text with
    | some (key, rest) => (.name (String.ofList key), rest)
    | none => (.unclosed, [])
  | text => (.absent, text)

def isFlag (c : Char) : Bool := ['-', '+', ' ', '#', '0'].contains c

def readExtent : List Char → Extent × List Char
  | '*' :: text => (.argument, text)
  | text =>
    (if (Decimal.digits text).1.isEmpty then .unset
      else .fixed (Decimal.natOfDigits (Decimal.digits text).1), (Decimal.digits text).2)

/-- A point with nothing after it is a precision of zero. -/
def readPrecision : List Char → Extent × List Char
  | '.' :: text =>
    match readExtent text with
    | (.unset, rest) => (.fixed 0, rest)
    | found => found
  | text => (.unset, text)

def isSizeLetter (c : Char) : Bool := c == 'h' || c == 'l' || c == 'L'

def skipSize : List Char → List Char
  | [] => []
  | c :: text => if isSizeLetter c then text else c :: text

def readDirective (index : Nat) (text : List Char) : Directive × List Char :=
  let (key, afterKey) := readKey text
  let (width, afterWidth) := readExtent (afterKey.dropWhile isFlag)
  let (precision, afterPrecision) := readPrecision afterWidth
  let flags := afterKey.takeWhile isFlag
  match skipSize afterPrecision with
  | [] => (⟨key, flags, width, precision, none⟩, [])
  | c :: rest =>
    (⟨key, flags, width, precision, some (c, index + text.length - rest.length - 1)⟩, rest)

theorem length_closeKey? {depth : Nat} {text key rest : List Char}
    (h : closeKey? depth text = some (key, rest)) : rest.length ≤ text.length := by
  induction text generalizing depth key with
  | nil => simp [closeKey?] at h
  | cons c text ih =>
    unfold closeKey? at h
    split at h
    · cases h
      simp
    · obtain ⟨⟨key', rest'⟩, h', heq⟩ := Option.map_eq_some_iff.mp h
      cases heq
      exact Nat.le_succ_of_le (ih h')

theorem length_readKey (text : List Char) : (readKey text).2.length ≤ text.length := by
  unfold readKey
  split
  · split
    · rename_i h
      exact Nat.le_succ_of_le (length_closeKey? h)
    · simp
  · exact Nat.le_refl _

theorem length_digits (text : List Char) : (Decimal.digits text).2.length ≤ text.length :=
  (List.dropWhile_suffix _).length_le

theorem length_readExtent (text : List Char) : (readExtent text).2.length ≤ text.length := by
  unfold readExtent
  split
  · simp
  · exact length_digits _

theorem length_readPrecision (text : List Char) :
    (readPrecision text).2.length ≤ text.length := by
  unfold readPrecision
  split
  · rename_i text
    have h := length_readExtent text
    split
    · rename_i rest heq
      rw [heq] at h
      exact Nat.le_succ_of_le h
    · exact Nat.le_succ_of_le h
  · exact Nat.le_refl _

theorem length_skipSize (text : List Char) : (skipSize text).length ≤ text.length := by
  unfold skipSize
  split
  · exact Nat.le_refl _
  · split <;> simp

theorem length_readDirective (index : Nat) (text : List Char) :
    (readDirective index text).2.length ≤ text.length := by
  have hkey := length_readKey text
  have hflags := (List.dropWhile_suffix isFlag (l := (readKey text).2)).length_le
  have hwidth := length_readExtent ((readKey text).2.dropWhile isFlag)
  have hprecision := length_readPrecision (readExtent ((readKey text).2.dropWhile isFlag)).2
  have hsize := length_skipSize
    (readPrecision (readExtent ((readKey text).2.dropWhile isFlag)).2).2
  simp only [readDirective]
  split
  · simp
  · rename_i heq
    rw [heq] at hsize
    simp only [List.length_cons] at hsize ⊢
    omega

def pieces (index : Nat) : List Char → List Piece
  | [] => []
  | '%' :: '%' :: text => .verbatim '%' :: pieces (index + 2) text
  | c :: text =>
    if c == '%' then
      .directive (readDirective (index + 1) text).1 ::
        pieces (index + 1 + text.length - (readDirective (index + 1) text).2.length)
          (readDirective (index + 1) text).2
    else .verbatim c :: pieces (index + 1) text
termination_by text => text.length
decreasing_by
  · simp only [List.length_cons]
    omega
  · exact Nat.lt_succ_of_le (length_readDirective (index + 1) text)
  · simp

/-! ## Arguments -/

structure Supply where
  waiting : List Value
  entries : Option (List (Value × Value))

def Supply.ofArguments : Arguments → Supply
  | .positional values => ⟨values, none⟩
  | .named entries => ⟨[.mapping entries], some entries⟩

def Supply.next (s : Supply) : Except MessageError (Value × Supply) :=
  match s.waiting with
  | [] => .error .exhausted
  | v :: waiting => .ok (v, { s with waiting })

/-- A key puts its value in front of the directive, and nothing behind it. -/
def Supply.select (s : Supply) : Key → Except MessageError Supply
  | .absent => .ok s
  | key =>
    match s.entries, key with
    | none, _ => .error .noMapping
    | some entries, .name key =>
      match Value.entry? entries key with
      | some v => .ok { s with waiting := [v] }
      | none => .error (.missingKey key)
    | some _, _ => .error .unclosedKey

def largestWidth : Nat := 0x7fffffffffffffff

def largestPrecision : Nat := 0x7fffffff

def Supply.measure (s : Supply) (ofPrecision : Bool) (e : Extent) :
    Except MessageError (Option Int × Supply) :=
  let limit : Int := if ofPrecision then largestPrecision else largestWidth
  match e with
  | .unset => .ok (none, s)
  | .fixed n => if limit < n then .error (.extentRange ofPrecision) else .ok (some n, s)
  | .argument => do
    match ← s.next with
    | (.int n, s) =>
      if limit < n || n < -limit - 1 then throw (.extentRange ofPrecision)
      return (some n, s)
    | (.bool b, s) => return (some (if b then 1 else 0), s)
    | _ => throw .extentNotInteger

/-! ## Conversions -/

inductive Written
  | text (body : List Char)
  | number (negative : Bool) (mark digits : List Char)

def escapeWide (c : Char) : List Char :=
  let code := c.toNat
  if code < 0x80 then [c]
  else if code < 0x100 then '\\' :: 'x' :: Text.hexDigits 2 code
  else if code < 0x10000 then '\\' :: 'u' :: Text.hexDigits 4 code
  else '\\' :: 'U' :: Text.hexDigits 8 code

def writeText (letter : Char) (v : Value) (precision : Option Nat) : Written :=
  let body := match letter with
    | 's' => v.display.toList
    | 'r' => v.literal.toList
    | _ => v.literal.toList.flatMap escapeWide
  .text (match precision with | some n => body.take n | none => body)

def wholeNumber (letter : Char) : Value → Except MessageError Int
  | .int n => .ok n
  | .bool b => .ok (if b then 1 else 0)
  | .float x =>
    match x.truncate? with
    | some n => .ok n
    | none => .error (.noWholePart (x != .nan))
  | v => .error (.notANumber letter v.kindName)

def exactInteger (letter : Char) : Value → Except MessageError Int
  | .int n => .ok n
  | .bool b => .ok (if b then 1 else 0)
  | v => .error (.notAnInteger letter v.kindName)

def realNumber : Value → Except MessageError Binary64
  | .float x => .ok x
  | .bool b => .ok (Binary64.ofInt (if b then 1 else 0))
  | .int n => if (Binary64.ofInt n).isFinite then .ok (Binary64.ofInt n) else .error .tooLarge
  | v => .error (.notReal v.kindName)

def writeInteger (base : Nat) (mark : List Char) (n : Int) (precision : Option Nat) : Written :=
  let digits := Nat.toDigits base n.natAbs
  .number (n < 0) mark (List.replicate ((precision.getD 0) - digits.length) '0' ++ digits)

def writeReal (letter : Char) (alternate : Bool) (x : Binary64) (precision : Option Nat) :
    Written :=
  let places := precision.getD 6
  let digits := match letter.toLower with
    | 'e' => x.powerOfTen places alternate
    | 'f' => x.fixedPoint places alternate
    | _ => x.compact places alternate
  .number x.isNegative [] (if letter.isUpper then digits.map Char.toUpper else digits)

def writeCharacter : Value → Except MessageError Written
  | .int n =>
    if 0 ≤ n && n < 0x110000 then .ok (.text [Char.ofNat n.toNat]) else .error .characterRange
  | .bool b => .ok (.text [Char.ofNat (if b then 1 else 0)])
  | v =>
    match v.asText?.map String.toList with
    | some [c] => .ok (.text [c])
    | _ => .error .notACharacter

def convert (letter : Char) (index : Nat) (alternate : Bool) (precision : Option Nat)
    (v : Value) : Except MessageError Written :=
  let mark := if alternate then ['0', letter] else []
  match letter with
  | 's' | 'r' | 'a' => .ok (writeText letter v precision)
  | 'd' | 'i' | 'u' => do return writeInteger 10 [] (← wholeNumber letter v) precision
  | 'o' => do return writeInteger 8 mark (← exactInteger letter v) precision
  | 'x' => do return writeInteger 16 mark (← exactInteger letter v) precision
  | 'X' => do
    match writeInteger 16 mark (← exactInteger letter v) precision with
    | .number negative mark digits => return .number negative mark (digits.map Char.toUpper)
    | other => return other
  | 'e' | 'E' | 'f' | 'F' | 'g' | 'G' => do
    return writeReal letter alternate (← realNumber v) precision
  | 'c' => writeCharacter v
  | _ => .error (.unknownConversion letter index)

/-- Sets what was written to a width: to the left on request, with zeros between the sign and
the digits of a number on request, and to the right otherwise. -/
def setWidth (flags : List Char) (width : Nat) (left : Bool) : Written → List Char
  | .text body =>
    let padding := List.replicate (width - body.length) ' '
    if left then body ++ padding else padding ++ body
  | .number negative mark digits =>
    let sign := if negative then ['-'] else if flags.contains '+' then ['+']
      else if flags.contains ' ' then [' '] else []
    let lead := sign ++ mark
    let missing := width - (lead.length + digits.length)
    if left then lead ++ digits ++ List.replicate missing ' '
    else if flags.contains '0' then lead ++ List.replicate missing '0' ++ digits
    else List.replicate missing ' ' ++ lead ++ digits

def Directive.render (d : Directive) (s : Supply) :
    Except MessageError (List Char × Supply) := do
  let s ← s.select d.key
  let (width, s) ← s.measure false d.width
  let (precision, s) ← s.measure true d.precision
  match d.conversion with
  | none => throw .unfinished
  | some (letter, index) =>
    let (v, s) ← s.next
    let written ← convert letter index (d.flags.contains '#') (precision.map Int.toNat) v
    let width := width.getD 0
    return (setWidth d.flags width.natAbs (width < 0 || d.flags.contains '-') written, s)

def renderPieces (s : Supply) : List Piece → Except MessageError (List Char)
  | [] => if s.entries.isNone && !s.waiting.isEmpty then .error .unused else .ok []
  | .verbatim c :: pieces => do return c :: (← renderPieces s pieces)
  | .directive d :: pieces => do
    let (text, s) ← d.render s
    return text ++ (← renderPieces s pieces)

def render (template : String) (arguments : Arguments) : Except MessageError String := do
  if arguments.isEmpty then return template
  return String.ofList
    (← renderPieces (.ofArguments arguments) (pieces 0 template.toList))

end Template

end ObjectCatalog
