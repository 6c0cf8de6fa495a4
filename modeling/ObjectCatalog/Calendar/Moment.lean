/-! # Dates and times of day

A moment is a number of seconds since the beginning of 1970, in universal time. Its date follows
from the number of days by cycles of 400 years, counted from a first of March so that a leap day
ends its year. A moment is written by a pattern, whose letters after percent signs stand for parts
of the date and the time.
-/
namespace ObjectCatalog

structure Moment where
  seconds : Int
  year : Int
  /-- From 1 to 12. -/
  month : Nat
  /-- From 1 to 31. -/
  day : Nat
  hour : Nat
  minute : Nat
  second : Nat
  /-- From 0, a Sunday, to 6. -/
  weekday : Nat
  /-- From 1 to 366. -/
  yearDay : Nat
  deriving DecidableEq, Repr

inductive TimeError
  | clockRange
  | dateRange
  | yearRange
  | nullInPattern
  deriving DecidableEq

def TimeError.message : TimeError → String
  | .clockRange => "timestamp out of range for platform time_t"
  | .dateRange => "[Errno 75] Value too large for defined data type"
  | .yearRange => "signed integer is greater than maximum"
  | .nullInPattern => "embedded null character"

namespace Moment

def isLeap (year : Int) : Bool := year % 4 == 0 && (year % 100 != 0 || year % 400 == 0)

/-- The year that begins in March and the number of days before a day in it, both within a cycle
of 146097 days. -/
def yearOfCycle (day : Nat) : Nat × Nat :=
  let year := (day - day / 1460 + day / 36524 - day / 146096) / 365
  (year, day - (365 * year + year / 4 - year / 100))

/-- The date of a day, counted from the first of January 1970: year, month and day. -/
def dateOfDay (day : Int) : Int × Nat × Nat :=
  let shifted := day + 719468
  let (year, before) := yearOfCycle (shifted % 146097).toNat
  let month := (5 * before + 2) / 153
  let dayOfMonth := before - (153 * month + 2) / 5 + 1
  let january := month ≥ 10
  (shifted / 146097 * 400 + year + (if january then 1 else 0),
    if january then month - 9 else month + 3, dayOfMonth)

def daysBefore (year : Int) (month : Nat) : Nat :=
  [0, 31, 59, 90, 120, 151, 181, 212, 243, 273, 304, 334].getD (month - 1) 0 +
    (if isLeap year && 2 < month then 1 else 0)

def ofSeconds (seconds : Int) : Moment :=
  let days := seconds / 86400
  let time := (seconds % 86400).toNat
  let (year, month, day) := dateOfDay days
  { seconds, year, month, day
    hour := time / 3600, minute := time / 60 % 60, second := time % 60
    weekday := ((days + 4) % 7).toNat
    yearDay := daysBefore year month + day }

def secondsBound : Int := 9223372036854775808

def yearsBound : Int := 2147483648

/-- Clocks count seconds in 64 bits, and dates count their years in 32, first from 1900 on and then,
where they are written, from the beginning. -/
def ofClock (seconds : Int) : Except TimeError Moment :=
  let m := ofSeconds seconds
  if seconds < -secondsBound || secondsBound ≤ seconds then .error .clockRange
  else if m.year - 1900 < -yearsBound || yearsBound ≤ m.year - 1900 then .error .dateRange
  else if yearsBound ≤ m.year then .error .yearRange
  else .ok m

/-! ## Patterns -/

def dayNames : List String :=
  ["Sunday", "Monday", "Tuesday", "Wednesday", "Thursday", "Friday", "Saturday"]

def monthNames : List String :=
  ["January", "February", "March", "April", "May", "June", "July", "August", "September",
    "October", "November", "December"]

def shortName (names : List String) (n : Nat) : List Char := (names.getD n "?").toList.take 3

def padded (fill : Char) (width : Nat) (n : Int) : List Char :=
  let sign := if n < 0 then ['-'] else []
  let digits := (toString n.natAbs).toList
  sign ++ List.replicate (width - (sign.length + digits.length)) fill ++ digits

def twoDigits (n : Int) : List Char := padded '0' 2 n

def hourOfTwelve (m : Moment) : Nat := if m.hour % 12 == 0 then 12 else m.hour % 12

/-- The week of the year, where weeks begin on the given day and the days before the first such
day are in week zero. -/
def weekFrom (first : Nat) (m : Moment) : Nat :=
  (m.yearDay + 6 - (m.weekday + 7 - first) % 7) / 7

/-- The year that a week belongs to and its number, where weeks begin on Monday and belong to the
year that holds their Thursday. -/
def weekOfThursday (m : Moment) : Int × Nat :=
  let fromMonday := (m.weekday + 6) % 7
  let thursday := ofSeconds (m.seconds + (3 - fromMonday) * 86400)
  (thursday.year, (thursday.yearDay - 1) / 7 + 1)

inductive Part
  | number (fill : Char) (width : Nat) (n : Int)
  | text (chars : List Char)

def time (m : Moment) : List Char :=
  twoDigits m.hour ++ ':' :: twoDigits m.minute ++ ':' :: twoDigits m.second

def shortDate (m : Moment) : List Char :=
  twoDigits m.month ++ '/' :: twoDigits m.day ++ '/' :: twoDigits (m.year % 100)

def half (m : Moment) : String := if m.hour < 12 then "AM" else "PM"

def part? (m : Moment) : Char → Option Part
  | 'Y' => some (.number '0' 1 m.year)
  | 'C' => some (.number '0' 1 (m.year / 100))
  | 'y' => some (.number '0' 2 (m.year % 100))
  | 'm' => some (.number '0' 2 m.month)
  | 'd' => some (.number '0' 2 m.day)
  | 'e' => some (.number ' ' 2 m.day)
  | 'H' => some (.number '0' 2 m.hour)
  | 'k' => some (.number ' ' 2 m.hour)
  | 'I' => some (.number '0' 2 m.hourOfTwelve)
  | 'l' => some (.number ' ' 2 m.hourOfTwelve)
  | 'M' => some (.number '0' 2 m.minute)
  | 'S' => some (.number '0' 2 m.second)
  | 'j' => some (.number '0' 3 m.yearDay)
  | 's' => some (.number '0' 1 m.seconds)
  | 'u' => some (.number '0' 1 (if m.weekday == 0 then 7 else m.weekday))
  | 'w' => some (.number '0' 1 m.weekday)
  | 'U' => some (.number '0' 2 (m.weekFrom 0))
  | 'W' => some (.number '0' 2 (m.weekFrom 1))
  | 'V' => some (.number '0' 2 m.weekOfThursday.2)
  | 'G' => some (.number '0' 1 m.weekOfThursday.1)
  | 'g' => some (.number '0' 2 (m.weekOfThursday.1 % 100))
  | 'a' => some (.text (shortName dayNames m.weekday))
  | 'A' => some (.text (dayNames.getD m.weekday "?").toList)
  | 'b' | 'h' => some (.text (shortName monthNames (m.month - 1)))
  | 'B' => some (.text (monthNames.getD (m.month - 1) "?").toList)
  | 'p' => some (.text m.half.toList)
  | 'P' => some (.text m.half.toLower.toList)
  | 'D' | 'x' => some (.text m.shortDate)
  | 'F' => some (.text (padded '0' 1 m.year ++ '-' :: twoDigits m.month ++ '-' :: twoDigits m.day))
  | 'T' | 'X' => some (.text m.time)
  | 'R' => some (.text (twoDigits m.hour ++ ':' :: twoDigits m.minute))
  | 'r' => some (.text (twoDigits m.hourOfTwelve ++ ':' :: twoDigits m.minute ++
      ':' :: twoDigits m.second ++ ' ' :: m.half.toList))
  | 'c' => some (.text (shortName dayNames m.weekday ++ ' ' :: shortName monthNames (m.month - 1) ++
      ' ' :: padded ' ' 2 m.day ++ ' ' :: m.time ++ ' ' :: padded '0' 1 m.year))
  | 'z' => some (.text ['+', '0', '0', '0', '0'])
  | 'Z' => some (.text ['U', 'T', 'C'])
  | 'n' => some (.text ['\n'])
  | 't' => some (.text ['\t'])
  | '%' => some (.text ['%'])
  | _ => none

def isPatternFlag (c : Char) : Bool := ['-', '_', '0', '^', '#'].contains c

/-- Writes a part; the last flag about filling counts, and two flags ask for upper case. -/
def Part.write (flags : List Char) : Part → List Char
  | .number fill width n =>
    match (flags.filter fun c => c == '-' || c == '_' || c == '0').getLast? with
    | some '-' => padded '0' 1 n
    | some '_' => padded ' ' width n
    | some _ => padded '0' width n
    | none => padded fill width n
  | .text chars =>
    if flags.contains '^' || flags.contains '#' then chars.map Char.toUpper else chars

/-- What a pattern writes where `flags` have been read since a percent sign, if one is open. -/
def writeFrom (m : Moment) : (opened : Option (List Char)) → List Char → List Char
  | none, [] => []
  | some flags, [] => '%' :: flags
  | none, c :: pattern =>
    if c == '%' then writeFrom m (some []) pattern else c :: writeFrom m none pattern
  | some flags, c :: pattern =>
    if isPatternFlag c then writeFrom m (some (flags ++ [c])) pattern
    else
      (match m.part? c with
        | some part => part.write flags
        | none => '%' :: flags ++ [c]) ++ writeFrom m none pattern

def write (m : Moment) (pattern : String) : String :=
  String.ofList (m.writeFrom none pattern.toList)

def stamp (m : Moment) (milliseconds : Int) : String :=
  m.write "%Y-%m-%d %H:%M:%S" ++ String.ofList (',' :: padded '0' 3 milliseconds)

end Moment

end ObjectCatalog
