import TypeSketch.Temporal
import TypeSketch.Text.Position

/-!
# Dates of filters

Times are numbers of seconds from the start of 1970 in UTC. A leap second is the second before it with
a fraction of a second or more.

* `DateTime` : a date and a time of day, with `DateTime.ofSeconds?` and `DateTime.seconds`;
* `DateFault`, `DateTime.read` : the time of a text, or why it has none;
* `DateTime.write` : the text of a time.
-/

namespace TypeSketch.Filter

/-! ## Days -/

/-- The number of days from the first day of 1970 to a date. -/
def dayNumber (year : Int) (month day : Nat) : Int :=
  let y := if month ≤ 2 then year - 1 else year
  let era := y.fdiv 400
  let yearOfEra := y - era * 400
  let dayOfYear := (153 * (if 2 < month then month - 3 else month + 9) + 2) / 5 + day - 1
  era * 146097 + (yearOfEra * 365 + yearOfEra / 4 - yearOfEra / 100 + dayOfYear) - 719468

/-- The date so many days after the first day of 1970. -/
def dateOfDay (days : Int) : Int × Nat × Nat :=
  let shifted := days + 719468
  let era := shifted.fdiv 146097
  let dayOfEra := (shifted - era * 146097).toNat
  let yearOfEra := (dayOfEra - dayOfEra / 1460 + dayOfEra / 36524 - dayOfEra / 146096) / 365
  let dayOfYear := dayOfEra - (365 * yearOfEra + yearOfEra / 4 - yearOfEra / 100)
  let slot := (5 * dayOfYear + 2) / 153
  let month := if slot < 10 then slot + 3 else slot - 9
  (yearOfEra + era * 400 + (if month ≤ 2 then 1 else 0), month, dayOfYear - (153 * slot + 2) / 5 + 1)

/-- Whether a year is a leap year. -/
def isLeap (year : Int) : Bool := year % 4 = 0 && (year % 100 ≠ 0 || year % 400 = 0)

/-- Whether there is a date with these numbers. -/
def isDate (year : Int) (month day : Nat) : Bool :=
  1 ≤ month && month ≤ 12 && 1 ≤ day && day ≤ (if month = 2 then if isLeap year then 29 else 28
    else if month = 4 ∨ month = 6 ∨ month = 9 ∨ month = 11 then 30 else 31)

/-! ## Times -/

/-- A date and a time of day. A leap second has a fraction of a second or more. -/
structure DateTime where
  year : Int
  month : Nat
  day : Nat
  hour : Nat
  minute : Nat
  second : Nat
  nanos : Nat
deriving DecidableEq, Repr

namespace DateTime

/-- The first and the last year of dates. -/
def years : Int × Int := (-262143, 262142)

/-- The time so many seconds and nanoseconds after the start of 1970. -/
def ofSeconds? (seconds : Int) (nanos : Nat) : Option DateTime :=
  let days := seconds.fdiv 86400
  let time := (seconds - days * 86400).toNat
  let (year, month, day) := dateOfDay days
  if years.1 ≤ year ∧ year ≤ years.2 then
    some ⟨year, month, day, time / 3600, time / 60 % 60, time % 60, nanos⟩
  else none

/-- The time so many microseconds after the start of 1970. -/
def ofMicros? (micros : Int) : Option DateTime :=
  let seconds := micros.fdiv 1000000
  ofSeconds? seconds ((micros - seconds * 1000000).toNat * 1000)

/-- The seconds from the start of 1970 to a time. -/
def seconds (t : DateTime) : Int :=
  dayNumber t.year t.month t.day * 86400 + (t.hour * 3600 + t.minute * 60 + t.second : Nat)

/-- The microseconds from the start of 1970 to a time. -/
def micros (t : DateTime) : Int := t.seconds * 1000000 + (t.nanos / 1000 : Nat)

/-! ## Writing -/

/-- A number with zeros before it. -/
def padded (width n : Nat) : String :=
  let digits := Nat.toDigits 10 n
  String.ofList (List.replicate (width - digits.length) '0' ++ digits)

/-- A year with four digits, and with its sign if it has more or is negative. -/
def writeYear (year : Int) : String :=
  if 0 ≤ year ∧ year ≤ 9999 then padded 4 year.toNat
  else (if year < 0 then "-" else "+") ++ padded 4 year.natAbs

/-- The text of a time, with or without its microseconds. -/
def write (t : DateTime) (fraction : Bool) : String :=
  writeYear t.year ++ "-" ++ padded 2 t.month ++ "-" ++ padded 2 t.day ++ "T" ++ padded 2 t.hour ++ ":" ++
    padded 2 t.minute ++ ":" ++ padded 2 t.second ++
    (if fraction then "." ++ padded 6 (t.nanos / 1000) else "") ++ "Z"

end DateTime

/-! ## Reading -/

/-- Why a text is no time. -/
inductive DateFault where
  | outOfRange
  | invalid
  | tooShort
  | tooLong
  | impossible
  | notEnough
  | badFormat
deriving DecidableEq, Repr

/-- The wording of a fault. -/
def DateFault.message : DateFault → String
  | .outOfRange => "input is out of range"
  | .invalid => "input contains invalid characters"
  | .tooShort => "premature end of input"
  | .tooLong => "trailing input"
  | .impossible => "no possible date and time matching input"
  | .notEnough => "input is not enough for unique date and time"
  | .badFormat => "bad or unsupported format string"

namespace DateTime

/-- A reader of dates. -/
abbrev Read := StateT (List Char) (Except DateFault)

/-- Takes one of some characters. -/
def mark (isMark : Char → Bool) : Read Char := do
  match ← get with
  | c :: rest => if isMark c then set rest; return c else throw .invalid
  | [] => throw .tooShort

/-- Takes a number of so many digits that lies within bounds. -/
def number (count low high : Nat) : Read Nat := do
  let s ← get
  if Text.byteCount s < count then throw .tooShort
  if !(s.take count).all Char.isDigit ∨ s.length < count then throw .invalid
  let n := (s.take count).foldl (fun n c => n * 10 + (c.toNat - 48)) 0
  set (s.drop count)
  if n < low ∨ high < n then throw .outOfRange
  return n

/-- Takes a fraction of a second, in nanoseconds, if there is one. -/
def fraction : Read Nat := do
  match ← get with
  | '.' :: rest =>
    let digits := rest.takeWhile Char.isDigit
    if rest.isEmpty then throw .tooShort
    if digits.isEmpty then throw .invalid
    set (rest.drop digits.length)
    return ((digits ++ List.replicate 9 '0').take 9).foldl (fun n c => n * 10 + (c.toNat - 48)) 0
  | _ => return 0

/-- The signs of offsets to the west. -/
def isMinus (c : Char) : Bool := c = '-' || c.toNat = 0x2212

/-- Takes an offset in seconds. -/
def offset : Read Int := do
  let sign ← mark fun c => c = 'Z' || c = 'z' || c = '+' || isMinus c
  if sign = 'Z' ∨ sign = 'z' then return 0
  let hours ← number 2 0 99
  discard (mark (· = ':'))
  let minutes ← number 2 0 59
  let size := (hours * 60 + minutes) * 60
  if 86400 ≤ size then throw .outOfRange
  return if isMinus sign then -(size : Int) else size

/-- Takes a date, a time and an offset; the time without its offset, and the offset. -/
def stamp : Read (DateTime × Int) := do
  let year ← number 4 0 9999
  discard (mark (· = '-'))
  let month ← number 2 1 12
  discard (mark (· = '-'))
  let day ← number 2 1 31
  discard (mark fun c => c = 'T' || c = 't' || c = ' ')
  let hour ← number 2 0 23
  discard (mark (· = ':'))
  let minute ← number 2 0 59
  discard (mark (· = ':'))
  let second ← number 2 0 60
  let nanos ← fraction
  let shift ← offset
  if !(← get).isEmpty then throw .tooLong
  if !isDate year month day then throw .outOfRange
  let (second, nanos) := if second = 60 then (59, nanos + 1000000000) else (second, nanos)
  return (⟨year, month, day, hour, minute, second, nanos⟩, shift)

/-- The time that a text gives with an offset: the time there, and the offset in seconds. -/
def read (s : String) : Except DateFault (DateTime × Int) := do return (← stamp.run s.toList).1

end DateTime

end TypeSketch.Filter
