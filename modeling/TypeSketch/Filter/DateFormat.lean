import TypeSketch.Filter.Date
import TypeSketch.Text.White

/-!
# Dates by a format

A format is a text in which a percent sign and a letter stand for a part of a time. All times are in
UTC.

* `DateItem`, `DateItem.ofFormat` : the parts of a format;
* `DateItem.write` : what a part shows of a time;
* `DateFields`, `DateTime.readBy` : what parts give of a time, and the time of a text in a format.
-/

namespace TypeSketch.Filter

/-- A number in a time. -/
inductive DateField where
  | year | century | yearOfCentury | month | day | hour | hourOfHalf | minute | second | nanos
  | dayOfYear | weekdayFromSunday | weekdayFromMonday | weekFromSunday | weekFromMonday
  | isoYear | isoYearOfCentury | isoWeek | timestamp
deriving DecidableEq, Repr

/-- What fills a number up to its width. -/
inductive DatePad where
  | none | zero | space
deriving DecidableEq, Repr

/-- A part of a format. -/
inductive DateItem where
  | literal (text : List Char)
  | space (c : Char)
  | field (field : DateField) (pad : DatePad)
  | monthName (long : Bool)
  | weekdayName (long : Bool)
  /-- The half of the day, in capital letters or not. -/
  | half (capital : Bool)
  /-- The fraction of the second: all of it, or so many digits of it. -/
  | fraction (digits : Option Nat) (dot : Bool)
  | offset (separator : String) (seconds : Bool)
  | zone
  /-- A letter that stands for nothing. -/
  | unknown
deriving DecidableEq, Repr

/-! ## Formats -/

namespace DateField

/-- The number of digits that a number is filled up to. -/
def width : DateField → Nat
  | .year | .isoYear => 4
  | .nanos => 9
  | .dayOfYear => 3
  | .weekdayFromSunday | .weekdayFromMonday | .timestamp => 1
  | _ => 2

/-- The number that a letter stands for, and what fills it up. -/
def ofLetter? : Char → Option (DateField × DatePad)
  | 'Y' => some (.year, .zero)
  | 'C' => some (.century, .zero)
  | 'y' => some (.yearOfCentury, .zero)
  | 'm' => some (.month, .zero)
  | 'd' => some (.day, .zero)
  | 'e' => some (.day, .space)
  | 'H' => some (.hour, .zero)
  | 'k' => some (.hour, .space)
  | 'I' => some (.hourOfHalf, .zero)
  | 'l' => some (.hourOfHalf, .space)
  | 'M' => some (.minute, .zero)
  | 'S' => some (.second, .zero)
  | 'f' => some (.nanos, .zero)
  | 'j' => some (.dayOfYear, .zero)
  | 'w' => some (.weekdayFromSunday, .zero)
  | 'u' => some (.weekdayFromMonday, .zero)
  | 'U' => some (.weekFromSunday, .zero)
  | 'W' => some (.weekFromMonday, .zero)
  | 'G' => some (.isoYear, .zero)
  | 'g' => some (.isoYearOfCentury, .zero)
  | 'V' => some (.isoWeek, .zero)
  | 's' => some (.timestamp, .zero)
  | _ => none

end DateField

namespace DateItem

/-- The format that a letter is short for. -/
def expansion? : Char → Option String
  | 'D' | 'x' => some "%m/%d/%y"
  | 'F' => some "%Y-%m-%d"
  | 'v' => some "%e-%b-%Y"
  | 'R' => some "%H:%M"
  | 'T' | 'X' => some "%H:%M:%S"
  | 'r' => some "%I:%M:%S %p"
  | 'c' => some "%a %b %e %H:%M:%S %Y"
  | '+' => some "%Y-%m-%dT%H:%M:%S%.f%:z"
  | _ => none

/-- The part that a letter stands for, apart from numbers. -/
def ofLetter? : Char → Option DateItem
  | 'A' => some (.weekdayName true)
  | 'a' => some (.weekdayName false)
  | 'B' => some (.monthName true)
  | 'b' | 'h' => some (.monthName false)
  | 'P' => some (.half false)
  | 'p' => some (.half true)
  | 'z' => some (.offset "" false)
  | 'Z' => some .zone
  | 't' => some (.space '\t')
  | 'n' => some (.space '\n')
  | '%' => some (.literal ['%'])
  | _ => none

/-- The parts that are longer than a letter, with what they stand for. -/
def marked : List (String × DateItem) :=
  [(".3f", .fraction (some 3) true), (".6f", .fraction (some 6) true), (".9f", .fraction (some 9) true),
    (".f", .fraction none true), ("3f", .fraction (some 3) false), ("6f", .fraction (some 6) false),
    ("9f", .fraction (some 9) false), ("::z", .offset ":" true), (":z", .offset ":" false)]

/-- The parts of a format. -/
def ofChars (fuel : Nat) (format : List Char) : List DateItem :=
  match fuel, format with
  | 0, _ => []
  | _, [] => []
  | fuel + 1, '%' :: rest =>
    match marked.find? fun entry => entry.1.toList.isPrefixOf rest with
    | some (text, item) => item :: ofChars fuel (rest.drop text.length)
    | none =>
      let pad? : Option DatePad := match rest with
        | '-' :: _ => some .none
        | '0' :: _ => some .zero
        | '_' :: _ => some .space
        | _ => none
      match if pad?.isSome then rest.tail else rest with
      | [] => [.unknown]
      | c :: rest =>
        let items := match DateField.ofLetter? c, ofLetter? c, expansion? c with
          | some (f, pad), _, _ => [.field f (pad?.getD pad)]
          | none, some item, _ => [if pad?.isSome then .unknown else item]
          | none, none, some format => if pad?.isSome then [.unknown] else ofChars fuel format.toList
          | none, none, none => [.unknown]
        items ++ ofChars fuel rest
  | fuel + 1, c :: rest =>
    if Text.isWhite c then .space c :: ofChars fuel rest
    else
      let isPlain (c : Char) : Bool := !Text.isWhite c && c != '%'
      .literal (c :: rest.takeWhile isPlain) :: ofChars fuel (rest.dropWhile isPlain)

/-- The parts of a format. -/
def ofFormat (format : String) : List DateItem := ofChars (format.length + 20) format.toList

end DateItem

/-! ## Writing -/

namespace DateTime

/-- The day of the week, from Sunday as 0. -/
def weekday (t : DateTime) : Nat := ((dayNumber t.year t.month t.day + 4) % 7).toNat

/-- The day of the year, from 0. -/
def dayOfYear (t : DateTime) : Nat := (dayNumber t.year t.month t.day - dayNumber t.year 1 1).toNat

/-- The year and the week that a day belongs to if weeks start on Mondays and belong to the year that
has most of their days. -/
def isoWeek (t : DateTime) : Int × Nat :=
  let day := dayNumber t.year t.month t.day
  let thursday := day - ((t.weekday + 6) % 7 : Nat) + 3
  let (year, _, _) := dateOfDay thursday
  (year, ((thursday - dayNumber year 1 1) / 7).toNat + 1)

/-- A number in a time. -/
def field (t : DateTime) : DateField → Int
  | .year => t.year
  | .century => t.year.fdiv 100
  | .yearOfCentury => t.year % 100
  | .month => t.month
  | .day => t.day
  | .hour => t.hour
  | .hourOfHalf => if t.hour % 12 = 0 then 12 else (t.hour % 12 : Nat)
  | .minute => t.minute
  | .second => (t.second + t.nanos / 1000000000 : Nat)
  | .nanos => (t.nanos % 1000000000 : Nat)
  | .dayOfYear => (t.dayOfYear + 1 : Nat)
  | .weekdayFromSunday => t.weekday
  | .weekdayFromMonday => if t.weekday = 0 then 7 else t.weekday
  | .weekFromSunday => ((t.dayOfYear + 7 - t.weekday) / 7 : Nat)
  | .weekFromMonday => ((t.dayOfYear + 7 - (t.weekday + 6) % 7) / 7 : Nat)
  | .isoYear => t.isoWeek.1
  | .isoYearOfCentury => t.isoWeek.1 % 100
  | .isoWeek => t.isoWeek.2
  | .timestamp => t.seconds

end DateTime

/-- The names of the months. -/
def monthNames : List String :=
  ["January", "February", "March", "April", "May", "June", "July", "August", "September", "October", "November",
    "December"]

/-- The names of the days of the week. -/
def weekdayNames : List String :=
  ["Sunday", "Monday", "Tuesday", "Wednesday", "Thursday", "Friday", "Saturday"]

/-- A name, or its first three letters. -/
def nameOf (names : List String) (place : Nat) (long : Bool) : String :=
  let name := names.getD place ""
  if long then name else String.ofList (name.toList.take 3)

/-- A number filled up to a width. The sign is shown if the number is negative or `signed`. -/
def filled (width : Nat) (pad : DatePad) (signed : Bool) (n : Int) : String :=
  let sign := if n < 0 then ["-"] else if signed then ["+"] else []
  let digits := toString n.natAbs
  let missing := width - digits.length
  match pad with
  | .none => String.join sign ++ digits
  | .zero => String.join sign ++ String.ofList (List.replicate missing '0') ++ digits
  | .space => String.ofList (List.replicate missing ' ') ++ String.join sign ++ digits

/-- The fraction of a second: so many digits, or as few groups of three as show all of it. -/
def fractionText (nanos : Nat) : Option Nat → String
  | some digits => DateTime.padded digits (nanos / Nat.pow 10 (9 - digits))
  | none =>
    if nanos = 0 then ""
    else if nanos % 1000000 = 0 then DateTime.padded 3 (nanos / 1000000)
    else if nanos % 1000 = 0 then DateTime.padded 6 (nanos / 1000)
    else DateTime.padded 9 nanos

/-- What a part of a format shows of a time. -/
def DateItem.write (t : DateTime) : DateItem → String
  | .literal text => String.ofList text
  | .space c => String.singleton c
  | .field f pad =>
    let n := t.field f
    filled f.width pad ((f = .year || f = .isoYear) && 9999 < n) n
  | .monthName long => nameOf monthNames (t.month - 1) long
  | .weekdayName long => nameOf weekdayNames t.weekday long
  | .half capital => if t.hour < 12 then if capital then "AM" else "am" else if capital then "PM" else "pm"
  | .fraction digits dot =>
    let text := fractionText (t.nanos % 1000000000) digits
    if dot ∧ ¬text.isEmpty then "." ++ text else text
  | .offset separator seconds => "+00" ++ separator ++ "00" ++ (if seconds then separator ++ "00" else "")
  | .zone => "+00:00"
  | .unknown => ""

/-- The text of a time in a format. -/
def DateTime.writeBy (format : String) (t : DateTime) : String :=
  String.join ((DateItem.ofFormat format).map (DateItem.write t))

/-! ## Reading -/

/-- What the parts of a format give of a time: numbers, and whether it is past noon. -/
structure DateFields where
  numbers : List (DateField × Int) := []
  afternoon : Option Bool := none

namespace DateFields

/-- A number that was given. -/
def get? (fields : DateFields) (f : DateField) : Option Int := fields.numbers.lookup f

/-- Keeps a number, which may not contradict one that was given before. -/
def keep (fields : DateFields) (f : DateField) (n : Int) : Except DateFault DateFields :=
  match fields.get? f with
  | some m => if m = n then .ok fields else .error .impossible
  | none => .ok { fields with numbers := (f, n) :: fields.numbers }

/-- The year, which lies between 1970 and 2069 if only its last two digits are given. -/
def year? (fields : DateFields) : Option Int :=
  (fields.get? .year).orElse fun _ =>
    (fields.get? .yearOfCentury).map fun n => if n < 70 then 2000 + n else 1900 + n

/-- The date of some fields: year, month and day, or the day of a year. -/
def date (fields : DateFields) : Except DateFault (Int × Nat × Nat) :=
  match fields.year?, fields.get? .month, fields.get? .day, fields.get? .dayOfYear with
  | some year, some month, some day, _ =>
    if DateTime.years.1 ≤ year ∧ year ≤ DateTime.years.2 ∧ isDate year month.toNat day.toNat then
      .ok (year, month.toNat, day.toNat)
    else .error .outOfRange
  | some year, _, _, some days =>
    let date := dateOfDay (dayNumber year 1 1 + days - 1)
    if date.1 = year then .ok date else .error .outOfRange
  | _, _, _, _ => .error .notEnough

/-- The hour of some fields. -/
def hour? (fields : DateFields) : Option Nat :=
  match fields.get? .hour with
  | some hour => some hour.toNat
  | none => do
    let hour ← fields.get? .hourOfHalf
    return hour.toNat % 12 + (if ← fields.afternoon then 12 else 0)

/-- The time of some fields. -/
def dateTime (fields : DateFields) : Except DateFault DateTime := do
  match fields.get? .timestamp with
  | some n =>
    match DateTime.ofSeconds? n 0 with
    | some t => return t
    | none => throw .outOfRange
  | none =>
    let (year, month, day) ← fields.date
    match fields.hour?, fields.get? .minute with
    | some hour, some minute =>
      if (fields.get? .second).isNone ∧ (fields.get? .nanos).isSome then throw .notEnough
      let second := ((fields.get? .second).getD 0).toNat
      let nanos := ((fields.get? .nanos).getD 0).toNat
      let (second, nanos) := if second = 60 then (59, nanos + 1000000000) else (second, nanos)
      let t : DateTime := ⟨year, month, day, hour, minute.toNat, second, nanos⟩
      let weekday := (fields.get? .weekdayFromSunday).orElse fun _ =>
        (fields.get? .weekdayFromMonday).map (· % 7)
      if weekday.any (· ≠ (t.weekday : Int)) then throw .impossible
      return t
    | _, _ => throw .notEnough

end DateFields

namespace DateTime

/-- The least and the greatest value of a number that is read. -/
def bounds : DateField → Int × Int
  | .month => (1, 12)
  | .day => (1, 31)
  | .hour => (0, 23)
  | .hourOfHalf => (1, 12)
  | .minute => (0, 59)
  | .second => (0, 60)
  | .dayOfYear => (1, 366)
  | .weekdayFromSunday => (0, 6)
  | .weekdayFromMonday => (1, 7)
  | .weekFromSunday | .weekFromMonday => (0, 53)
  | .isoWeek => (1, 53)
  | .yearOfCentury | .isoYearOfCentury => (0, 99)
  | _ => (-9223372036854775808, 9223372036854775807)

/-- Takes between one and so many digits. -/
def someDigits (most : Nat) : Read Int := do
  let s ← get
  let digits := (s.take most).takeWhile Char.isDigit
  if s.isEmpty then throw .tooShort
  if digits.isEmpty then throw .invalid
  set (s.drop digits.length)
  return (digits.foldl (fun n c => n * 10 + (c.toNat - 48)) 0 : Nat)

/-- Takes a number. Years may have a sign, and any number of digits after it. -/
def readField (f : DateField) : Read Int := do
  modify (·.dropWhile Text.isWhite)
  let mayBeSigned := f = .year ∨ f = .isoYear
  let s ← get
  if mayBeSigned ∧ s.head? = some '-' then
    set s.tail
    return -(← someDigits 30)
  else if mayBeSigned ∧ s.head? = some '+' then
    set s.tail
    someDigits 30
  else someDigits (if f = .timestamp then 30 else f.width)

/-- Takes a name, in letters of either case; its place. The rest of a long name is taken if it is
there. -/
def readName (names : List String) (long : Bool) : Read Nat := do
  let s ← get
  let lower (cs : List Char) : List Char := cs.map Char.toLower
  if s.length < 3 then throw .tooShort
  match names.findIdx? fun name => lower (name.toList.take 3) = lower (s.take 3) with
  | none => throw .invalid
  | some place =>
    let rest := lower ((names.getD place "").toList.drop 3)
    set (if long ∧ lower ((s.drop 3).take rest.length) = rest then s.drop (3 + rest.length) else s.drop 3)
    return place

/-- Takes what a part of a format stands for. -/
def readItem (fields : DateFields) (item : DateItem) : Read DateFields := do
  match item with
  | .literal text =>
    let s ← get
    if Text.byteCount s < Text.byteCount text then throw .tooShort
    if !text.isPrefixOf s then throw .invalid
    set (s.drop text.length)
    return fields
  | .space _ =>
    modify (·.dropWhile Text.isWhite)
    return fields
  | .field f _ =>
    let n ← readField f
    if n < (bounds f).1 ∨ (bounds f).2 < n then throw .outOfRange
    fields.keep f n
  | .monthName long => do fields.keep .month ((← readName monthNames long) + 1 : Nat)
  | .weekdayName long => do fields.keep .weekdayFromSunday (← readName weekdayNames long : Nat)
  | .half _ =>
    let s ← get
    if s.length < 2 then throw .tooShort
    match (s.take 2).map Char.toLower with
    | ['a', 'm'] => set (s.drop 2); return { fields with afternoon := some false }
    | ['p', 'm'] => set (s.drop 2); return { fields with afternoon := some true }
    | _ => throw .invalid
  | .fraction digits dot =>
    if dot then
      if (← get).head? = some '.' then fields.keep .nanos (← fraction : Nat) else return fields
    else
      let count := digits.getD 9
      let n ← number count 0 (Nat.pow 10 count - 1)
      fields.keep .nanos (n * Nat.pow 10 (9 - count) : Nat)
  | .offset _ _ =>
    modify (·.dropWhile Text.isWhite)
    discard offset
    return fields
  | .zone =>
    modify (·.dropWhile fun c => !Text.isWhite c)
    return fields
  | .unknown => throw .badFormat

/-- The time that a text gives in a format. -/
def readBy (format s : String) : Except DateFault DateTime := do
  let (fields, rest) ← ((DateItem.ofFormat format).foldlM readItem {}).run s.toList
  if !rest.isEmpty then throw .tooLong
  fields.dateTime

end DateTime

end TypeSketch.Filter
