/-!
# Dates and times in text

A string counts as temporal by its form alone: a stem `yyyy-mm-ddThh:mm:ss`, perhaps with a fraction,
followed by an offset `+hh:mm`, by the letter of UTC, or by nothing. Under the strict policy the
fields must also name a real instant of the proleptic Gregorian calendar.

* `Temporal` : the four verdicts;
* `Stamp` : the fields of a text of temporal form, read by `readStamp?`;
* `Stamp.IsReal` : the fields name a real instant;
* `classify`, `classifyUnder` : the verdict on a text, by form and under a policy.
-/

namespace TypeSketch

/-- What a text says about time: an instant with an offset, an instant in UTC, a time without a
zone, or nothing. -/
inductive Temporal where
  | offset | utc | zoneless | plain
deriving DecidableEq, Repr

/-- How texts are promoted to temporal types: by their form, or only if they name real instants. -/
inductive TemporalPolicy where
  | pattern | strict
deriving DecidableEq, Repr

namespace Temporal

/-- Whether the verdict is a temporal one. -/
def isTemporal (t : Temporal) : Bool := t != .plain

/-- Whether the text carries its own offset. -/
def isOffsetAware (t : Temporal) : Bool := t == .offset || t == .utc

/-! ## Form -/

/-- What follows the stem. -/
inductive Zone where
  | offset (hours minutes : Nat)
  | utc
  | none
deriving DecidableEq, Repr

/-- The fields of a text of temporal form. -/
structure Stamp where
  year : Nat
  month : Nat
  day : Nat
  hour : Nat
  minute : Nat
  second : Nat
  zone : Zone
deriving DecidableEq, Repr

/-- The value of an ASCII digit. -/
def digit? (c : Char) : Option Nat := if c.isDigit then some (c.toNat - '0'.toNat) else none

/-- Reads a number of exactly `count` digits, `high` being the value of the digits before them. -/
def readDigits? (count : Nat) (s : List Char) (high : Nat) : Option (Nat × List Char) :=
  match count, s with
  | 0, s => some (high, s)
  | _ + 1, [] => none
  | count + 1, c :: rest => do readDigits? count rest (high * 10 + (← digit? c))

/-- Takes one given character. -/
def readMark? (mark : Char) : List Char → Option (List Char)
  | [] => none
  | c :: rest => if c = mark then some rest else none

/-- Takes a fraction if the text starts with one. -/
def skipFraction : List Char → List Char
  | '.' :: c :: rest => if c.isDigit then rest.dropWhile Char.isDigit else '.' :: c :: rest
  | s => s

/-- Reads what follows the stem, up to the end of the text. -/
def readZone? : List Char → Option Zone
  | [] => some .none
  | [c] => if c = 'Z' ∨ c = 'z' then some .utc else none
  | c :: rest => do
    if c = '+' ∨ c = '-' then
      let (hours, rest) ← readDigits? 2 rest 0
      let rest ← readMark? ':' rest
      let (minutes, rest) ← readDigits? 2 rest 0
      if rest.isEmpty then some (.offset hours minutes) else none
    else none

/-- The fields of a text of temporal form. -/
def readStamp? (s : List Char) : Option Stamp := do
  let (year, s) ← readDigits? 4 s 0
  let s ← readMark? '-' s
  let (month, s) ← readDigits? 2 s 0
  let s ← readMark? '-' s
  let (day, s) ← readDigits? 2 s 0
  let s ← readMark? 'T' s
  let (hour, s) ← readDigits? 2 s 0
  let s ← readMark? ':' s
  let (minute, s) ← readDigits? 2 s 0
  let s ← readMark? ':' s
  let (second, s) ← readDigits? 2 s 0
  let zone ← readZone? (skipFraction s)
  return { year, month, day, hour, minute, second, zone }

/-- The verdict on the form of a text. -/
def ofZone : Zone → Temporal
  | .offset _ _ => .offset
  | .utc => .utc
  | .none => .zoneless

/-- The verdict on a text by its form. -/
def classifyChars (s : List Char) : Temporal :=
  match readStamp? s with
  | some stamp => ofZone stamp.zone
  | none => .plain

/-! ## Calendar -/

/-- The leap years of the proleptic Gregorian calendar. -/
def isLeapYear (year : Nat) : Bool := year % 4 = 0 && (year % 100 ≠ 0 || year % 400 = 0)

/-- The number of days of a month. -/
def daysInMonth (year month : Nat) : Nat :=
  if month = 2 then if isLeapYear year then 29 else 28
  else if month = 4 ∨ month = 6 ∨ month = 9 ∨ month = 11 then 30 else 31

/-- The offsets of less than a day. -/
def Zone.IsReal : Zone → Prop
  | .offset hours minutes => hours ≤ 23 ∧ minutes ≤ 59
  | .utc => True
  | .none => True

instance (zone : Zone) : Decidable zone.IsReal := by
  cases zone <;> unfold Zone.IsReal <;> infer_instance

/-- The fields name a real instant. A minute may have a leap second. -/
def Stamp.IsReal (t : Stamp) : Prop :=
  (1 ≤ t.month ∧ t.month ≤ 12) ∧ (1 ≤ t.day ∧ t.day ≤ daysInMonth t.year t.month) ∧
    t.hour ≤ 23 ∧ t.minute ≤ 59 ∧ t.second ≤ 60 ∧ t.zone.IsReal

instance (t : Stamp) : Decidable t.IsReal := by unfold Stamp.IsReal; infer_instance

/-- The verdict on a text under a policy. -/
def classifyCharsUnder (policy : TemporalPolicy) (s : List Char) : Temporal :=
  match policy with
  | .pattern => classifyChars s
  | .strict =>
    match readStamp? s with
    | some stamp => if stamp.IsReal then ofZone stamp.zone else .plain
    | none => .plain

/-- The verdict on a text by its form. -/
def classify (text : String) : Temporal := classifyChars text.toList

/-- The verdict on a text under a policy. -/
def classifyUnder (policy : TemporalPolicy) (text : String) : Temporal :=
  classifyCharsUnder policy text.toList

end Temporal

end TypeSketch
