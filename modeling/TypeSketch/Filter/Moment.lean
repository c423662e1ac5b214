import TypeSketch.Filter.DateFormat
import TypeSketch.Filter.FloatMath

/-!
# Times as values

A time is a number of seconds from the start of 1970, or an array of the year, the month and the day,
the hour, the minute and the second, the day of the week and the day of the year, of which the month
and the last two count from zero.

* `Val.toStamp`, `Val.ofStamp` : a time to a text with its offset, and back;
* `Val.toParts`, `Val.ofParts` : a number to an array, and back;
* `Val.writeTime`, `Val.readTime` : a time to a text by a format, and back to an array.
-/

namespace TypeSketch.Filter

namespace DateTime

/-- A number of microseconds as a double of seconds. -/
def secondsOfMicros (micros : Int) : Float := floatOfInt micros / 1000000.0

/-- The array of the parts of a time. A second with a fraction is a double. -/
def parts (t : DateTime) : Val :=
  let second : Val :=
    if t.nanos = 0 then .int t.second
    else .float (floatOfInt t.second + secondsOfMicros (t.nanos / 1000 : Nat))
  .arr [.int t.year, .int (t.month - 1 : Nat), .int t.day, .int t.hour, .int t.minute, second, .int t.weekday,
    .int t.dayOfYear]

/-- The time whose parts are in an array, of which those after the second do not count. -/
def ofParts? : List Val → Option DateTime
  | .int year :: .int month :: .int day :: .int hour :: .int minute :: second :: _ => do
    let x ← second.float?
    let whole := wholePart x.floor
    let nanos := wholePart ((x - truncate x) * 1000000000.0)
    if years.1 ≤ year ∧ year ≤ years.2 ∧ 0 ≤ month ∧ 0 ≤ day ∧ isDate year (month.toNat + 1) day.toNat ∧
        0 ≤ hour ∧ hour < 24 ∧ 0 ≤ minute ∧ minute < 60 ∧ 0 ≤ whole ∧ whole < 60 then
      some ⟨year, month.toNat + 1, day.toNat, hour.toNat, minute.toNat, whole.toNat, nanos.toNat⟩
    else none
  | _ => none

end DateTime

namespace Val

/-- The text of a number of seconds. A number that is no integer is written with microseconds. -/
def toStamp (v : Val) : Except Problem Val := do
  let text? ← match v with
    | .int n => pure ((DateTime.ofSeconds? n 0).map fun t => t.write false)
    | v => do
      let x ← v.asFloat
      pure ((DateTime.ofMicros? (wholePart (x * 1000000.0))).map fun t => t.write true)
  match text? with
  | some text => return .str text
  | none => throw (.message ("cannot format " ++ v.text ++ " as ISO-8601 timestamp"))

/-- The number of seconds of a text, a double if the text has a point. -/
def ofStamp (v : Val) : Except Problem Val := do
  let s ← v.asStr
  match DateTime.read s with
  | .ok (t, offset) =>
    if s.contains '.' then return .float (DateTime.secondsOfMicros (t.micros - offset * 1000000))
    else return .int (t.seconds - offset)
  | .error fault => throw (.message ("cannot parse " ++ s ++ " as ISO-8601 timestamp: " ++ fault.message))

/-- The time of a number of seconds. -/
def asMoment (v : Val) : Except Problem DateTime := do
  let micros ← match v with
    | .int n => pure (n * 1000000)
    | v => do pure (wholePart ((← v.asFloat) * 1000000.0))
  match if leastInt ≤ micros ∧ micros ≤ greatestInt then DateTime.ofMicros? micros else none with
  | some t => return t
  | none => throw (.message ("cannot parse " ++ v.text ++ " as epoch timestamp"))

/-- A value that stands for no time. -/
def noTime (v : Val) : Problem := .message ("cannot convert " ++ v.text ++ " to time")

/-- The array of a number of seconds. -/
def toParts (v : Val) : Except Problem Val := do return (← v.asMoment).parts

/-- The number of seconds of an array, a double if there is a fraction. -/
def ofParts (v : Val) : Except Problem Val := do
  match DateTime.ofParts? (← v.asArr) with
  | some t => if 1000 ≤ t.nanos then return .float (DateTime.secondsOfMicros t.micros) else return .int t.seconds
  | none => throw v.noTime

/-- The text of a time by a format. -/
def writeTime (v format : Val) : Except Problem Val := do
  let format ← format.asStr
  let t ← match v with
    | .arr items => ((DateTime.ofParts? items).map Except.ok).getD (.error v.noTime)
    | v => v.asMoment
  return .str (t.writeBy format)

/-- The array of the time that a text gives by a format. -/
def readTime (v format : Val) : Except Problem Val := do
  let s ← v.asStr
  let format ← format.asStr
  match DateTime.readBy format s with
  | .ok t => return t.parts
  | .error fault => throw (.message ("cannot parse " ++ s ++ " using " ++ format ++ ": " ++ fault.message))

end Val

end TypeSketch.Filter
