import AuthGate.Time.Calendar

namespace AuthGate

/-- A wall-clock reading together with its offset from UTC in minutes. The
wall clock has to be in the calendar range; the instant it names may lie up to
a day outside. -/
structure Timestamp where
  wall : Instant
  offsetMinutes : Int
deriving DecidableEq

namespace Timestamp

/-- The reading of a UTC clock. -/
def utc (t : Instant) : Timestamp := ⟨t, 0⟩

/-- Nanoseconds from 1970-01-01T00:00 UTC to the instant named. -/
def unixNanos (t : Timestamp) : Int := t.wall.nanos - t.offsetMinutes * 60 * 1_000_000_000

/-- The RFC 3339 text of a timestamp. Years before zero have no such text. The
fraction has no trailing zeros and is left out when it is zero. -/
def render? (t : Timestamp) : Option String :=
  let date := t.wall.date
  let second := t.wall.secondOfDay
  let fraction := match Decimal.fraction 9 t.wall.subsecNanos with
    | [] => []
    | ds => '.' :: ds
  let offset :=
    if t.offsetMinutes = 0 then ['Z']
    else
      (if t.offsetMinutes < 0 then '-' else '+')
        :: Decimal.padded 2 (t.offsetMinutes.natAbs / 60)
        ++ ':' :: Decimal.padded 2 (t.offsetMinutes.natAbs % 60)
  if date.year < 0 then none
  else some (String.ofList (date.render ++ 'T' :: Decimal.padded 2 (second / 3600)
    ++ ':' :: Decimal.padded 2 (second / 60 % 60) ++ ':' :: Decimal.padded 2 (second % 60)
    ++ fraction ++ offset))

/-- Why a text is no RFC 3339 timestamp. -/
inductive Defect where
  | component (name : String)
  | literal
  | trailing
  | outOfRange (name : String)
deriving DecidableEq

/-- The wording of a defect. -/
def Defect.message : Defect → String
  | component name => s!"the '{name}' component could not be parsed"
  | literal => "a character literal was not valid"
  | trailing => "unexpected trailing characters; the end of input was expected"
  | outOfRange name => s!"{name} was not in range"

/-- A step of reading that takes a part off the front of the text. -/
abbrev Step := StateT (List Char) (Except Defect)

/-- Takes exactly `count` digits. -/
def takeDigits (count : Nat) (name : String) : Step Nat := fun cs =>
  let ds := cs.take count
  if ds.length = count ∧ ds.all Char.isDigit then .ok (Decimal.value ds, cs.drop count)
  else .error (.component name)

/-- Takes one given character. -/
def takeLiteral (expected : Char) : Step Unit
  | [] => .error .literal
  | c :: cs => if c = expected then .ok ((), cs) else .error .literal

/-- Takes the mark between date and time, which may be any one byte. Of a
longer character the rest stays, and no hour starts with that. -/
def takeSeparator : Step Unit
  | [] => .error (.component "separator")
  | c :: cs => if c.val < 128 then .ok ((), cs) else .error (.component "hour")

/-- Takes a fraction of a second if a point announces one. Digits past the
ninth are read and dropped. -/
def takeFraction : Step Nat
  | '.' :: cs =>
    let ds := cs.takeWhile Char.isDigit
    if ds = [] then .error (.component "subsecond")
    else
      let kept := ds.take 9
      .ok (Decimal.value kept * Nat.pow 10 (9 - kept.length), cs.dropWhile Char.isDigit)
  | cs => .ok (0, cs)

/-- Takes the offset from UTC as hours and minutes, both with the sign that
stands in front. The minutes are not yet checked against their range. -/
def takeOffset : Step (Int × Nat × Nat)
  | 'Z' :: cs => .ok ((1, 0, 0), cs)
  | 'z' :: cs => .ok ((1, 0, 0), cs)
  | '+' :: cs => signed 1 cs
  | '-' :: cs => signed (-1) cs
  | _ => .error (.component "offset hour")
where
  signed (sign : Int) : Step (Int × Nat × Nat) := do
    let hours ← takeDigits 2 "offset hour"
    if 23 < hours then throw (.component "offset hour")
    takeLiteral ':'
    let minutes ← takeDigits 2 "offset minute"
    return (sign, hours, minutes)

/-- Whether a reading stands for the last representable moment before a leap
second: the end of the last UTC day of a month. -/
def precedesLeapSecond (t : Timestamp) : Bool :=
  match Instant.ofNanos? t.unixNanos with
  | none => false
  | some utc =>
    utc.secondOfDay = 86399 && utc.subsecNanos = 999999999
      && utc.date.day = Date.monthLength utc.date.year utc.date.month

/-- Checks the ranges of the parts and puts them together. A sixtieth second is
taken for a leap second and moved to the end of the one before it. -/
def assemble (date : Date) (hour minute second nanos : Nat) (offset : Int) :
    Except Defect Timestamp := do
  if !date.isValid then throw (.outOfRange "day")
  if 23 < hour then throw (.outOfRange "hour")
  if 59 < minute then throw (.outOfRange "minute")
  if 60 < second then throw (.outOfRange "second")
  let isLeap := second = 60
  let (second, nanos) := if isLeap then (59, 999999999) else (second, nanos)
  let wallSeconds := date.toUnixDay * 86400 + (hour * 3600 + minute * 60 + second : Nat)
  match Instant.ofUnix? wallSeconds nanos with
  | none => throw (.outOfRange "year")
  | some wall =>
    let t : Timestamp := ⟨wall, offset⟩
    if isLeap && !t.precedesLeapSecond then throw (.outOfRange "second")
    return t

/-- Reads an RFC 3339 timestamp. The shape is settled first and the ranges of
day, hour, minute and second only after it. -/
def ofChars (cs : List Char) : Except Defect Timestamp := do
  let (parts, rest) ← (shape.run cs)
  let (date, (hour, minute, second), nanos, (sign, offsetHours, offsetMinutes)) := parts
  if 59 < offsetMinutes then throw (.outOfRange "offset minute")
  if rest ≠ [] then throw .trailing
  assemble date hour minute second nanos (sign * (offsetHours * 60 + offsetMinutes : Nat))
where
  shape : Step (Date × (Nat × Nat × Nat) × Nat × (Int × Nat × Nat)) := do
    let year ← takeDigits 4 "year"
    takeLiteral '-'
    let month ← takeDigits 2 "month"
    if month = 0 ∨ 12 < month then throw (.component "month")
    takeLiteral '-'
    let day ← takeDigits 2 "day"
    takeSeparator
    let hour ← takeDigits 2 "hour"
    takeLiteral ':'
    let minute ← takeDigits 2 "minute"
    takeLiteral ':'
    let second ← takeDigits 2 "second"
    let nanos ← takeFraction
    let offset ← takeOffset
    return (⟨year, month, day⟩, (hour, minute, second), nanos, offset)

/-- Reads an RFC 3339 timestamp from a text. -/
def parse (text : String) : Except Defect Timestamp := ofChars text.toList

end Timestamp

end AuthGate
