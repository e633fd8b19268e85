import AuthGate.Time.Duration
import AuthGate.Text.Blank
import AuthGate.Text.Decimal

namespace AuthGate

/-- The units that a written span counts in. Months and years have fixed
lengths: a year is 365.25 days, a month a twelfth of a mean Gregorian year. -/
inductive SpanUnit where
  | nanosecond
  | microsecond
  | millisecond
  | second
  | minute
  | hour
  | day
  | week
  | month
  | year
deriving DecidableEq

namespace SpanUnit

/-- Every unit, shortest first. -/
def all : List SpanUnit :=
  [nanosecond, microsecond, millisecond, second, minute, hour, day, week, month, year]

/-- The length of a unit in nanoseconds. -/
def nanos : SpanUnit → Nat
  | nanosecond => 1
  | microsecond => 1000
  | millisecond => 1_000_000
  | second => 1_000_000_000
  | minute => 60 * 1_000_000_000
  | hour => 3600 * 1_000_000_000
  | day => 86400 * 1_000_000_000
  | week => 604800 * 1_000_000_000
  | month => 2630016 * 1_000_000_000
  | year => 31557600 * 1_000_000_000

/-- The spellings of a unit. Only `M` for months depends on the case. -/
def names : SpanUnit → List String
  | nanosecond => ["nanos", "nsec", "ns"]
  | microsecond => ["usec", "us", "µs"]
  | millisecond => ["millis", "msec", "ms"]
  | second => ["seconds", "second", "secs", "sec", "s"]
  | minute => ["minute", "minutes", "min", "mins", "m"]
  | hour => ["hours", "hour", "hrs", "hr", "h"]
  | day => ["days", "day", "d"]
  | week => ["weeks", "week", "wk", "wks", "w"]
  | month => ["months", "month", "M"]
  | year => ["years", "year", "yrs", "yr", "y"]

/-- The unit that a word spells. -/
def ofName? (word : String) : Option SpanUnit := all.find? (·.names.contains word)

/-- A whole count of a unit as seconds and nanoseconds. Units below a second
count in nanoseconds, all others in seconds. -/
def whole (u : SpanUnit) (n : Nat) : Nat × Nat :=
  if u.nanos < 1_000_000_000 then (0, n * u.nanos) else (n * (u.nanos / 1_000_000_000), 0)

/-- A fraction of a unit as seconds and nanoseconds, before the division by its
denominator. Fractions of an hour or longer count in seconds; a nanosecond has
no fractions. -/
def part? (u : SpanUnit) (numerator : Nat) : Option (Nat × Nat) :=
  match u with
  | nanosecond => none
  | microsecond | millisecond | second | minute => some (0, numerator * u.nanos)
  | hour | day | week | month | year => some (numerator * (u.nanos / 1_000_000_000), 0)

end SpanUnit

namespace Duration

/-- Why a text is no span. A sum that first fits in the seconds and then leaves
their range by the carry of exactly one second is told apart from the rest. -/
inductive Defect where
  | malformed
  | overflow
deriving DecidableEq

/-- A count with its fraction, ahead of its unit. -/
structure Count where
  whole : Nat
  fraction : Option (Nat × Nat)

/-- Where the reading of a span stands: at the start, between two items, in the
digits of a count, in the digits of its fraction, or in the letters of its unit
(kept last first). -/
inductive Phase where
  | start
  | between
  | digits (n : Nat)
  | fraction (n numerator denominator : Nat)
  | letters (count : Count) (unit : List Char)

/-- A number of 64 bits, or a defect. -/
def word (n : Nat) : Except Defect Nat :=
  if n < 0x1_0000_0000_0000_0000 then .ok n else .error .malformed

/-- Adds seconds and nanoseconds to a total. -/
def addParts (total : Duration) (secs nanos : Nat) : Except Defect Duration :=
  let carried := total.subsecNanos + nanos
  if 0x1_0000_0000_0000_0000 ≤ carried then .error .malformed
  else match ofNanos? (total.nanos + secs * 1_000_000_000 + nanos) with
    | some sum => .ok sum
    | none =>
      let fits := total.secs + secs < 0x1_0000_0000_0000_0000
      if carried = 1_000_000_000 ∧ fits then .error .overflow
      else .error .malformed

/-- Adds a count of a unit to a total: first its whole part, then its fraction,
which has to come out even in the unit's smallest step. -/
def addCount (total : Duration) (count : Count) (letters : List Char) :
    Except Defect Duration := do
  let some unit := SpanUnit.ofName? (String.ofList letters.reverse) | throw .malformed
  let (secs, nanos) := unit.whole count.whole
  let total ← total.addParts (← word secs) (← word nanos)
  match count.fraction with
  | none => return total
  | some (numerator, denominator) =>
    let some (secs, nanos) := unit.part? numerator | throw .malformed
    let secs ← word secs
    let nanos ← word nanos
    if secs % denominator ≠ 0 ∨ nanos % denominator ≠ 0 then throw .malformed
    total.addParts (secs / denominator) (nanos / denominator)

/-- Whether a character may stand in the name of a unit. -/
def isUnitLetter (c : Char) : Bool := c.isAlpha || c = 'µ'

/-- Takes one character of a written span. -/
def step (total : Duration) (phase : Phase) (c : Char) : Except Defect (Duration × Phase) :=
  match phase with
  | .start =>
    if c.isDigit then .ok (total, .digits (Decimal.value [c]))
    else if isBlank c then .ok (total, .start)
    else .error .malformed
  | .between =>
    if c.isDigit then .ok (total, .digits (Decimal.value [c]))
    else if isBlank c then .ok (total, .between)
    else .error .malformed
  | .digits n =>
    if c.isDigit then (word (n * 10 + Decimal.value [c])).map fun n => (total, .digits n)
    else if isBlank c then .ok (total, .digits n)
    else if isUnitLetter c then .ok (total, .letters ⟨n, none⟩ [c])
    else if c = '.' then .ok (total, .fraction n 0 1)
    else .error .malformed
  | .fraction n numerator denominator =>
    if c.isDigit then do
      let denominator ← word (denominator * 10)
      let numerator ← word (numerator * 10 + Decimal.value [c])
      return (total, .fraction n numerator denominator)
    else if isBlank c then .ok (total, .fraction n numerator denominator)
    else if isUnitLetter c ∧ denominator ≠ 1 then
      .ok (total, .letters ⟨n, some (numerator, denominator)⟩ [c])
    else .error .malformed
  | .letters count unit =>
    if c.isDigit then (total.addCount count unit).map (·, .digits (Decimal.value [c]))
    else if isBlank c then (total.addCount count unit).map (·, .between)
    else if isUnitLetter c then .ok (total, .letters count (c :: unit))
    else .error .malformed

/-- Takes every character of a written span. -/
def scan : Duration → Phase → List Char → Except Defect (Duration × Phase)
  | total, phase, [] => .ok (total, phase)
  | total, phase, c :: cs => (step total phase c).bind fun (total, phase) => scan total phase cs

/-- Closes a written span. It may end between two items or in a unit. -/
def finish (total : Duration) : Phase → Except Defect Duration
  | .between => .ok total
  | .letters count unit => total.addCount count unit
  | _ => .error .malformed

/-- Reads a span such as `1h 30m` or `1.5s`: counts with units, in any order and
as often as wanted. A lone `0` needs no unit. -/
def parse (text : String) : Except Defect Duration :=
  if text = "0" then .ok zero
  else (scan zero .start text.toList).bind fun (total, phase) => finish total phase

/-- The items of a written span: counts above zero, from years down to
nanoseconds, with the word of each unit. -/
def items (d : Duration) : List (Nat × String) :=
  let pastYears := d.secs % 31557600
  let pastMonths := pastYears % 2630016
  let pastDays := pastMonths % 86400
  let long := [(d.secs / 31557600, "year"), (pastYears / 2630016, "month"),
    (pastMonths / 86400, "day")].map fun (n, unit) => (n, if n = 1 then unit else unit ++ "s")
  let short := [(pastDays / 3600, "h"), (pastDays % 3600 / 60, "m"), (pastDays % 60, "s"),
    (d.subsecNanos / 1_000_000, "ms"), (d.subsecNanos / 1000 % 1000, "us"),
    (d.subsecNanos % 1000, "ns")]
  (long ++ short).filter fun (n, _) => n ≠ 0

/-- Writes a span as its items with blanks between. The empty span is `0s`. -/
def render (d : Duration) : String :=
  if d.nanos = 0 then "0s"
  else String.ofList
    ([' '].intercalate (d.items.map fun (n, unit) => Decimal.digits n ++ unit.toList))

/-- Writes a span as one decimal number in the largest of seconds, milliseconds,
microseconds and nanoseconds that it reaches. -/
def renderBrief (d : Duration) : String :=
  let inUnit (whole fraction places : Nat) (unit : String) : String :=
    let fraction := match Decimal.fraction places fraction with
      | [] => []
      | ds => if places = 0 then [] else '.' :: ds
    String.ofList (Decimal.digits whole ++ fraction) ++ unit
  if 0 < d.secs then inUnit d.secs d.subsecNanos 9 "s"
  else if 1_000_000 ≤ d.nanos then inUnit (d.nanos / 1_000_000) (d.nanos % 1_000_000) 6 "ms"
  else if 1000 ≤ d.nanos then inUnit (d.nanos / 1000) (d.nanos % 1000) 3 "µs"
  else inUnit d.nanos 0 0 "ns"

end Duration

end AuthGate
