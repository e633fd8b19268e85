import AuthGate.Time.Calendar

namespace AuthGate.Toml

/-- A time of day. Seconds may be left out, and a fraction with them. -/
structure TimeOfDay where
  hour : Nat
  minute : Nat
  second : Option Nat
  nanos : Option Nat
deriving DecidableEq

/-- The distance of a time from universal time. -/
inductive ZoneOffset where
  | universal
  | minutes (n : Int)
deriving DecidableEq

/-- A date, a time of day, or both, and then perhaps a distance from universal
time. -/
structure Moment where
  date : Option Date
  time : Option TimeOfDay
  offset : Option ZoneOffset
deriving DecidableEq

/-- Takes exactly so many digits off the front of a text. -/
def takeDigits? (count : Nat) (cs : List Char) : Option (Nat × List Char) :=
  let ds := cs.take count
  if ds.length = count ∧ ds.all Char.isDigit then some (Decimal.value ds, cs.drop count) else none

/-- Takes one given character off the front of a text. -/
def takeMark? (mark : Char) : List Char → Option (List Char)
  | [] => none
  | c :: cs => if c = mark then some cs else none

namespace TimeOfDay

/-- Takes the fraction of a second behind its point: at least one digit, of which
nine count. -/
def takeFraction? (cs : List Char) : Option (Nat × List Char) :=
  let ds := cs.takeWhile Char.isDigit
  if ds = [] then none
  else some (Decimal.value (ds.take 9) * Nat.pow 10 (9 - ds.length), cs.dropWhile Char.isDigit)

/-- Takes a time of day off the front of a text. -/
def take? (cs : List Char) : Option (TimeOfDay × List Char) := do
  let (hour, cs) ← takeDigits? 2 cs
  let (minute, cs) ← takeDigits? 2 (← takeMark? ':' cs)
  if 23 < hour ∨ 59 < minute then none
  else match cs with
    | ':' :: cs =>
      let (second, cs) ← takeDigits? 2 cs
      if 60 < second then none
      else match cs with
        | '.' :: cs =>
          let (nanos, cs) ← takeFraction? cs
          return (⟨hour, minute, some second, some nanos⟩, cs)
        | cs => return (⟨hour, minute, some second, none⟩, cs)
    | cs => return (⟨hour, minute, none, none⟩, cs)

/-- The text of a time of day. Its fraction has no zeros at the end, but at least
one digit. -/
def render (t : TimeOfDay) : List Char :=
  Decimal.padded 2 t.hour ++ ':' :: Decimal.padded 2 t.minute
    ++ (match t.second with
      | some second => ':' :: Decimal.padded 2 second
      | none => [])
    ++ match t.nanos with
      | some nanos =>
        let ds := Decimal.fraction 9 nanos
        '.' :: if ds = [] then ['0'] else ds
      | none => []

end TimeOfDay

namespace ZoneOffset

/-- Takes a distance from universal time off the front of a text. -/
def take? : List Char → Option (ZoneOffset × List Char)
  | [] => none
  | c :: cs =>
    if c = 'Z' ∨ c = 'z' then some (universal, cs)
    else if c = '+' ∨ c = '-' then do
      let (hours, cs) ← takeDigits? 2 cs
      let (mins, cs) ← takeDigits? 2 (← takeMark? ':' cs)
      if 23 < hours ∨ 59 < mins then none
      else
        let n : Int := hours * 60 + mins
        return (minutes (if c = '-' then -n else n), cs)
    else none

/-- The text of a distance from universal time. -/
def render : ZoneOffset → List Char
  | universal => ['Z']
  | minutes n =>
    (if n < 0 then '-' else '+') :: Decimal.padded 2 (n.natAbs / 60)
      ++ ':' :: Decimal.padded 2 (n.natAbs % 60)

end ZoneOffset

namespace Moment

/-- Takes a date off the front of a text. -/
def takeDate? (cs : List Char) : Option (Date × List Char) := do
  let (year, cs) ← takeDigits? 4 cs
  let (month, cs) ← takeDigits? 2 (← takeMark? '-' cs)
  let (day, cs) ← takeDigits? 2 (← takeMark? '-' cs)
  let date : Date := ⟨year, month, day⟩
  if date.isValid then return (date, cs) else none

/-- Whether a text is a date alone. -/
def isDate (cs : List Char) : Bool := (takeDate? cs).any (·.2 = [])

/-- Reads a moment. Date and time have a `T` or a blank between them. -/
def read? (cs : List Char) : Option Moment :=
  match takeDate? cs with
  | none => do
    let (time, rest) ← TimeOfDay.take? cs
    if rest = [] then return ⟨none, some time, none⟩ else none
  | some (date, []) => some ⟨some date, none, none⟩
  | some (date, c :: rest) => do
    if c ≠ 'T' ∧ c ≠ 't' ∧ c ≠ ' ' then none
    else
      let (time, rest) ← TimeOfDay.take? rest
      if rest = [] then return ⟨some date, some time, none⟩
      else
        let (offset, rest) ← ZoneOffset.take? rest
        if rest = [] then return ⟨some date, some time, some offset⟩ else none

/-- The text of a moment, with a `T` between date and time. -/
def render (m : Moment) : String :=
  let date := (m.date.map (·.render)).getD []
  let time := (m.time.map (·.render)).getD []
  let between := if m.date.isSome ∧ m.time.isSome then ['T'] else []
  String.ofList (date ++ between ++ time ++ (m.offset.map (·.render)).getD [])

end Moment

end AuthGate.Toml
