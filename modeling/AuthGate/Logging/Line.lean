import AuthGate.Event

namespace AuthGate.Event

/-- The time of an event in front of its line: date and time of day to the
microsecond. -/
def stamp (t : Instant) : String :=
  let second := t.secondOfDay
  String.ofList (t.date.render ++ 'T' :: Decimal.padded 2 (second / 3600)
    ++ ':' :: Decimal.padded 2 (second / 60 % 60) ++ ':' :: Decimal.padded 2 (second % 60)
    ++ '.' :: Decimal.padded 6 (t.subsecNanos / 1000) ++ ['Z'])

/-- An event on a line of the log with its time. Levels end in one column. -/
def stampedLine (e : Event) (t : Instant) : String :=
  let indent := if e.level.name.length < 5 then "  " else " "
  stamp t ++ indent ++ e.line

end AuthGate.Event
