import AuthGate.Number.Shortest

namespace AuthGate.FloatText

/-- The float nearest to `value * 10 ^ exponent`. Numbers that are past the range
by any count of digits are not computed. -/
def nearest (value : Nat) (exponent : Int) : Float :=
  let magnitude := exponent + (Decimal.digits value).length
  if value = 0 ∨ magnitude < -400 then 0.0
  else if 400 < magnitude then 1.0 / 0.0
  else Float.ofScientific value (exponent < 0) exponent.natAbs

/-- A float with the sign given. -/
def withSign (negative : Bool) (x : Float) : Float := if negative then -x else x

/-- A written number that is not negative: digits around a point and an
exponent. -/
structure Written where
  whole : List Char
  fraction : List Char
  exponent : Int

/-- The float nearest to a written number. -/
def Written.toFloat (w : Written) : Float :=
  nearest (Decimal.value (w.whole ++ w.fraction)) (w.exponent - w.fraction.length)

/-- Takes a sign off the front of a text, and says whether it is a minus. -/
def takeSign : List Char → Bool × List Char
  | '+' :: cs => (false, cs)
  | '-' :: cs => (true, cs)
  | cs => (false, cs)

/-- An exponent behind its letter. The empty text stands for none. -/
def readExponent? : List Char → Option Int
  | [] => some 0
  | c :: cs =>
    if c = 'e' ∨ c = 'E' then
      let (negative, ds) := takeSign cs
      (Decimal.ofDigits? ds).map fun n => if negative then -(n : Int) else n
    else none

/-- A number without a sign. Digits may be missing on one side of the point. -/
def readWritten? (cs : List Char) : Option Written :=
  let whole := cs.takeWhile Char.isDigit
  match cs.dropWhile Char.isDigit with
  | '.' :: rest =>
    let fraction := rest.takeWhile Char.isDigit
    if whole = [] ∧ fraction = [] then none
    else (readExponent? (rest.dropWhile Char.isDigit)).map fun e => ⟨whole, fraction, e⟩
  | rest => if whole = [] then none else (readExponent? rest).map fun e => ⟨whole, [], e⟩

/-- The float that a text writes: a number, or a word for infinity or for what is
no number, in any case. -/
def read? (cs : List Char) : Option Float :=
  let (negative, cs) := takeSign cs
  let word := String.ofList (cs.map Char.toLower)
  if word = "inf" ∨ word = "infinity" then some (withSign negative (1.0 / 0.0))
  else if word = "nan" then some (0.0 / 0.0)
  else (readWritten? cs).map fun w => withSign negative w.toFloat

end AuthGate.FloatText
