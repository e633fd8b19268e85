import AuthGate.Json.Reader

namespace AuthGate.Json

/-- A number of a document. Integers that fit in 64 bits stay exact; negative
ones have 63 bits and a sign. Every other number is a float, the negative zero
among them. -/
inductive Number where
  | natural (n : Nat)
  | negative (n : Int)
  | float (x : Float)

namespace Number

/-- A number as what was found. -/
def found : Number → Found
  | natural n => .integer n
  | negative n => .integer n
  | float x => .float x

/-- The text of a number. -/
def render : Number → String
  | natural n => String.ofList (Decimal.digits n)
  | negative n => Decimal.signed n
  | float x => FloatText.shortest x

end Number

/-- The value of a decimal digit. -/
def digit? : Symbol → Option Nat
  | .char c => if c.isDigit then some (Decimal.value [c]) else none
  | .invalid _ => none

/-- Whether the symbol ahead is a decimal digit. -/
def isDigitAhead (ahead : Option Symbol) : Bool := (ahead.bind digit?).isSome

/-- The digits taken off a document: the number they add up to, how many there
were, and the cursor after them. -/
structure Digits where
  total : Nat
  count : Nat
  cursor : Cursor

/-- Takes digits and appends them to the number `total`. It stops before a digit
that would lift the number above `limit`. -/
def takeDigits (limit : Nat) : Nat → Nat → Position → List Symbol → Digits
  | total, count, position, [] => ⟨total, count, ⟨[], position⟩⟩
  | total, count, position, s :: rest =>
    match digit? s with
    | none => ⟨total, count, ⟨s :: rest, position⟩⟩
    | some d =>
      if limit < total * 10 + d then ⟨total, count, ⟨s :: rest, position⟩⟩
      else takeDigits limit (total * 10 + d) (count + 1) (position.after s) rest

namespace Reader

/-- Takes digits off the document as `takeDigits` does. -/
def digits (limit total : Nat) : Reader (Nat × Nat) := fun c =>
  let taken := takeDigits limit total 0 c.position c.rest
  .ok (taken.total, taken.count) taken.cursor

/-- Passes over digits and counts them. -/
def skipDigits : Reader Nat := fun c =>
  let after := passWhile (fun s => (digit? s).isSome) c.position c.rest
  .ok (c.rest.length - after.rest.length) after

end Reader

/-- Scales a float by a power of ten, in steps of at most `10 ^ 308`. A result
past the range has no value; one too small becomes zero. -/
def scaleByPower (x : Float) (exponent : Int) : Nat → Option Float
  | 0 => some x
  | fuel + 1 =>
    if exponent.natAbs ≤ 308 then
      let power := Float.ofScientific 1 false exponent.natAbs
      if 0 ≤ exponent then
        if (x * power).isInf then none else some (x * power)
      else some (x / power)
    else if x == 0 then some x
    else if 0 ≤ exponent then none
    else scaleByPower (x / Float.ofScientific 1 false 308) (exponent + 308) fuel

/-- The float of a sign, a significand of 64 bits and a power of ten. It is
scaled step by step, so the last digit can differ from the nearest float. -/
def floatOfParts (negative : Bool) (significand : Nat) (exponent : Int) : Reader Float :=
  match scaleByPower (Float.ofNat significand) exponent 4 with
  | none => Reader.failHere .numberOutOfRange
  | some x => return if negative then -x else x

/-- The largest number of 64 bits. -/
def maxSignificand : Nat := 0xffff_ffff_ffff_ffff

/-- The largest exponent that is read in full. -/
def maxExponent : Nat := 0x7fff_ffff

/-- Keeps an exponent in the range of 32 bits with a sign. -/
def clampExponent (e : Int) : Int := max (-0x8000_0000) (min e 0x7fff_ffff)

open Reader in
/-- Reads an exponent, from its letter on, and puts the number together. -/
def readExponent (negative : Bool) (significand : Nat) (exponent : Int) : Reader Float := do
  let _ ← next
  let sign ← peek
  if sign = some (.char '+') ∨ sign = some (.char '-') then
    let _ ← next
  let ahead ← peek
  if ahead.isNone then failHere .endInValue
  if !isDigitAhead ahead then failAhead .invalidNumber
  let (value, _) ← digits maxExponent 0
  if isDigitAhead (← peek) then
    let _ ← next
    if significand ≠ 0 ∧ sign ≠ some (.char '-') then failHere .numberOutOfRange
    let _ ← skipDigits
    return if negative then -0.0 else 0.0
  else
    let value : Int := if sign = some (.char '-') then -value else value
    floatOfParts negative significand (clampExponent (exponent + value))

open Reader in
/-- Reads an exponent if there is one and puts the number together. -/
def readScale (negative : Bool) (significand : Nat) (exponent : Int) : Reader Float := do
  let ahead ← peek
  if ahead = some (.char 'e') ∨ ahead = some (.char 'E') then
    readExponent negative significand exponent
  else floatOfParts negative significand exponent

open Reader in
/-- Reads a fraction, from its point on. Digits that no longer fit in the
significand are passed over. -/
def readFraction (negative : Bool) (significand : Nat) (exponent : Int) : Reader Float := do
  let _ ← next
  let (significand, count) ← digits maxSignificand significand
  if isDigitAhead (← peek) then
    let _ ← skipDigits
  else if count = 0 then
    if (← peek).isNone then failHere .endInValue else failAhead .invalidNumber
  readScale negative significand (exponent - count)

open Reader in
/-- Reads a number whose sign has been read. -/
def readNumber (negative : Bool) : Reader Number := do
  let ahead ← peek
  if ahead.isNone then failHere .endInValue
  if !isDigitAhead ahead then failAhead .invalidNumber
  let (significand, _) ←
    if ahead = some (.char '0') then do
      let _ ← next
      if isDigitAhead (← peek) then failAhead .invalidNumber
      pure (0, 1)
    else digits maxSignificand 0
  let dropped ← skipDigits
  let ahead ← peek
  if ahead = some (.char '.') then .float <$> readFraction negative significand dropped
  else if dropped ≠ 0 ∨ ahead = some (.char 'e') ∨ ahead = some (.char 'E') then
    .float <$> readScale negative significand dropped
  else if !negative then return .natural significand
  else if significand = 0 ∨ 0x8000_0000_0000_0000 < significand then
    return .float (-(Float.ofNat significand))
  else return .negative (-significand)

end AuthGate.Json
