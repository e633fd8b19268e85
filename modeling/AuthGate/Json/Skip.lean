import AuthGate.Json.Number
import AuthGate.Json.Text

namespace AuthGate.Json

/-- A container that has been entered. -/
inductive Bracket where
  | list
  | object
deriving DecidableEq

namespace Bracket

/-- The symbol that ends a container. -/
def close : Bracket → Symbol
  | list => .char ']'
  | object => .char '}'

/-- The defect of a document that ends inside a container. -/
def endInside : Bracket → Cause
  | list => .endInList
  | object => .endInObject

/-- The defect of an item that is followed by something else. -/
def expectedEnd : Bracket → Cause
  | list => .expectedListEnd
  | object => .expectedObjectEnd

end Bracket

open Reader

/-- Passes over an exponent, from its letter on. -/
def skipExponent : Reader Unit := do
  let _ ← next
  let sign ← peek
  if sign = some (.char '+') ∨ sign = some (.char '-') then
    let _ ← next
  if !isDigitAhead (← peek) then failAhead .invalidNumber
  let _ ← skipDigits

/-- Passes over a number whose sign has been read. -/
def skipNumber : Reader Unit := do
  let ahead ← peek
  if !isDigitAhead ahead then failAhead .invalidNumber
  if ahead = some (.char '0') then
    let _ ← next
    if isDigitAhead (← peek) then failAhead .invalidNumber
  else
    let _ ← skipDigits
  if (← peek) = some (.char '.') then
    let _ ← next
    if (← skipDigits) = 0 then failAhead .invalidNumber
  let ahead ← peek
  if ahead = some (.char 'e') ∨ ahead = some (.char 'E') then skipExponent

/-- Passes over a scalar, or enters the container that starts here. -/
def skipScalar : Reader (Option Bracket) := do
  match ← peekToken with
  | none => failAhead .endInValue
  | some s =>
    if s = .char '[' then
      let _ ← next
      return some .list
    else if s = .char '{' then
      let _ ← next
      return some .object
    else if s = .char '"' then
      let _ ← next
      passText
    else if s = .char '-' then
      let _ ← next
      skipNumber
    else if isDigitAhead (some s) then skipNumber
    else if s = .char 'n' then
      let _ ← next
      word ['u', 'l', 'l']
    else if s = .char 't' then
      let _ ← next
      word ['r', 'u', 'e']
    else if s = .char 'f' then
      let _ ← next
      word ['a', 'l', 's', 'e']
    else failAhead .expectedValue
    return none

/-- Leaves the containers that end here, innermost first, up to one that goes on
with another item. `entered` is true right after an opening bracket, where an
item may follow without a comma. -/
def leave : Bool → List Bracket → Reader (List Bracket)
  | _, [] => return []
  | entered, b :: outer => do
    let ahead ← peekToken
    if ahead = some (.char ',') ∧ !entered then
      let _ ← next
      return b :: outer
    else if ahead = some b.close then
      let _ ← next
      leave false outer
    else if ahead.isNone then failAhead b.endInside
    else if entered then return b :: outer
    else failAhead b.expectedEnd

/-- Passes over the key of a member and the colon after it. -/
def skipKey : Reader Unit := do
  let ahead ← peekToken
  if ahead.isNone then failAhead .endInObject
  if ahead ≠ some (.char '"') then failAhead .keyNotString
  let _ ← next
  passText
  let ahead ← peekToken
  if ahead.isNone then failAhead .endInObject
  if ahead ≠ some (.char ':') then failAhead .expectedColon
  let _ ← next

/-- Passes over values until the containers given have ended. Every round takes
at least one symbol off the document. -/
def skipRounds : Nat → List Bracket → Reader Unit
  | 0, _ => return
  | fuel + 1, stack => do
    let entered ← skipScalar
    let stack ← leave entered.isSome (entered.toList ++ stack)
    match stack with
    | [] => return
    | b :: _ =>
      if b = .object then skipKey
      skipRounds fuel stack

/-- Passes over a value that nobody asks for. Its texts and numbers are checked
only for their shape, and it may be nested to any depth. -/
def skipValue : Reader Unit := fun c => skipRounds (c.rest.length + 1) [] c

end AuthGate.Json
