import AuthGate.Json.Number
import AuthGate.Json.Text

namespace AuthGate.Json

/-- A document as a tree. The members of an object keep their order and may
repeat a key. -/
inductive Value where
  | null
  | boolean (value : Bool)
  | number (value : Number)
  | text (value : String)
  | list (items : List Value)
  | object (members : List (String × Value))

namespace Value

instance : Inhabited Value := ⟨null⟩

/-- A natural number as a value. -/
def natural (n : Nat) : Value := number (.natural n)

/-- An integer as a value. -/
def integer (n : Int) : Value := number (if 0 ≤ n then .natural n.toNat else .negative n)

/-- A value as what was found. -/
def found : Value → Found
  | null => .null
  | boolean value => .boolean value
  | number value => value.found
  | text value => .text value
  | list _ => .sequence
  | object _ => .map

/-- A character inside a text. Quotes, backslashes and control characters are
escaped, all others stand for themselves. -/
def escapeChar (c : Char) : List Char :=
  if c = '"' then ['\\', '"']
  else if c = '\\' then ['\\', '\\']
  else if c = '\n' then ['\\', 'n']
  else if c = '\r' then ['\\', 'r']
  else if c = '\t' then ['\\', 't']
  else if c = '\x08' then ['\\', 'b']
  else if c = '\x0c' then ['\\', 'f']
  else if c.val < 0x20 then
    ['\\', 'u', '0', '0', if c.val < 0x10 then '0' else '1', (c.toNat % 16).digitChar]
  else [c]

/-- A text in quotes. -/
def renderText (s : String) : List Char := '"' :: s.toList.flatMap escapeChar ++ ['"']

/-- Puts commas between the parts of a container. -/
def commaSeparated (parts : List (List Char)) : List Char := [','].intercalate parts

mutual

/-- A value on one line without space, member by member. -/
def renderChars : Value → List Char
  | null => ['n', 'u', 'l', 'l']
  | boolean value => if value then ['t', 'r', 'u', 'e'] else ['f', 'a', 'l', 's', 'e']
  | number n => n.render.toList
  | text s => renderText s
  | list items => '[' :: commaSeparated (renderItems items) ++ [']']
  | object members => '{' :: commaSeparated (renderMembers members) ++ ['}']

/-- The items of a list, each on its own. -/
def renderItems : List Value → List (List Char)
  | [] => []
  | item :: items => item.renderChars :: renderItems items

/-- The members of an object, each on its own. -/
def renderMembers : List (String × Value) → List (List Char)
  | [] => []
  | (key, value) :: members =>
    (renderText key ++ ':' :: value.renderChars) :: renderMembers members

end

/-- The text of a value. -/
def render (v : Value) : String := String.ofList v.renderChars

end Value

open Reader

/-- Goes to the next item of a list. At the closing bracket, which stays, there
is none. -/
def nextItem (first : Bool) : Reader Bool := do
  let ahead ← peekToken
  if ahead = some (.char ']') then return false
  if ahead.isNone then failAhead .endInList
  if !first then
    if ahead ≠ some (.char ',') then failAhead .expectedListEnd
    let _ ← next
  let ahead ← peekToken
  if ahead.isNone then failAhead .endInValue
  if ahead = some (.char ']') then failAhead .trailingComma
  return true

/-- Reads the items of a list whose opening bracket has been read, up to its
closing bracket, which stays. Every item takes at least one symbol. -/
def readItems {α : Type} (read : Reader α) : Nat → Bool → List α → Reader (List α)
  | 0, _, items => return items.reverse
  | fuel + 1, first, items => do
    if ← nextItem first then
      let item ← within (.index items.length) read
      readItems read fuel false (item :: items)
    else return items.reverse

/-- Goes to the key of the next member of an object, behind its quote. At the
closing bracket, which stays, there is none. -/
def nextKey (first : Bool) : Reader (Option String) := do
  let ahead ← peekToken
  if ahead = some (.char '}') then return none
  if ahead.isNone then failAhead .endInObject
  if !first then
    if ahead ≠ some (.char ',') then failAhead .expectedObjectEnd
    let _ ← next
  let ahead ← peekToken
  if ahead.isNone then failAhead .endInValue
  if ahead = some (.char '}') then failAhead .trailingComma
  if ahead ≠ some (.char '"') then failAhead .keyNotString
  let _ ← next
  some <$> text

/-- Reads the colon between key and value. -/
def readColon : Reader Unit := do
  let ahead ← peekToken
  if ahead.isNone then failAhead .endInObject
  if ahead ≠ some (.char ':') then failAhead .expectedColon
  let _ ← next

/-- Reads the members of an object whose opening bracket has been read, up to
its closing bracket, which stays. -/
def readMembers {α : Type} (read : Reader α) :
    Nat → Bool → List (String × α) → Reader (List (String × α))
  | 0, _, members => return members.reverse
  | fuel + 1, first, members => do
    match ← nextKey first with
    | none => return members.reverse
    | some key =>
      readColon
      let value ← read
      readMembers read fuel false ((key, value) :: members)

/-- Reads the end of a list. A comma in front of it is a defect of its own. -/
def endList : Reader Unit := do
  let ahead ← peekToken
  if ahead = some (.char ']') then
    let _ ← next
  else if ahead.isNone then failAhead .endInList
  else if ahead = some (.char ',') then
    let _ ← next
    if (← peekToken) = some (.char ']') then failAhead .trailingComma
    else failAhead .trailingCharacters
  else failAhead .trailingCharacters

/-- Reads the end of an object. -/
def endObject : Reader Unit := do
  let ahead ← peekToken
  if ahead = some (.char '}') then
    let _ ← next
  else if ahead.isNone then failAhead .endInObject
  else if ahead = some (.char ',') then failAhead .trailingComma
  else failAhead .trailingCharacters

/-- Reads the inside of a container and then its end. The end is looked for also
after a failure, which then stands. -/
def closing {α : Type} (inside : Reader α) (close : Reader Unit) : Reader α := do
  match ← attempt inside, ← attempt close with
  | .ok a, .ok () => return a
  | .error f, _ => throw f
  | .ok _, .error f => throw f

/-- Reads a scalar that is no text, or a text, from its first symbol on, which
has been seen. -/
def readScalar (s : Symbol) : Reader Value := do
  if s = .char '"' then
    let _ ← next
    .text <$> text
  else if s = .char '-' then
    let _ ← next
    .number <$> readNumber true
  else if isDigitAhead (some s) then .number <$> readNumber false
  else if s = .char 'n' then
    let _ ← next
    word ['u', 'l', 'l']
    return .null
  else if s = .char 't' then
    let _ ← next
    word ['r', 'u', 'e']
    return .boolean true
  else if s = .char 'f' then
    let _ ← next
    word ['a', 'l', 's', 'e']
    return .boolean false
  else failAhead .expectedValue

/-- Reads a scalar, or leaves a container to the reader given. -/
def readScalarOr (container : Symbol → Reader Value) : Reader Value := do
  match ← peekToken with
  | none => failAhead .endInValue
  | some s => if s = .char '[' ∨ s = .char '{' then container s else readScalar s

/-- How many containers of a document may be inside each other. -/
def maxDepth : Nat := 127

/-- Reads a value that may enter `depth` containers inside each other. -/
def readValue : Nat → Reader Value
  | 0 => readScalarOr fun _ => failAhead .tooDeep
  | depth + 1 => readScalarOr fun s => do
    let _ ← next
    let fuel := (← get).rest.length + 1
    if s = .char '[' then
      .list <$> closing (readItems (readValue depth) fuel true []) endList
    else .object <$> closing (readMembers (readValue depth) fuel true []) endObject

end AuthGate.Json
