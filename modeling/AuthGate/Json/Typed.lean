import AuthGate.Json.Skip
import AuthGate.Json.Value
import AuthGate.Schema.Format

namespace AuthGate.Json

open Reader

/-- Fails for a value of another type than expected. Scalars are read, so that
the place reported lies behind them; containers are not entered. -/
def wrongType {α : Type} (expected : String) (s : Symbol) : Reader α :=
  if s = .char '[' then mismatch (.wrongType .sequence expected)
  else if s = .char '{' then mismatch (.wrongType .map expected)
  else do mismatch (.wrongType (← readScalar s).found expected)

/-- Reads a value after the space in front of it, by its first symbol. -/
def readToken {α : Type} (read : Symbol → Reader α) : Reader α := do
  match ← peekToken with
  | none => failAhead .endInValue
  | some s => located (read s)

/-- Reads a text that is checked further. -/
def readChecked {α : Type} (expected : String) (check : String → Except Mismatch α) : Reader α :=
  readToken fun s =>
    if s = .char '"' then do
      let _ ← next
      match check (← text) with
      | .ok a => return a
      | .error m => mismatch m
    else wrongType expected s

/-- Reads a text. -/
def readText : Reader String := readChecked "a string" .ok

/-- Reads a number that is checked further. -/
def readChecking {α : Type} (expected : String) (check : Number → Except Mismatch α) :
    Reader α :=
  readToken fun s => do
    let number? ←
      if s = .char '-' then do
        let _ ← next
        some <$> readNumber true
      else if isDigitAhead (some s) then some <$> readNumber false
      else pure none
    match number? with
    | none => wrongType expected s
    | some n => match check n with
      | .ok a => return a
      | .error m => mismatch m

/-- A number as a natural number of a range. -/
def Number.natural? (range : NaturalRange) : Number → Except Mismatch Nat
  | .natural n =>
    if n < range.limit then .ok n else .error (.badValue (.integer n) range.label)
  | .negative n => .error (.badValue (.integer n) range.label)
  | .float x => .error (.wrongType (.float x) range.label)

/-- A number as an integer of 64 bits with a sign. -/
def Number.integer64? : Number → Except Mismatch Int
  | .natural n => if n < 0x8000_0000_0000_0000 then .ok n else .error (.badValue (.integer n) "i64")
  | .negative n => .ok n
  | .float x => .error (.wrongType (.float x) "i64")

/-- Reads a natural number of a range. -/
def readNatural (range : NaturalRange) : Reader Nat :=
  readChecking range.label (·.natural? range)

/-- Reads an integer of 64 bits with a sign. -/
def readInteger64 : Reader Int := readChecking "i64" Number.integer64?

/-- Reads a span. -/
def readSpan : Reader Duration := readChecked "a duration" spanOfText

/-- Reads `null`. -/
def readNull : Reader Unit :=
  readToken fun s =>
    if s = .char 'n' then do
      let _ ← next
      word ['u', 'l', 'l']
    else wrongType "unit" s

/-- The variant that a text names. -/
def variantOfText {α : Type} (variants : List (String × α)) (name : String) :
    Except Mismatch α :=
  match variants.find? (·.1 = name) with
  | some (_, a) => .ok a
  | none => .error (.unknownVariant name (variants.map (·.1)))

/-- Reads a variant: its name, or an object that maps only its name to null. -/
def readChoice {α : Type} (variants : List (String × α)) : Reader α := do
  match ← peekToken with
  | none => failAhead .endInValue
  | some s =>
    if s = .char '"' then readName
    else if s = .char '{' then
      let _ ← next
      let a ← readName
      readColon
      readNull
      let ahead ← peekToken
      if ahead.isNone then failHere .endInObject
      if ahead ≠ some (.char '}') then failHere .expectedValue
      let _ ← next
      return a
    else failAhead .expectedValue
where
  readName : Reader α := readChecked "variant identifier" (variantOfText variants)

/-- Reads a list. -/
def readList {α : Type} (read : Reader α) : Reader (List α) :=
  readToken fun s =>
    if s = .char '[' then do
      let _ ← next
      closing (readItems read ((← get).rest.length + 1) true []) endList
    else wrongType "a sequence" s

/-- Reads the fields of a record from the items of a list, in order. -/
def readFieldItems {α : Type} (shape : Shape Reader Unit α) :
    List (Field Reader Unit α) → Nat → α → Reader α
  | [], _, a => return a
  | f :: fields, index, a => do
    if ← nextItem (index = 0) then
      let a ← within (.index index) (f.read () a)
      readFieldItems shape fields (index + 1) a
    else match shape.shortfall? index (f :: fields) with
      | none => return a
      | some m => mismatch m

/-- Reads the fields of a record from the members of an object, in any order.
Members that are no fields are passed over. -/
def readFieldMembers {α : Type} (shape : Shape Reader Unit α) :
    Nat → List String → Bool → α → Reader α
  | 0, _, _, a => return a
  | fuel + 1, seen, first, a => do
    match ← nextKey first with
    | none => match shape.missing? seen with
      | none => return a
      | some name => mismatch (.missingField name)
    | some key =>
      match shape.fields.find? (·.name = key) with
      | none =>
        within (.field key) do
          readColon
          skipValue
        readFieldMembers shape fuel seen false a
      | some f =>
        if seen.contains key then mismatch (.duplicateField key)
        let a ← within (.field key) do
          readColon
          f.read () a
        readFieldMembers shape fuel (key :: seen) false a

/-- Reads a record from an object or a list. -/
def readRecord {α : Type} (shape : Shape Reader Unit α) : Reader α :=
  readToken fun s =>
    if s = .char '[' then do
      let _ ← next
      closing (readFieldItems shape shape.fields 0 shape.initial) endList
    else if s = .char '{' then do
      let _ ← next
      closing (readFieldMembers shape ((← get).rest.length + 1) [] true shape.initial) endObject
    else wrongType s!"struct {shape.name}" s

/-- Documents as text. A place in a document is where the cursor is. -/
def textFormat : Format Reader Unit where
  text _ := readText
  natural range _ := readNatural range
  span _ := readSpan
  choice _ variants _ := readChoice variants
  list read _ := readList (read ())
  record shape _ := readRecord shape

end AuthGate.Json
