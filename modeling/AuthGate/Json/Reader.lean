import AuthGate.Json.Failure

namespace AuthGate.Json

/-- The part of a document that is still to be read, and where it starts. -/
structure Cursor where
  rest : List Symbol
  position : Position
deriving DecidableEq

/-- A step of reading. It moves the cursor also when it fails, so that a caller
who makes up for the failure goes on from the place where it arose. -/
abbrev Reader := EStateM Failure Cursor

namespace Cursor

/-- A cursor in front of a document. -/
def ofSymbols (rest : List Symbol) : Cursor := ⟨rest, Position.start⟩

/-- A cursor in front of the document that a text holds. -/
def ofString (text : String) : Cursor := ofSymbols (text.toList.map .char)

end Cursor

/-- Whether a symbol may stand between the tokens of a document. -/
def isSpace (s : Symbol) : Bool :=
  s = .char ' ' || s = .char '\n' || s = .char '\t' || s = .char '\r'

/-- Passes over the symbols of a class. -/
def passWhile (p : Symbol → Bool) : Position → List Symbol → Cursor
  | position, [] => ⟨[], position⟩
  | position, s :: rest =>
    if p s then passWhile p (position.after s) rest else ⟨s :: rest, position⟩

namespace Reader

/-- The next symbol, which stays unread. -/
def peek : Reader (Option Symbol) := fun c => .ok c.rest.head? c

/-- The next symbol after the space in front of it. -/
def peekToken : Reader (Option Symbol) := fun c =>
  let c := passWhile isSpace c.position c.rest
  .ok c.rest.head? c

/-- Reads one symbol. -/
def next : Reader (Option Symbol) := fun c =>
  match c.rest with
  | [] => .ok none c
  | s :: rest => .ok (some s) ⟨rest, c.position.after s⟩

/-- Fails at the place of the cursor. -/
def failHere {α : Type} (cause : Cause) : Reader α := fun c =>
  .error ⟨cause, some c.position, []⟩ c

/-- Fails at the symbol ahead. -/
def failAhead {α : Type} (cause : Cause) : Reader α := fun c =>
  .error ⟨cause, some (c.position.ahead c.rest), []⟩ c

/-- Fails with a place still to be given. -/
def failSomewhere {α : Type} (cause : Cause) : Reader α := fun c =>
  .error ⟨cause, none, []⟩ c

/-- Fails for a well-formed value of another shape. -/
def mismatch {α : Type} (m : Mismatch) : Reader α := failSomewhere (.mismatch m)

/-- Gives a failure without a place the place where the cursor has come to. -/
def located {α : Type} (read : Reader α) : Reader α := fun c =>
  match read c with
  | .ok a c => .ok a c
  | .error f c => .error { f with position := f.position.or (some c.position) } c

/-- Notes in a failure that it arose inside a part of the value. -/
def within {α : Type} (step : PathStep) (read : Reader α) : Reader α := fun c =>
  match read c with
  | .ok a c => .ok a c
  | .error f c => .error { f with path := step :: f.path } c

/-- The outcome of a reading as a value, with the cursor where it has come to. -/
def attempt {α : Type} (read : Reader α) : Reader (Except Failure α) := fun c =>
  match read c with
  | .ok a c => .ok (.ok a) c
  | .error f c => .ok (.error f) c

/-- The rest of the document has only space. -/
def finish : Reader Unit := do
  if (← peekToken).isSome then failAhead .trailingCharacters

/-- Reads a whole document. -/
def whole {α : Type} (read : Reader α) (c : Cursor) : Except Failure α :=
  match (do let a ← read; finish; return a) c with
  | .ok a _ => .ok a
  | .error f _ => .error f

/-- Reads the rest of a word whose first letter has been read. -/
def word : List Char → Reader Unit
  | [] => return
  | expected :: rest => do
    match ← peek with
    | none => failHere .endInValue
    | some s =>
      if s = .char expected then
        let _ ← next
        word rest
      else failAhead .expectedIdent

end Reader

end AuthGate.Json
