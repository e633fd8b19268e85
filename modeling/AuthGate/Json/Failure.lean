import AuthGate.Schema.Mismatch
import AuthGate.Text.Utf8

namespace AuthGate.Json

/-- A place in a document: its line from one, and in the line the bytes passed. -/
structure Position where
  line : Nat
  column : Nat
deriving DecidableEq

namespace Position

/-- The start of a document. -/
def start : Position := ⟨1, 0⟩

/-- The place after one more symbol. -/
def after (p : Position) (s : Symbol) : Position :=
  if s = .char '\n' then ⟨p.line + 1, 0⟩ else ⟨p.line, p.column + s.width⟩

/-- The place after the next byte, which is where a defect of the symbol ahead
is reported. At the end of the document it is the place itself. -/
def ahead (p : Position) : List Symbol → Position
  | [] => p
  | s :: _ => if s = .char '\n' then ⟨p.line + 1, 0⟩ else ⟨p.line, p.column + 1⟩

end Position

/-- What is wrong with a document. -/
inductive Cause where
  | endInList
  | endInObject
  | endInString
  | endInValue
  | expectedColon
  | expectedListEnd
  | expectedObjectEnd
  | expectedIdent
  | expectedValue
  | invalidEscape
  | invalidNumber
  | numberOutOfRange
  | invalidCodePoint
  | controlCharacter
  | keyNotString
  | loneSurrogate
  | trailingComma
  | trailingCharacters
  | endOfHexEscape
  | tooDeep
  | mismatch (m : Mismatch)

namespace Cause

/-- The wording of a cause. -/
def message : Cause → String
  | endInList => "EOF while parsing a list"
  | endInObject => "EOF while parsing an object"
  | endInString => "EOF while parsing a string"
  | endInValue => "EOF while parsing a value"
  | expectedColon => "expected `:`"
  | expectedListEnd => "expected `,` or `]`"
  | expectedObjectEnd => "expected `,` or `\x7d`"
  | expectedIdent => "expected ident"
  | expectedValue => "expected value"
  | invalidEscape => "invalid escape"
  | invalidNumber => "invalid number"
  | numberOutOfRange => "number out of range"
  | invalidCodePoint => "invalid unicode code point"
  | controlCharacter => "control character (\\u0000-\\u001F) found while parsing a string"
  | keyNotString => "key must be a string"
  | loneSurrogate => "lone leading surrogate in hex escape"
  | trailingComma => "trailing comma"
  | trailingCharacters => "trailing characters"
  | endOfHexEscape => "unexpected end of hex escape"
  | tooDeep => "recursion limit exceeded"
  | mismatch m => m.message

/-- Whether the document is well-formed and only of another shape than wanted. -/
def isMismatch : Cause → Bool
  | mismatch _ => true
  | _ => false

end Cause

/-- A step from a value to one of its parts. -/
inductive PathStep where
  | field (name : String)
  | index (i : Nat)

/-- The defect that ended the reading of a document, where it was noticed, and
the way from the whole document to the value that was being read. -/
structure Failure where
  cause : Cause
  position : Option Position
  path : List PathStep

namespace Failure

/-- The cause with its place, if it has one. -/
def message (f : Failure) : String :=
  match f.position with
  | none => f.cause.message
  | some p => s!"{f.cause.message} at line {p.line} column {p.column}"

/-- The way to the value that failed, as a label in front of the message. The
whole document has none. -/
def messageWithPath (f : Failure) : String :=
  let label := f.path.foldl (fun label step => match step with
    | .field name => if label = "" then name else s!"{label}.{name}"
    | .index i => s!"{label}[{i}]") ""
  if label = "" then f.message else s!"{label}: {f.message}"

end Failure

end AuthGate.Json
