import AuthGate.Json.Reader
import AuthGate.Text.Hex

namespace AuthGate.Json

/-- What a backslash in a text begins: a character, with the number of symbols
that write it, or a defect, with the number of bytes up to where it is noticed. -/
inductive Escape where
  | char (c : Char) (length : Nat)
  | defect (cause : Cause) (bytes : Nat)

/-- The character of an escape of one letter. -/
def shortEscape? (c : Char) : Option Char :=
  if c = '"' ∨ c = '\\' ∨ c = '/' then some c
  else if c = 'b' then some '\x08'
  else if c = 'f' then some '\x0c'
  else if c = 'n' then some '\n'
  else if c = 'r' then some '\r'
  else if c = 't' then some '\t'
  else none

/-- The number of bytes that the first symbols of a document take, counted no
further than four. -/
def bytesUpToFour (rest : List Symbol) : Nat :=
  min 4 ((rest.take 4).foldl (fun n s => n + s.width) 0)

/-- The code unit that four digits in base sixteen write. Four bytes are taken
in any case, or all there are. -/
def hexUnit (rest : List Symbol) : Except (Cause × Nat) Nat :=
  if bytesUpToFour rest < 4 then .error (.endInString, bytesUpToFour rest)
  else match (rest.take 4).mapM (fun s => s.char?.bind hexValue?) with
    | some [a, b, c, d] => .ok (((a * 16 + b) * 16 + c) * 16 + d)
    | _ => .error (.invalidEscape, 4)

/-- Whether a code unit is the first half of a surrogate pair. -/
def isLeading (unit : Nat) : Bool := 0xD800 ≤ unit && unit ≤ 0xDBFF

/-- Whether a code unit is the second half of a surrogate pair. -/
def isTrailing (unit : Nat) : Bool := 0xDC00 ≤ unit && unit ≤ 0xDFFF

/-- The character of a surrogate pair. -/
def pairChar (leading trailing : Nat) : Char :=
  Char.ofNat ((leading - 0xD800) * 0x400 + (trailing - 0xDC00) + 0x10000)

/-- The second half of a surrogate pair, which has to follow as an escape of its
own. -/
def trailingEscape (leading : Nat) (rest : List Symbol) : Escape :=
  match rest with
  | [] => .defect .endInString 5
  | s :: rest =>
    if s ≠ .char '\\' then .defect .endOfHexEscape 6
    else match rest with
      | [] => .defect .endInString 6
      | s :: rest =>
        if s ≠ .char 'u' then .defect .endOfHexEscape 7
        else match hexUnit rest with
          | .error (cause, bytes) => .defect cause (7 + bytes)
          | .ok unit =>
            if isTrailing unit then .char (pairChar leading unit) 11
            else .defect .loneSurrogate 11

/-- What the symbols after a backslash write. -/
def escape (rest : List Symbol) : Escape :=
  match rest with
  | [] => .defect .endInString 0
  | .invalid _ :: _ => .defect .invalidEscape 1
  | .char c :: rest =>
    match shortEscape? c with
    | some c => .char c 1
    | none =>
      if c ≠ 'u' then .defect .invalidEscape 1
      else match hexUnit rest with
        | .error (cause, bytes) => .defect cause (1 + bytes)
        | .ok unit =>
          if isTrailing unit then .defect .loneSurrogate 5
          else if isLeading unit then trailingEscape unit (rest.drop 4)
          else .char (Char.ofNat unit) 5

/-- What the symbols after a backslash write when nobody asks for the text: the
digits of a code unit have to be digits, and no more. -/
def skippedEscape (rest : List Symbol) : Escape :=
  match rest with
  | [] => .defect .endInString 0
  | .invalid _ :: _ => .defect .invalidEscape 1
  | .char c :: rest =>
    match shortEscape? c with
    | some c => .char c 1
    | none =>
      if c ≠ 'u' then .defect .invalidEscape 1
      else match hexUnit rest with
        | .error (cause, bytes) => .defect cause (1 + bytes)
        | .ok _ => .char 'u' 5

/-- Passes over a number of bytes. A symbol that is only partly passed over is
gone from the document, but only its passed bytes count for the place. -/
def passBytes : Nat → Position → List Symbol → Cursor
  | 0, position, rest => ⟨rest, position⟩
  | _, position, [] => ⟨[], position⟩
  | bytes + 1, position, s :: rest =>
    if s.width ≤ bytes + 1 then passBytes (bytes + 1 - s.width) (position.after s) rest
    else ⟨rest, ⟨position.line, position.column + (bytes + 1)⟩⟩
termination_by _ _ rest => rest.length

/-- Fails at a place. -/
def failAt {α : Type} (cause : Cause) (place : Position) (c : Cursor) :
    EStateM.Result Failure Cursor α :=
  .error ⟨cause, some place, []⟩ c

/-- Reads a text up to its closing quote. `skip` symbols belong to an escape
that has been read, `taken` holds the characters so far, last first, and `ill`
the place after the first byte that is not UTF-8. Such bytes are reported only
once the text has ended. -/
def scanText : Nat → List Char → Option Position → Position → List Symbol →
    EStateM.Result Failure Cursor String
  | _, _, _, position, [] => failAt .endInString position ⟨[], position⟩
  | skip + 1, taken, ill, position, s :: rest =>
    scanText skip taken ill (position.after s) rest
  | 0, taken, ill, position, .invalid byte :: rest =>
    let position := position.after (.invalid byte)
    scanText 0 taken (ill.or (some position)) position rest
  | 0, taken, ill, position, .char c :: rest =>
    let position := position.after (.char c)
    if c = '"' then
      match ill with
      | none => .ok (String.ofList taken.reverse) ⟨rest, position⟩
      | some place => failAt .invalidCodePoint place ⟨rest, position⟩
    else if c = '\\' then
      match escape rest with
      | .char c length => scanText length (c :: taken) ill position rest
      | .defect cause bytes =>
        let after := passBytes bytes position rest
        failAt cause after.position after
    else if c.val < 0x20 then failAt .controlCharacter position ⟨rest, position⟩
    else scanText 0 (c :: taken) ill position rest

/-- Passes over a text up to its closing quote. Bytes that are not UTF-8 and
lone surrogates are let through. -/
def skipText : Nat → Position → List Symbol → EStateM.Result Failure Cursor Unit
  | _, position, [] => failAt .endInString position ⟨[], position⟩
  | skip + 1, position, s :: rest => skipText skip (position.after s) rest
  | 0, position, .invalid byte :: rest => skipText 0 (position.after (.invalid byte)) rest
  | 0, position, .char c :: rest =>
    let after := position.after (.char c)
    if c = '"' then .ok () ⟨rest, after⟩
    else if c = '\\' then
      match skippedEscape rest with
      | .char _ length => skipText length after rest
      | .defect cause bytes =>
        let passed := passBytes bytes after rest
        failAt cause passed.position passed
    else if c.val < 0x20 then failAt .controlCharacter position ⟨.char c :: rest, position⟩
    else skipText 0 after rest

namespace Reader

/-- Reads a text whose opening quote has been read. -/
def text : Reader String := fun c => scanText 0 [] none c.position c.rest

/-- Passes over a text whose opening quote has been read. -/
def passText : Reader Unit := fun c => skipText 0 c.position c.rest

end Reader

end AuthGate.Json
