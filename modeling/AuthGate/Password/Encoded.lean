import AuthGate.Text.Base64
import AuthGate.Text.Decimal
import AuthGate.Text.Pieces

namespace AuthGate

/-- What is wrong with a value inside an encoded password. -/
inductive PasswordValueDefect where
  | badChar (c : Char)
  | badFormat
  | malformed
  | long
  | short
deriving DecidableEq

/-- The wording of a defect of a value. -/
def PasswordValueDefect.message : PasswordValueDefect → String
  | badChar c => s!"contains invalid character: '{c}'"
  | badFormat => "value format is invalid"
  | malformed => "value malformed"
  | long => "value to long"
  | short => "value to short"

/-- Why a text is no encoded password. -/
inductive PasswordDefect where
  | missingField
  | badName
  | badValue (defect : PasswordValueDefect)
  | manyParameters
  | badSalt (defect : PasswordValueDefect)
  | hashLong
  | hashEncoding
  | hashShort
  | trailing
deriving DecidableEq

/-- The least number of bytes of the hash of a password. -/
def minPasswordHash : Nat := 10

/-- The greatest number of bytes of the hash of a password. -/
def maxPasswordHash : Nat := 64

/-- The wording of a defect. -/
def PasswordDefect.message : PasswordDefect → String
  | missingField => "password hash string missing field"
  | badName => "invalid parameter name"
  | badValue defect => s!"invalid parameter value: {defect.message}"
  | manyParameters => "maximum number of parameters reached"
  | badSalt defect => s!"salt invalid: {defect.message}"
  | hashLong => "invalid Base64 length"
  | hashEncoding => "invalid Base64 encoding"
  | hashShort => s!"output size too short, expected at least {minPasswordHash} bytes"
  | trailing => "password hash string contains trailing characters"

/-- A hashed password as it is stored: the name of the function with its version
and its parameters, the salt in base 64, and the hash. Only the name is always
there. -/
structure EncodedPassword where
  algorithm : String
  version : Option Nat
  parameters : List (String × String)
  salt : Option String
  hash : Option (List UInt8)
deriving DecidableEq

namespace EncodedPassword

/-- The most bytes that the parameters may take up. -/
def maxParameters : Nat := 127

/-- The number of bytes of a text. -/
def byteCount (cs : List Char) : Nat := (String.ofList cs).utf8ByteSize

/-- Whether a character may stand in a name. -/
def isNameChar (c : Char) : Bool := c.isLower || c.isDigit || c = '-'

/-- Whether a character may stand in a value. -/
def isValueChar (c : Char) : Bool :=
  c.isAlphanum || c = '/' || c = '+' || c = '.' || c = '-'

/-- Checks a name: one to 32 characters. -/
def readName (cs : List Char) : Except PasswordDefect String :=
  if cs ≠ [] ∧ cs.length ≤ 32 ∧ cs.all isNameChar then .ok (.ofList cs) else .error .badName

/-- Checks a value of at most 64 bytes. -/
def readValue (cs : List Char) : Except PasswordValueDefect String :=
  if 64 < byteCount cs then .error .long
  else match cs.find? (!isValueChar ·) with
    | some c => .error (.badChar c)
    | none => .ok (.ofList cs)

/-- Reads a number of 32 bits without leading zeros. -/
def readNumber (text : String) : Except PasswordValueDefect Nat :=
  let cs := text.toList
  if cs = [] then .error .malformed
  else match cs.find? (!Char.isDigit ·) with
    | some c => .error (.badChar c)
    | none =>
      let n := Decimal.value cs
      if 1 < cs.length ∧ cs.head? = some '0' ∨ 0x1_0000_0000 ≤ n then .error .badFormat
      else .ok n

/-- Reads a parameter: a name, an equals sign, a value. -/
def readParameter (cs : List Char) : Except PasswordDefect (String × String) :=
  match pieces '=' cs with
  | [] => .error .badName
  | name :: values => do
    let name ← readName name
    match values with
    | [] => throw (.badValue .malformed)
    | value :: rest =>
      let value ← (readValue value).mapError .badValue
      if rest ≠ [] then throw (.badValue .malformed)
      return (name, value)

/-- Reads parameters with commas between. -/
def readParameters (cs : List Char) : Except PasswordDefect (List (String × String)) :=
  if maxParameters < byteCount cs then .error .manyParameters
  else (pieces ',' cs).mapM readParameter

/-- Checks a salt of four bytes or more. -/
def readSalt (cs : List Char) : Except PasswordDefect String :=
  if byteCount cs < 4 then .error (.badSalt .short)
  else (readValue cs).mapError .badSalt

/-- The number of bytes that so many characters of base 64 stand for. -/
def decodedLength (n : Nat) : Nat := n / 4 * 3 + n % 4 * 3 / 4

/-- Reads a hash. -/
def readHash (cs : List Char) : Except PasswordDefect (List UInt8) :=
  if maxPasswordHash < decodedLength (byteCount cs) then .error .hashLong
  else match Base64.decode .standard (.ofList cs) with
    | .error _ => .error .hashEncoding
    | .ok bytes => if bytes.length < minPasswordHash then .error .hashShort else .ok bytes

/-- Takes the version off the front of the fields after the name. A field with a
comma is no version. -/
def takeVersion : List (List Char) → Except PasswordDefect (Option Nat × List (List Char))
  | ('v' :: '=' :: cs) :: fields =>
    if cs.contains ',' then .ok (none, ('v' :: '=' :: cs) :: fields)
    else do
      let version ← ((readValue cs).bind readNumber).mapError .badValue
      return (some version, fields)
  | fields => .ok (none, fields)

/-- Takes the parameters off the front of the fields. They are known by an equals
sign. -/
def takeParameters :
    List (List Char) → Except PasswordDefect (List (String × String) × List (List Char))
  | [] => .ok ([], [])
  | field :: fields =>
    if field.contains '=' then (readParameters field).map (·, fields)
    else .ok ([], field :: fields)

/-- Reads an encoded password: fields with a dollar sign before each. -/
def ofText (text : String) : Except PasswordDefect EncodedPassword :=
  match pieces '$' text.toList with
  | [] :: name :: fields => do
    let algorithm ← readName name
    let (version, fields) ← takeVersion fields
    let (parameters, fields) ← takeParameters fields
    match fields with
    | [] => return ⟨algorithm, version, parameters, none, none⟩
    | [salt] => return ⟨algorithm, version, parameters, some (← readSalt salt), none⟩
    | salt :: hash :: rest =>
      let salt ← readSalt salt
      let hash ← readHash hash
      if rest ≠ [] then throw .trailing
      return ⟨algorithm, version, parameters, some salt, some hash⟩
  | _ => .error .missingField

/-- The fields of an encoded password. -/
def fields (e : EncodedPassword) : List String :=
  [e.algorithm] ++ (e.version.map fun v => "v=" ++ .ofList (Decimal.digits v)).toList
    ++ (if e.parameters = [] then []
      else [",".intercalate (e.parameters.map fun (name, value) => s!"{name}={value}")])
    ++ e.salt.toList ++ (e.hash.map (Base64.encode .standard)).toList

/-- The text of an encoded password. -/
def text (e : EncodedPassword) : String := String.join (e.fields.map ("$" ++ ·))

end EncodedPassword

end AuthGate
