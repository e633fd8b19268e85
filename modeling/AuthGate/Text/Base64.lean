import AuthGate.Text.Utf8

namespace AuthGate.Base64

/-- Which two characters come after the letters and digits. -/
inductive Alphabet where
  | standard
  | urlSafe
deriving DecidableEq

namespace Alphabet

/-- The character for 62. -/
def plus : Alphabet → Char
  | standard => '+'
  | urlSafe => '-'

/-- The character for 63. -/
def slash : Alphabet → Char
  | standard => '/'
  | urlSafe => '_'

/-- The character for a number below sixty-four. -/
def encode (alphabet : Alphabet) (sextet : Nat) : Char :=
  if sextet < 26 then Char.ofNat ('A'.toNat + sextet)
  else if sextet < 52 then Char.ofNat ('a'.toNat + (sextet - 26))
  else if sextet < 62 then Char.ofNat ('0'.toNat + (sextet - 52))
  else if sextet = 62 then alphabet.plus
  else alphabet.slash

/-- The number below sixty-four that a byte stands for. -/
def decode? (alphabet : Alphabet) (byte : UInt8) : Option Nat :=
  let n := byte.toNat
  if 'A'.toNat ≤ n ∧ n ≤ 'Z'.toNat then some (n - 'A'.toNat)
  else if 'a'.toNat ≤ n ∧ n ≤ 'z'.toNat then some (n - 'a'.toNat + 26)
  else if '0'.toNat ≤ n ∧ n ≤ '9'.toNat then some (n - '0'.toNat + 52)
  else if n = alphabet.plus.toNat then some 62
  else if n = alphabet.slash.toNat then some 63
  else none

end Alphabet

/-- The characters of a byte text, four for three bytes, without padding. -/
def encodeChars (alphabet : Alphabet) : List UInt8 → List Char
  | a :: b :: c :: rest =>
    let n := (a.toNat * 256 + b.toNat) * 256 + c.toNat
    alphabet.encode (n / 262144) :: alphabet.encode (n / 4096 % 64)
      :: alphabet.encode (n / 64 % 64) :: alphabet.encode (n % 64) :: encodeChars alphabet rest
  | [a, b] =>
    let n := (a.toNat * 256 + b.toNat) * 4
    [alphabet.encode (n / 4096), alphabet.encode (n / 64 % 64), alphabet.encode (n % 64)]
  | [a] =>
    let n := a.toNat * 16
    [alphabet.encode (n / 64), alphabet.encode (n % 64)]
  | [] => []

/-- The text of a byte text, four characters for three bytes, without padding. -/
def encode (alphabet : Alphabet) (bytes : List UInt8) : String :=
  String.ofList (encodeChars alphabet bytes)

/-- Why a text is no byte text. Offsets count bytes. -/
inductive Defect where
  | symbol (byte : UInt8) (offset : Nat)
  | length (n : Nat)
  | lastSymbol (byte : UInt8) (offset : Nat)
  | padding
deriving DecidableEq

/-- The wording of a defect. -/
def Defect.message : Defect → String
  | symbol byte offset => s!"Invalid symbol {byte.toNat}, offset {offset}."
  | length n => s!"Invalid input length: {n}"
  | lastSymbol byte offset => s!"Invalid last symbol {byte.toNat}, offset {offset}."
  | padding => "Invalid padding"

/-- The padding byte, an equals sign. -/
def padByte : UInt8 := 61

/-- The last symbols of a text: their values with the bytes that wrote them, and
the offset of the first padding. -/
structure Tail where
  sextets : List (Nat × UInt8)
  paddedAt : Option Nat

/-- Reads the symbols of the last group, the first of which has the offset
`start`. Padding may stand only after two symbols, and only padding after it. -/
def readTail (alphabet : Alphabet) (start : Nat) : Nat → Tail → List UInt8 → Except Defect Tail
  | _, tail, [] => .ok tail
  | index, tail, byte :: bytes =>
    if byte = padByte then
      if index < 2 then .error (.symbol byte (start + index))
      else readTail alphabet start (index + 1)
        { tail with paddedAt := tail.paddedAt.or (some index) } bytes
    else match tail.paddedAt with
      | some padded => .error (.symbol padByte (start + padded))
      | none => match alphabet.decode? byte with
        | none => .error (.symbol byte (start + index))
        | some n => readTail alphabet start (index + 1)
          { tail with sextets := tail.sextets ++ [(n, byte)] } bytes

/-- The bytes of the last group. Bits that belong to no byte have to be zero,
and there may be no padding. -/
def decodeTail (alphabet : Alphabet) (start : Nat) (bytes : List UInt8) :
    Except Defect (List UInt8) := do
  let tail ← readTail alphabet start 0 ⟨[], none⟩ bytes
  if tail.sextets.length < 2 ∧ (bytes ≠ [] ∨ start ≠ 0) then
    throw (.length (start + tail.sextets.length))
  if tail.paddedAt.isSome then throw .padding
  match tail.sextets with
  | [(a, _), (b, byte)] =>
    if b % 16 ≠ 0 then throw (.lastSymbol byte (start + 1))
    return [UInt8.ofNat (a * 4 + b / 16)]
  | [(a, _), (b, _), (c, byte)] =>
    if c % 4 ≠ 0 then throw (.lastSymbol byte (start + 2))
    return [UInt8.ofNat (a * 4 + b / 16), UInt8.ofNat (b % 16 * 16 + c / 4)]
  | [(a, _), (b, _), (c, _), (d, _)] =>
    return [UInt8.ofNat (a * 4 + b / 16), UInt8.ofNat (b % 16 * 16 + c / 4),
      UInt8.ofNat (c % 4 * 64 + d)]
  | _ => return []

/-- The value of a byte, or a defect at its offset. -/
def sextet (alphabet : Alphabet) (byte : UInt8) (offset : Nat) : Except Defect Nat :=
  match alphabet.decode? byte with
  | some n => .ok n
  | none => .error (.symbol byte offset)

/-- The bytes of the groups from the offset `start` on. The last group is the
only one that may be short. -/
def decodeFrom (alphabet : Alphabet) (start : Nat) : List UInt8 → Except Defect (List UInt8)
  | a :: b :: c :: d :: next :: rest => do
    let a ← sextet alphabet a start
    let b ← sextet alphabet b (start + 1)
    let c ← sextet alphabet c (start + 2)
    let d ← sextet alphabet d (start + 3)
    let bytes ← decodeFrom alphabet (start + 4) (next :: rest)
    return UInt8.ofNat (a * 4 + b / 16) :: UInt8.ofNat (b % 16 * 16 + c / 4)
      :: UInt8.ofNat (c % 4 * 64 + d) :: bytes
  | tail => decodeTail alphabet start tail

/-- The byte text that a text encodes. A single symbol past the last group is
reported before anything else if it is no symbol at all. -/
def decode (alphabet : Alphabet) (text : String) : Except Defect (List UInt8) :=
  let bytes := utf8 text
  match bytes.getLast? with
  | some last =>
    if bytes.length % 4 = 1 ∧ last ≠ padByte ∧ (alphabet.decode? last).isNone then
      .error (.symbol last (bytes.length - 1))
    else decodeFrom alphabet 0 bytes
  | none => .ok []

end AuthGate.Base64
