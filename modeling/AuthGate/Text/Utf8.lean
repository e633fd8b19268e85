namespace AuthGate

/-- The bytes of a text in UTF-8. -/
def utf8 (text : String) : List UInt8 := text.toList.flatMap String.utf8EncodeChar

/-- A unit of a byte text: a character where the bytes are well-formed UTF-8, a
single byte where they are not. -/
inductive Symbol where
  | char (c : Char)
  | invalid (byte : UInt8)
deriving DecidableEq

namespace Symbol

/-- The number of bytes of a symbol. -/
def width : Symbol → Nat
  | char c => c.utf8Size
  | invalid _ => 1

/-- The character of a symbol. -/
def char? : Symbol → Option Char
  | char c => some c
  | invalid _ => none

end Symbol

/-- The character that a byte text starts with. -/
def firstChar? (bytes : List UInt8) : Option Char :=
  (bytes.take 4).toByteArray.utf8DecodeChar? 0

/-- Reads a byte text after passing over `skip` bytes that belong to the
character before. -/
def symbolsAfter : Nat → List UInt8 → List Symbol
  | _, [] => []
  | skip + 1, _ :: bytes => symbolsAfter skip bytes
  | 0, byte :: bytes =>
    match firstChar? (byte :: bytes) with
    | some c => .char c :: symbolsAfter (c.utf8Size - 1) bytes
    | none => .invalid byte :: symbolsAfter 0 bytes

/-- The symbols of a byte text. -/
def symbols (bytes : List UInt8) : List Symbol := symbolsAfter 0 bytes

/-- The text of a byte text, if all of it is well-formed. -/
def text? (bytes : List UInt8) : Option String :=
  ((symbols bytes).mapM Symbol.char?).map String.ofList

theorem symbolsAfter_append {skipped bytes : List UInt8} :
    symbolsAfter skipped.length (skipped ++ bytes) = symbolsAfter 0 bytes := by
  induction skipped with
  | nil => rfl
  | cons byte rest ih => exact ih

theorem firstChar?_encode_append (c : Char) (bytes : List UInt8) :
    firstChar? (String.utf8EncodeChar c ++ bytes) = some c := by
  have hsize : (String.utf8EncodeChar c).length ≤ 4 := by
    rw [String.length_utf8EncodeChar]
    exact c.utf8Size_le_four
  rw [firstChar?, List.take_append, List.take_of_length_le hsize, List.toByteArray_append]
  exact ByteArray.utf8DecodeChar?_utf8EncodeChar_append

theorem symbols_encode_append (c : Char) (bytes : List UInt8) :
    symbols (String.utf8EncodeChar c ++ bytes) = .char c :: symbols bytes := by
  have hfirst := firstChar?_encode_append c bytes
  have hlength := String.length_utf8EncodeChar c
  match hbytes : String.utf8EncodeChar c with
  | [] =>
    have := c.utf8Size_pos
    rw [hbytes] at hlength
    exact absurd hlength (by simp; omega)
  | byte :: rest =>
    rw [hbytes] at hfirst hlength
    change symbolsAfter 0 (byte :: (rest ++ bytes)) = _
    rw [symbolsAfter, show byte :: (rest ++ bytes) = byte :: rest ++ bytes from rfl, hfirst]
    have : c.utf8Size - 1 = rest.length := by
      rw [← hlength]
      rfl
    simp only [this, symbolsAfter_append]
    rfl

/-- Reading the bytes of a text gives its characters back. -/
theorem symbols_utf8 (text : String) : symbols (utf8 text) = text.toList.map .char := by
  unfold utf8
  induction text.toList with
  | nil => rfl
  | cons c cs ih => rw [List.flatMap_cons, symbols_encode_append, ih, List.map_cons]

end AuthGate
