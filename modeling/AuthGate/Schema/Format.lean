import AuthGate.Schema.Mismatch
import AuthGate.Time.Span

namespace AuthGate

/-- A range of natural numbers, with the name that messages call it by. -/
structure NaturalRange where
  bits : Nat
  label : String

namespace NaturalRange

/-- The first number past a range. -/
def limit (range : NaturalRange) : Nat := 1 <<< range.bits

/-- Sixteen bits. -/
def bits16 : NaturalRange := ⟨16, "u16"⟩

/-- Thirty-two bits. -/
def bits32 : NaturalRange := ⟨32, "u32"⟩

/-- Sixty-four bits. -/
def bits64 : NaturalRange := ⟨64, "u64"⟩

/-- Sixty-four bits that count or size something. -/
def size : NaturalRange := ⟨64, "usize"⟩

end NaturalRange

/-- A field of a record. Reading it takes the value of the field in a document
and sets the field in the record read so far. -/
structure Field (m : Type → Type) (ν α : Type) where
  name : String
  required : Bool
  read : ν → α → m α

/-- How a record is read: its type's name, its fields in order, and the record
that a document without any field stands for. -/
structure Shape (m : Type → Type) (ν α : Type) where
  name : String
  fields : List (Field m ν α)
  initial : α

namespace Shape

variable {m : Type → Type} {ν α : Type}

/-- The record as a list of its fields, for a message. -/
def asList (shape : Shape m ν α) : String :=
  let count := shape.fields.length
  s!"struct {shape.name} with {count} element" ++ if count = 1 then "" else "s"

/-- The first required field that is not among the ones seen. -/
def missing? (shape : Shape m ν α) (seen : List String) : Option String :=
  (shape.fields.find? fun f => f.required && !seen.contains f.name).map (·.name)

/-- How a list is short that ends before the fields given, the first of which is
number `index`. Fields that are not required may be left out at the end. -/
def shortfall? (shape : Shape m ν α) (index : Nat) (fields : List (Field m ν α)) :
    Option Mismatch :=
  (fields.findIdx? (·.required)).map fun i => .badLength (index + i) shape.asList

end Shape

/-- A text as a span. -/
def spanOfText (text : String) : Except Mismatch Duration :=
  match Duration.parse text with
  | .ok d => .ok d
  | .error .malformed => .error (.badValue (.text text) "a duration")
  | .error .overflow => .error .spanOverflow

/-- A kind of document that records are read from. `ν` is a place in a document,
`m` keeps track of defects. -/
structure Format (m : Type → Type) (ν : Type) where
  text : ν → m String
  natural : NaturalRange → ν → m Nat
  span : ν → m Duration
  choice : {α : Type} → String → List (String × α) → ν → m α
  list : {α : Type} → (ν → m α) → ν → m (List α)
  record : {α : Type} → Shape m ν α → ν → m α

end AuthGate
