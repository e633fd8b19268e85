import AuthGate.Json.Typed

namespace AuthGate.Json

/-- A step of reading a tree, which knows no places. -/
abbrev TreeReader := Except Mismatch

namespace Value

/-- Fails for a value of another type than expected. -/
def wrongType {α : Type} (expected : String) (v : Value) : TreeReader α :=
  .error (.wrongType v.found expected)

/-- A value as a text. -/
def asText (expected : String) : Value → TreeReader String
  | text s => .ok s
  | v => v.wrongType expected

/-- A value as a natural number of a range. -/
def asNatural (range : NaturalRange) : Value → TreeReader Nat
  | number n => n.natural? range
  | v => v.wrongType range.label

/-- A value as a span. -/
def asSpan (v : Value) : TreeReader Duration :=
  (v.asText "a duration").bind spanOfText

/-- A value as a variant: its name, or an object that maps only its name to
null. -/
def asChoice {α : Type} (variants : List (String × α)) : Value → TreeReader α
  | text name => variantOfText variants name
  | object [(name, v)] => do
    let a ← variantOfText variants name
    match v with
    | null => return a
    | v => v.wrongType "unit"
  | object _ => .error (.badValue .map "map with a single key")
  | v => v.wrongType "string or map"

/-- A value as a list. -/
def asList {α : Type} (read : Value → TreeReader α) : Value → TreeReader (List α)
  | list items => items.mapM read
  | v => v.wrongType "a sequence"

/-- The fields of a record from the items of a list, in order. -/
def fieldItems {α : Type} (shape : Shape TreeReader Value α) :
    List (Field TreeReader Value α) → List Value → Nat → α → TreeReader α
  | [], [], _, a => .ok a
  | [], rest, index, _ => .error (.badLength (index + rest.length) "fewer elements in array")
  | fields, [], index, a => match shape.shortfall? index fields with
    | none => .ok a
    | some m => .error m
  | f :: fields, item :: items, index, a => do
    fieldItems shape fields items (index + 1) (← f.read item a)

/-- The fields of a record from the members of an object. -/
def fieldMembers {α : Type} (shape : Shape TreeReader Value α) :
    List String → List (String × Value) → α → TreeReader α
  | seen, [], a => match shape.missing? seen with
    | none => .ok a
    | some name => .error (.missingField name)
  | seen, (key, v) :: members, a =>
    match shape.fields.find? (·.name = key) with
    | none => fieldMembers shape seen members a
    | some f =>
      if seen.contains key then .error (.duplicateField key)
      else do fieldMembers shape (key :: seen) members (← f.read v a)

/-- A value as a record. The members of an object are taken in the order of
their keys. -/
def asRecord {α : Type} (shape : Shape TreeReader Value α) : Value → TreeReader α
  | list items => fieldItems shape shape.fields items 0 shape.initial
  | object members =>
    fieldMembers shape [] (members.mergeSort fun a b => a.1 ≤ b.1) shape.initial
  | v => v.wrongType s!"struct {shape.name}"

end Value

/-- Documents as trees. -/
def treeFormat : Format TreeReader Value where
  text v := v.asText "a string"
  natural range v := v.asNatural range
  span v := v.asSpan
  choice _ variants v := v.asChoice variants
  list read v := v.asList read
  record shape v := v.asRecord shape

end AuthGate.Json
