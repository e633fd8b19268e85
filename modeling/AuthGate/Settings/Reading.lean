import AuthGate.Settings.App
import AuthGate.Settings.Tree

namespace AuthGate

/-- What is wrong with a setting. -/
inductive SettingCause where
  | unusable (found : Found) (expected : String)
  | large (n bits : Nat)
  | missing (name : String)
  | unknownVariant (type name : String)
  | noVariant (type : String)
  | mismatch (m : Mismatch)

/-- A defect of a setting: its cause, the path to it, and where the setting comes
from, if that is told. -/
structure SettingFailure where
  cause : SettingCause
  path : List SettingStep
  origin : Option String

/-- A path as a text. -/
def renderPath : List SettingStep → String
  | [] => ""
  | .key name :: path =>
    let rest := renderPath path
    if rest = "" ∨ rest.startsWith "[" then name ++ rest else name ++ "." ++ rest
  | .index n :: path => s!"[{n}]" ++ renderPath path

namespace SettingFailure

/-- What was found where something of another kind was needed. -/
def describeFound : Found → String
  | .null => "unit value"
  | .float x =>
    let text := FloatText.positional x
    "floating point `" ++ (if text.contains '.' then text else text ++ ".0") ++ "`"
  | found => found.describe

/-- What was found where a number or a text could not be made of it. -/
def describeUnusable : Found → String
  | .integer n => s!"64-bit integer `{n}`"
  | found => describeFound found

/-- The wording of a mismatch. -/
def describeMismatch : Mismatch → String
  | .wrongType found expected => s!"invalid type: {describeFound found}, expected {expected}"
  | m => m.message

/-- The wording of a defect. -/
def message (f : SettingFailure) : String :=
  let located (text : String) : String :=
    text ++ (if f.path = [] then "" else s!" for key `{renderPath f.path}`")
      ++ match f.origin with
        | some origin => s!" in {origin}"
        | none => ""
  match f.cause with
  | .unusable found expected =>
    located s!"invalid type: {describeUnusable found}, expected {expected}"
  | .large n bits => located (s!"invalid type: 64-bit unsigned integer `{n}`, expected an "
      ++ s!"unsigned {bits} bit integer")
  | .missing name =>
    "missing configuration field " ++ quoted (renderPath (f.path ++ [.key name]))
  | .unknownVariant type name =>
    located s!"enum {type} does not have variant constructor {name}"
  | .noVariant type => located (s!"value of enum {type} should be represented by either string "
      ++ "or table with exactly one key")
  | .mismatch m => located (describeMismatch m)

end SettingFailure

/-- A step of reading settings. -/
abbrev SettingReader := Except SettingFailure

namespace Setting

/-- Fails without a path or an origin. -/
def fail {α : Type} (cause : SettingCause) : SettingReader α := .error ⟨cause, [], none⟩

/-- Reads a part of a setting. Its failures get the step to it in front. -/
def within {α : Type} (step : SettingStep) (read : SettingReader α) : SettingReader α :=
  read.mapError fun f => { f with path := step :: f.path }

/-- A setting as what was found. -/
def found : Setting → Found
  | scalar _ .null => .null
  | scalar _ (.boolean b) => .boolean b
  | scalar _ (.integer n) => .integer n
  | scalar _ (.float x) => .float x
  | scalar _ (.text s) => .text s
  | list .. => .sequence
  | table .. => .map

/-- Fails for a setting that no number or text can be made of. -/
def unusable {α : Type} (expected : String) (s : Setting) : SettingReader α :=
  .error ⟨.unusable s.found expected, [], s.origin⟩

/-- Fails for a setting of another kind than needed. -/
def wrongKind {α : Type} (expected : String) (s : Setting) : SettingReader α :=
  fail (.mismatch (.wrongType s.found expected))

/-- A setting as a text. Every scalar is one. -/
def toText : Setting → SettingReader String
  | scalar _ (.text s) => .ok s
  | scalar _ (.boolean b) => .ok (toString b)
  | scalar _ (.integer n) => .ok (Decimal.signed n)
  | scalar _ (.float x) => .ok (FloatText.positional x)
  | s => s.unusable "a string"

/-- A text as a natural number of 64 bits: digits, perhaps behind a plus, or a
word for yes or no. -/
def natural? (text : String) : Option Nat :=
  let word := lowerAscii text
  if word = "true" ∨ word = "on" ∨ word = "yes" then some 1
  else if word = "false" ∨ word = "off" ∨ word = "no" then some 0
  else
    let ds := match text.toList with
      | '+' :: ds => ds
      | ds => ds
    (Decimal.ofDigits? ds).filter (· < 0x1_0000_0000_0000_0000)

/-- A setting as a natural number of 64 bits. A float is rounded, a half away from
zero, and kept in range. -/
def toNatural (s : Setting) : SettingReader Nat :=
  match s with
  | scalar _ (.integer n) =>
    if 0 ≤ n then .ok n.toNat else s.unusable "an unsigned 64 bit or less integer"
  | scalar _ (.float x) => .ok x.round.toUInt64.toNat
  | scalar _ (.boolean b) => .ok b.toNat
  | scalar _ (.text text) => match natural? text with
    | some n => .ok n
    | none => s.unusable "an integer"
  | s => s.unusable "an integer"

/-- A setting as a natural number of a range. -/
def toRange (range : NaturalRange) (s : Setting) : SettingReader Nat := do
  let n ← s.toNatural
  if n < range.limit then return n else fail (.large n range.bits)

/-- A setting as a span. -/
def toSpan (s : Setting) : SettingReader Duration := do
  match spanOfText (← s.toText) with
  | .ok d => return d
  | .error m => fail (.mismatch m)

/-- A setting as a variant: its name, or a table with its name as the only
key. -/
def toChoice {α : Type} (type : String) (variants : List (String × α)) :
    Setting → SettingReader α
  | scalar _ (.text name) => variant name
  | table _ [(name, _)] => variant name
  | _ => fail (.noVariant type)
where
  /-- The variant of a name. -/
  variant (name : String) : SettingReader α :=
    match variants.find? (·.1 = name) with
    | some (_, a) => .ok a
    | none => fail (.unknownVariant type name)

/-- Reads the items of a list, the first of which has the number given. -/
def readItems {α : Type} (read : Setting → SettingReader α) :
    Nat → List Setting → SettingReader (List α)
  | _, [] => .ok []
  | index, item :: items => do
    let a ← within (.index index) (read item)
    return a :: (← readItems read (index + 1) items)

/-- A setting as a list. -/
def toList {α : Type} (read : Setting → SettingReader α) : Setting → SettingReader (List α)
  | list _ items => readItems read 0 items
  | s => s.wrongKind "a sequence"

/-- The fields of a record from the items of a list, in order. Items past the
last field are ignored. -/
def fieldItems {α : Type} (shape : Shape SettingReader Setting α) :
    List (Field SettingReader Setting α) → Nat → List Setting → α → SettingReader α
  | [], _, _, a => .ok a
  | fields, index, [], a => match shape.shortfall? index fields with
    | none => .ok a
    | some m => fail (.mismatch m)
  | f :: fields, index, item :: items, a => do
    fieldItems shape fields (index + 1) items (← within (.index index) (f.read item a))

/-- The fields of a record from the members of a table. -/
def fieldMembers {α : Type} (shape : Shape SettingReader Setting α)
    (members : List (String × Setting)) (a : α) : SettingReader α := do
  let a ← shape.fields.foldlM (fun a f => match member? f.name members with
    | some s => within (.key f.name) (f.read s a)
    | none => .ok a) a
  match shape.missing? (members.map (·.1)) with
  | some name => fail (.missing name)
  | none => return a

/-- A setting as a record. -/
def toRecord {α : Type} (shape : Shape SettingReader Setting α) : Setting → SettingReader α
  | list _ items => fieldItems shape shape.fields 0 items shape.initial
  | table _ members => fieldMembers shape members shape.initial
  | s => s.wrongKind s!"struct {shape.name}"

end Setting

/-- Settings as documents. -/
def settingFormat : Format SettingReader Setting where
  text s := s.toText
  natural range s := s.toRange range
  span s := s.toSpan
  choice type variants s := s.toChoice type variants
  list read s := s.toList read
  record shape s := s.toRecord shape

end AuthGate
