import AuthGate.Number.Reading
import AuthGate.Text.Pieces
import AuthGate.Toml.Moment
import AuthGate.Toml.Text

namespace AuthGate.Toml

/-- A value of a settings document. The members of a table have different
keys. -/
inductive Value where
  | text (s : String)
  | integer (n : Int)
  | float (x : Float)
  | boolean (b : Bool)
  | moment (m : Moment)
  | list (items : List Value)
  | table (members : List (String × Value))

instance : Inhabited Value := ⟨.table []⟩

/-- Digits without the underscores between them. An underscore has a digit on
either side. -/
def ungroup? (isDigit : Char → Bool) (cs : List Char) : Option (List Char) :=
  let groups := pieces '_' cs
  if groups.all fun group => group ≠ [] ∧ group.all isDigit then some groups.flatten else none

/-- Decimal digits without a zero in front. -/
def wholeDigits? (cs : List Char) : Option (List Char) := do
  let ds ← ungroup? Char.isDigit cs
  if 1 < ds.length ∧ ds.head? = some '0' then none else return ds

/-- The digits that a base below ten has, and those of base sixteen. -/
def isDigitOf (base : Nat) (c : Char) : Bool := (hexValue? c).any (· < base)

/-- The value of digits in a base. -/
def valueIn (base : Nat) (ds : List Char) : Nat :=
  (ds.filterMap hexValue?).foldl (fun n d => n * base + d) 0

/-- Reads an integer. One in another base than ten has a mark in front and no
sign. -/
def readInteger? (cs : List Char) : Option Int :=
  let inBase (base : Nat) (cs : List Char) : Option Int := do
    Decimal.inWord? (valueIn base (← ungroup? (isDigitOf base) cs))
  match cs with
  | '0' :: 'x' :: cs => inBase 16 cs
  | '0' :: 'o' :: cs => inBase 8 cs
  | '0' :: 'b' :: cs => inBase 2 cs
  | cs => do
    let (negative, cs) := FloatText.takeSign cs
    let n : Int := Decimal.value (← wholeDigits? cs)
    Decimal.inWord? (if negative then -n else n)

/-- Whether a character is a digit or groups digits. -/
def isGrouped (c : Char) : Bool := c.isDigit || c = '_'

/-- Reads the exponent of a float, from its letter on. -/
def readExponent? : List Char → Option Int
  | [] => none
  | c :: cs =>
    if c = 'e' ∨ c = 'E' then do
      let (negative, cs) := FloatText.takeSign cs
      let n : Int := Decimal.value (← ungroup? Char.isDigit cs)
      return if negative then -n else n
    else none

/-- Reads a float: a number with a fraction or an exponent or both, or a word for
infinity or for what is no number. A number past the range is no float. -/
def readFloat? (cs : List Char) : Option Float := do
  let (negative, cs) := FloatText.takeSign cs
  if cs = ['i', 'n', 'f'] then return FloatText.withSign negative (1.0 / 0.0)
  else if cs = ['n', 'a', 'n'] then return 0.0 / 0.0
  else
    let whole ← wholeDigits? (cs.takeWhile isGrouped)
    let written : FloatText.Written ← match cs.dropWhile isGrouped with
      | '.' :: rest => do
        let fraction ← ungroup? Char.isDigit (rest.takeWhile isGrouped)
        let rest := rest.dropWhile isGrouped
        let exponent ← if rest = [] then some 0 else readExponent? rest
        pure ⟨whole, fraction, exponent⟩
      | rest => (readExponent? rest).map fun exponent => ⟨whole, [], exponent⟩
    if written.toFloat.isInf then none
    else return FloatText.withSign negative written.toFloat

/-- Reads a scalar without quotes. -/
def readScalar? (cs : List Char) : Option Value :=
  if cs = ['t', 'r', 'u', 'e'] then some (.boolean true)
  else if cs = ['f', 'a', 'l', 's', 'e'] then some (.boolean false)
  else match readInteger? cs with
    | some n => some (.integer n)
    | none => match readFloat? cs with
      | some x => some (.float x)
      | none => (Moment.read? cs).map .moment

/-- Whether a character may stand in a scalar without quotes. -/
def isScalarChar (c : Char) : Bool :=
  c.isAlphanum || c = '+' || c = '-' || c = '_' || c = '.' || c = ':'

/-- Takes a scalar without quotes off the front of a document. A date may have a
time behind a blank. -/
def takeScalar? (cs : List Char) : Option (Value × List Char) :=
  let word := cs.takeWhile isScalarChar
  match cs.dropWhile isScalarChar with
  | ' ' :: d :: rest =>
    if Moment.isDate word ∧ d.isDigit then
      let time := (d :: rest).takeWhile isScalarChar
      (readScalar? (word ++ ' ' :: time)).map (·, (d :: rest).dropWhile isScalarChar)
    else (readScalar? word).map (·, ' ' :: d :: rest)
  | rest => (readScalar? word).map (·, rest)

/-- Passes over space, newlines and comments. A carriage return has to belong to
a newline. -/
def skipLines (inComment : Bool) : List Char → Option (List Char)
  | [] => some []
  | '\n' :: cs => skipLines false cs
  | '\r' :: '\n' :: cs => skipLines false cs
  | c :: cs =>
    if inComment then if isPlain c then skipLines true cs else none
    else if isSpace c then skipLines false cs
    else if c = '#' then skipLines true cs
    else some (c :: cs)

/-- Passes over the space inside a line. -/
def skipSpace (cs : List Char) : List Char := cs.dropWhile isSpace

/-- A reader at the front of a document. -/
abbrev Scanner := StateT (List Char) Option

namespace Scanner

/-- The next character, which stays. -/
def peek : Scanner (Option Char) := do return (← get).head?

/-- Takes one given character. -/
def mark (c : Char) : Scanner Unit := fun cs => (takeMark? c cs).map ((), ·)

/-- Passes over the space inside a line. -/
def space : Scanner Unit := modify skipSpace

/-- Passes over space, newlines and comments. -/
def lines : Scanner Unit := fun cs => (skipLines false cs).map ((), ·)

/-- Reads a key: one or more parts with points between. -/
def keyParts : Nat → Scanner (List String)
  | 0 => failure
  | fuel + 1 => do
    space
    let part ← takeKey?
    space
    if (← peek) = some '.' then
      mark '.'
      return part :: (← keyParts fuel)
    else return [part]

/-- Reads a key. -/
def key : Scanner (List String) := do keyParts (← get).length

/-- Reads the items of a list up to its closing bracket. -/
def items (value : Scanner Value) : Nat → Scanner (List Value)
  | 0 => failure
  | fuel + 1 => do
    lines
    if (← peek) = some ']' then
      mark ']'
      return []
    else
      let item ← value
      lines
      if (← peek) = some ',' then
        mark ','
        return item :: (← items value fuel)
      else
        mark ']'
        return [item]

/-- Reads the pairs of a table on one line up to its closing brace. -/
def pairs (value : Scanner Value) : Nat → Scanner (List (List String × Value))
  | 0 => failure
  | fuel + 1 => do
    lines
    if (← peek) = some '}' then
      mark '}'
      return []
    else
      let key ← key
      mark '='
      space
      let item ← value
      lines
      if (← peek) = some ',' then
        mark ','
        return (key, item) :: (← pairs value fuel)
      else
        mark '}'
        return [(key, item)]

end Scanner

end AuthGate.Toml
