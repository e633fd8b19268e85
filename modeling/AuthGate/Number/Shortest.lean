import AuthGate.Text.Decimal

namespace AuthGate

/-- A positive number `coefficient * 10 ^ exponent`. -/
structure Scientific where
  coefficient : Nat
  exponent : Int
deriving DecidableEq

/-- A binary floating-point number without its sign. -/
inductive Magnitude where
  | zero
  | finite (mantissa : Nat) (exponent : Int)
  | infinite
  | notANumber

namespace Magnitude

/-- The magnitude that the 64 bits of a float encode: 11 bits of exponent and
52 bits of mantissa below the sign. -/
def ofFloat (x : Float) : Magnitude :=
  let bits : Nat := x.toBits.toNat
  let mantissa : Nat := bits % 0x10_0000_0000_0000
  let exponent : Nat := bits / 0x10_0000_0000_0000 % 2048
  if exponent = 2047 then if mantissa = 0 then infinite else notANumber
  else if exponent = 0 then if mantissa = 0 then zero else finite mantissa (-1074)
  else finite (mantissa + 0x10_0000_0000_0000) ((exponent : Int) - 1075)

/-- The interval of numbers that round to `mantissa * 2 ^ exponent`, as bounds
around the number over one denominator. The lower neighbour of a power of two
is only half as far away as the upper one. -/
structure Rounding where
  low : Nat
  middle : Nat
  high : Nat
  denominator : Nat
  closed : Bool

/-- The numbers that round to `mantissa * 2 ^ exponent`. -/
def rounding (mantissa : Nat) (exponent : Int) : Rounding :=
  let scale := 1 <<< (exponent - 2).toNat
  let below := if mantissa = 0x10_0000_0000_0000 ∧ -1074 < exponent then 1 else 2
  ⟨(4 * mantissa - below) * scale, 4 * mantissa * scale, (4 * mantissa + 2) * scale,
    1 <<< (2 - exponent).toNat, mantissa % 2 = 0⟩

/-- The power of ten of the leading digit of `numerator / denominator`. A
fraction below one is searched for among its first `fuel` places. -/
def leadingPower (numerator denominator : Nat) : Nat → Int
  | 0 => 0
  | fuel + 1 =>
    if denominator ≤ numerator then
      ((Decimal.digits (numerator / denominator)).length : Int) - 1
    else leadingPower (numerator * 10) denominator fuel - 1

/-- The points of the grid of `10 ^ exponent` next to the middle of an interval
and inside it, the nearer one first. An exact tie goes to the even point. -/
def onGrid (r : Rounding) (exponent : Int) : Option Nat :=
  let up := Nat.pow 10 exponent.toNat
  let down := Nat.pow 10 (-exponent).toNat
  let step := up * r.denominator
  let below := r.middle * down / step
  let inside (c : Nat) : Bool :=
    let x := c * step
    if r.closed then r.low * down ≤ x && x ≤ r.high * down
    else r.low * down < x && x < r.high * down
  let toBelow := r.middle * down - below * step
  let toAbove := (below + 1) * step - r.middle * down
  let belowFirst := toBelow < toAbove || (toBelow = toAbove && below % 2 = 0)
  let candidates := if belowFirst then [below, below + 1] else [below + 1, below]
  candidates.find? inside

/-- The shortest decimal on the grids from `10 ^ power` on down. -/
def firstOnGrid (r : Rounding) (power : Int) : Nat → Scientific
  | 0 => ⟨r.middle / r.denominator, 0⟩
  | fuel + 1 =>
    match onGrid r power with
    | some c => ⟨c, power⟩
    | none => firstOnGrid r (power - 1) fuel

/-- The decimal with the fewest digits that rounds back to
`mantissa * 2 ^ exponent`, and the nearest of those. Seventeen digits always
suffice. -/
def shortest (mantissa : Nat) (exponent : Int) : Scientific :=
  let r := rounding mantissa exponent
  firstOnGrid r (leadingPower r.middle r.denominator 330) 17

end Magnitude

namespace Scientific

/-- The significant digits of a number and the power of ten of the first one. -/
def leading (s : Scientific) : List Char × Int :=
  let ds := Decimal.digits s.coefficient
  (Decimal.dropTrailingZeros ds, s.exponent + ds.length - 1)

/-- Positional notation without an exponent. A whole number has no point. -/
def positional (s : Scientific) : List Char :=
  let (ds, power) := s.leading
  if power < 0 then '0' :: '.' :: List.replicate (-power - 1).toNat '0' ++ ds
  else
    let whole := ds.take (power.toNat + 1)
    let fraction := ds.drop (power.toNat + 1)
    whole ++ List.replicate (power.toNat + 1 - whole.length) '0'
      ++ if fraction = [] then [] else '.' :: fraction

/-- One digit, a fraction if there are more, and the exponent with its sign and
at least two digits. -/
def exponential (s : Scientific) : List Char :=
  let (ds, power) := s.leading
  ds.take 1 ++ (if ds.length ≤ 1 then [] else '.' :: ds.drop 1)
    ++ 'e' :: (if power < 0 then '-' else '+') :: Decimal.padded 2 power.natAbs

end Scientific

namespace FloatText

/-- Whether the sign bit of a float is set, for zeros too. -/
def hasSign (x : Float) : Bool := 0x8000_0000_0000_0000 ≤ x.toBits.toNat

/-- The shortest text that reads back as the float. Between `10 ^ -5` and
`10 ^ 16` it is positional with at least one digit after the point, elsewhere
exponential. -/
def shortest (x : Float) : String :=
  let sign := if hasSign x then ['-'] else []
  match Magnitude.ofFloat x with
  | .zero => String.ofList (sign ++ ['0', '.', '0'])
  | .infinite => String.ofList (sign ++ ['i', 'n', 'f'])
  | .notANumber => "NaN"
  | .finite m e =>
    let s := Magnitude.shortest m e
    let power := s.leading.2
    String.ofList (sign ++
      if -5 ≤ power ∧ power ≤ 15 then
        if s.positional.contains '.' then s.positional else s.positional ++ ['.', '0']
      else s.exponential)

/-- The shortest positional text that reads back as the float, whole numbers
without a point. -/
def positional (x : Float) : String :=
  let sign := if hasSign x then ['-'] else []
  match Magnitude.ofFloat x with
  | .zero => String.ofList (sign ++ ['0'])
  | .infinite => String.ofList (sign ++ ['i', 'n', 'f'])
  | .notANumber => "NaN"
  | .finite m e => String.ofList (sign ++ (Magnitude.shortest m e).positional)

end FloatText

end AuthGate
