import AuthGate.Text.Decimal
import AuthGate.Text.Hex

namespace AuthGate

/-- An address of the internet protocol: four bytes, or eight groups of two. -/
inductive IpAddress where
  | v4 (a b c d : Nat)
  | v6 (groups : List Nat)
deriving DecidableEq

namespace IpAddress

/-- Every address of the machine. -/
def unspecified : IpAddress := v4 0 0 0 0

/-- A byte in decimal, of at most three digits and without a leading zero, at
the front of a text, and the text after it. -/
def takeByte (cs : List Char) : Option (Nat × List Char) :=
  let ds := cs.takeWhile Char.isDigit
  let n := Decimal.value ds
  if ds = [] ∨ 3 < ds.length ∨ (1 < ds.length ∧ ds.head? = some '0') ∨ 255 < n then none
  else some (n, cs.drop ds.length)

/-- Takes one given character off the front of a text. -/
def takeChar (expected : Char) : List Char → Option (List Char)
  | [] => none
  | c :: cs => if c = expected then some cs else none

/-- Four bytes with points between at the front of a text, and the text after
them. -/
def takeV4 (cs : List Char) : Option ((Nat × Nat × Nat × Nat) × List Char) := do
  let (a, cs) ← takeByte cs
  let (b, cs) ← takeByte (← takeChar '.' cs)
  let (c, cs) ← takeByte (← takeChar '.' cs)
  let (d, cs) ← takeByte (← takeChar '.' cs)
  return ((a, b, c, d), cs)

/-- A group of at most four digits in base sixteen at the front of a text, and
the text after it. -/
def takeGroup (cs : List Char) : Option (Nat × List Char) :=
  let ds := (cs.takeWhile fun c => (hexValue? c).isSome).filterMap hexValue?
  if ds = [] ∨ 4 < ds.length then none
  else some (ds.foldl (fun n d => n * 16 + d) 0, cs.drop ds.length)

/-- Groups with colons between at the front of a text, no more than `limit`.
The last two may be written as four bytes, which is reported. -/
def takeGroups : Nat → Bool → List Char → List Nat × Bool × List Char
  | 0, _, cs => ([], false, cs)
  | limit + 1, first, cs =>
    match if first then some cs else takeChar ':' cs with
    | none => ([], false, cs)
    | some inner =>
      match if limit = 0 then none else takeV4 inner with
      | some ((a, b, c, d), rest) => ([a * 256 + b, c * 256 + d], true, rest)
      | none =>
        match takeGroup inner with
        | none => ([], false, cs)
        | some (group, rest) =>
          let (groups, bytes, rest) := takeGroups limit false rest
          (group :: groups, bytes, rest)

/-- Eight groups, or fewer with a double colon in place of zeros. -/
def takeV6 (cs : List Char) : Option (List Nat × List Char) := do
  let (head, bytes, rest) := takeGroups 8 true cs
  if head.length = 8 then return (head, rest)
  if bytes then none
  let rest ← takeChar ':' (← takeChar ':' rest)
  let (tail, _, rest) := takeGroups (7 - head.length) true rest
  return (head ++ List.replicate (8 - head.length - tail.length) 0 ++ tail, rest)

/-- Reads an address from a text. Nothing may stand around it. -/
def parse? (text : String) : Option IpAddress :=
  match takeV4 text.toList with
  | some ((a, b, c, d), []) => some (v4 a b c d)
  | _ => match takeV6 text.toList with
    | some (groups, []) => some (v6 groups)
    | _ => none

/-- The length of the run of zeros that a list starts with. -/
def zeroRun (groups : List Nat) : Nat := (groups.takeWhile (· = 0)).length

/-- The start and the length of the longest run of zeros, the first of equals. -/
def longestZeroRun (groups : List Nat) : Nat × Nat :=
  (List.range groups.length).foldl (fun (start, length) i =>
    let run := zeroRun (groups.drop i)
    if length < run then (i, run) else (start, length)) (0, 0)

/-- Groups in base sixteen with colons between. -/
def renderGroups (groups : List Nat) : List Char :=
  [':'].intercalate (groups.map hexDigits)

/-- Bytes in decimal with points between. -/
def renderBytes (bytes : List Nat) : List Char :=
  ['.'].intercalate (bytes.map Decimal.digits)

/-- The text of an address. The longest run of at least two zero groups becomes
a double colon, and an address of four bytes inside one of eight groups keeps
its points. -/
def renderChars : IpAddress → List Char
  | v4 a b c d => renderBytes [a, b, c, d]
  | v6 [0, 0, 0, 0, 0, 0xFFFF, high, low] =>
    [':', ':', 'f', 'f', 'f', 'f', ':']
      ++ renderBytes [high / 256, high % 256, low / 256, low % 256]
  | v6 groups =>
    let (start, length) := longestZeroRun groups
    if 1 < length then
      renderGroups (groups.take start) ++ ':' :: ':' :: renderGroups (groups.drop (start + length))
    else renderGroups groups

end IpAddress

/-- An address with a port. -/
structure SocketAddress where
  ip : IpAddress
  port : UInt16
deriving DecidableEq

/-- The text of an address with a port. Groups stand in brackets. -/
def SocketAddress.render (a : SocketAddress) : String :=
  let ip := match a.ip with
    | .v4 .. => a.ip.renderChars
    | .v6 _ => '[' :: a.ip.renderChars ++ [']']
  String.ofList (ip ++ ':' :: Decimal.digits a.port.toNat)

end AuthGate
