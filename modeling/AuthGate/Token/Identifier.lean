import AuthGate.Text.Hex

namespace AuthGate

/-- A byte with its upper bits, from the place given on, replaced. -/
def withUpperBits (place : Nat) (upper : Nat) (byte : UInt8) : UInt8 :=
  UInt8.ofNat (byte.toNat % (1 <<< place) + upper <<< place)

/-- The identifier made of sixteen random bytes: a UUID of version four in lower
case. The version takes four bits of them and the variant two. -/
def tokenIdentifier (random : List UInt8) : String :=
  let bytes := (random.modify 6 (withUpperBits 4 4)).modify 8 (withUpperBits 6 2)
  "-".intercalate ([(0, 4), (4, 2), (6, 2), (8, 2), (10, 6)].map fun (start, count) =>
    hexText ((bytes.drop start).take count))

end AuthGate
