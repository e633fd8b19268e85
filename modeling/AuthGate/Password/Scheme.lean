import AuthGate.Crypto.Argon2
import AuthGate.Password.Encoded

namespace AuthGate

/-- A way of storing passwords: what is kept of a password under a salt, and
whether a password is the one that was kept. -/
structure PasswordScheme where
  keep : (salt : List UInt8) → (password : String) → String
  verify : (password stored : String) → Except PasswordDefect Bool

namespace Argon2

/-- The cost of the passwords that are stored here: 19 MiB, two passes, one
lane. -/
def passwordCost : Cost := ⟨19456, 2, 1, 32⟩

/-- The associated data and the key name of a password may be so long. -/
def maxData : Nat := 32

/-- The associated data and the key name of a password may be so long. -/
def maxKeyName : Nat := 8

/-- The least number of bytes of a salt. -/
def minSalt : Nat := 8

/-- Bytes in base 64, no more than `limit` of them. -/
def readBytes? (limit : Nat) (text : String) : Option (List UInt8) :=
  match Base64.decode .standard text with
  | .ok bytes => if bytes.length ≤ limit then some bytes else none
  | .error _ => none

/-- Sets a parameter of an encoded password in a cost with associated data. Names
of keys are allowed and have no effect. -/
def setParameter (acc : Cost × List UInt8) (parameter : String × String) :
    Option (Cost × List UInt8) :=
  let (cost, data) := acc
  let (name, value) := parameter
  let number := (EncodedPassword.readNumber value).toOption
  match name with
  | "m" => number.map fun n => ({ cost with memory := n }, data)
  | "t" => number.map fun n => ({ cost with passes := n }, data)
  | "p" => number.map fun n => ({ cost with lanes := n }, data)
  | "keyid" => (readBytes? maxKeyName value).map fun _ => (cost, data)
  | "data" => (readBytes? maxData value).map fun data => (cost, data)
  | _ => none

/-- The computation that an encoded password asks for, and the result that it has
to have. -/
def inputOf? (e : EncodedPassword) (password : String) : Option (Input × List UInt8) := do
  let salt ← e.salt
  let hash ← e.hash
  let (cost, data) ← e.parameters.foldlM setParameter
    ({ passwordCost with length := hash.length }, [])
  let variant ← Variant.ofName? e.algorithm
  let version ← Version.ofCode? (e.version.getD Version.v19.code)
  let salt ← (Base64.decode .standard salt).toOption
  if cost.isValid ∧ minSalt ≤ salt.length then
    return (⟨variant, version, cost, utf8 password, salt, data⟩, hash)
  else none

/-- Whether a password is the one that was encoded. One whose encoding cannot be
computed with is never the right one. -/
def accepts (e : EncodedPassword) (password : String) : Bool :=
  match inputOf? e password with
  | some (input, hash) => input.result = hash
  | none => false

/-- A password under a salt, encoded. -/
def encodePassword (salt : List UInt8) (password : String) : EncodedPassword where
  algorithm := Variant.hybrid.name
  version := some Version.v19.code
  parameters := [("m", passwordCost.memory), ("t", passwordCost.passes),
    ("p", passwordCost.lanes)].map fun (name, n) => (name, String.ofList (Decimal.digits n))
  salt := some (Base64.encode .standard salt)
  hash := some (Input.result ⟨.hybrid, .v19, passwordCost, utf8 password, salt, []⟩)

/-- Passwords are kept as the texts of their encodings. -/
def scheme : PasswordScheme where
  keep salt password := (encodePassword salt password).text
  verify password stored := do return accepts (← EncodedPassword.ofText stored) password

end Argon2

end AuthGate
