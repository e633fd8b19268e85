import AuthGate.Json.Typed

namespace AuthGate

open Json Json.Reader

/-- The signature algorithms that a header may name. -/
def signatureAlgorithms : List String :=
  ["HS256", "HS384", "HS512", "ES256", "ES384", "RS256", "RS384", "RS512", "PS256", "PS384",
    "PS512", "EdDSA"]

/-- Reads a value or `null`. -/
def readOptional {α : Type} (read : Reader α) : Reader (Option α) := do
  if (← peekToken) = some (.char 'n') then
    let _ ← next
    word ['u', 'l', 'l']
    return none
  else some <$> read

/-- Reads a value inside a record, which is one container already. -/
def readInnerValue : Reader Value := readValue (maxDepth - 1)

namespace JsonWebKey

/-- The defect of a member that should be a text or `null`. -/
def textDefect? : Value → Option Mismatch
  | .text _ | .null => none
  | v => some (.wrongType v.found "a string")

/-- The defect of a member that should be a list of texts or `null`. -/
def textsDefect? : Value → Option Mismatch
  | .null => none
  | .list items => (items.filter fun v => match v with
    | .text _ => false
    | _ => true).head?.map fun v => .wrongType v.found "a string"
  | v => some (.wrongType v.found "a sequence")

/-- The text of a member. -/
def textOf? (members : List (String × Value)) (key : String) : Option String :=
  match members.lookup key with
  | some (.text s) => some s
  | _ => none

/-- Whether the members hold the parameters of a kind of key. -/
def hasParameters (members : List (String × Value)) : Bool :=
  let hasText (key : String) : Bool := (textOf? members key).isSome
  let hasCurve : Bool := match textOf? members "crv" with
    | some curve => ["P-256", "P-384", "P-521", "Ed25519"].contains curve
    | none => false
  match textOf? members "kty" with
  | some "EC" => hasCurve && hasText "x" && hasText "y"
  | some "RSA" => hasText "n" && hasText "e"
  | some "oct" => hasText "k"
  | some "OKP" => hasCurve && hasText "x"
  | _ => false

/-- The defect of the members of a key: first one of the parameters common to
all keys, then the parameters of its kind. -/
def defect? (members : List (String × Value)) : Option Mismatch :=
  let common := members.findSome? fun (key, v) =>
    if ["use", "alg", "kid", "x5u", "x5t", "x5t#S256"].contains key then textDefect? v
    else if ["key_ops", "x5c"].contains key then textsDefect? v
    else none
  match common with
  | some m => some m
  | none => if hasParameters members then none else some (.noVariantFits "AlgorithmParameters")

/-- Reads a key and drops it. -/
def read : Reader Unit := readToken fun s =>
  if s = .char '{' then do
    match ← readInnerValue with
    | .object members => match defect? members with
      | none => return
      | some m => mismatch m
    | _ => return
  else wrongType "struct Jwk" s

end JsonWebKey

namespace TokenHeader

/-- What a header has shown so far: the fields seen, the algorithm, and the
first member of another name that is no text. -/
structure Progress where
  seen : List String
  algorithm : Option String
  stranger : Option Found

/-- Reads a field that carries no meaning here, if its name is known. -/
def readKnown? (name : String) : Option (Reader Unit) :=
  if ["typ", "cty", "jku", "kid", "x5u", "x5t", "x5t#S256", "enc", "zip", "url",
      "nonce"].contains name then
    some (do let _ ← readOptional readText)
  else if ["x5c", "crit"].contains name then
    some (do let _ ← readOptional (readList readText))
  else if name = "jwk" then some (do let _ ← readOptional JsonWebKey.read)
  else none

/-- Reads the members of a header up to its closing bracket. Members of other
names have to be texts, which is checked only after all members are there. -/
def readMembers : Nat → Bool → Progress → Reader String
  | 0, _, _ => failHere .endInObject
  | fuel + 1, first, p => do
    match ← nextKey first with
    | none => match p.algorithm, p.stranger with
      | none, _ => mismatch (.missingField "alg")
      | some _, some found => mismatch (.wrongType found "a string")
      | some algorithm, none => return algorithm
    | some key =>
      if p.seen.contains key then mismatch (.duplicateField key)
      if key = "alg" then
        readColon
        let algorithm ← readChoice (signatureAlgorithms.map fun name => (name, name))
        readMembers fuel false { p with seen := key :: p.seen, algorithm := some algorithm }
      else match readKnown? key with
        | some read =>
          readColon
          read
          readMembers fuel false { p with seen := key :: p.seen }
        | none =>
          readColon
          let v ← readInnerValue
          let stranger := match v with
            | .text _ => p.stranger
            | v => p.stranger.or (some v.found)
          readMembers fuel false { p with stranger }

/-- Reads a header. It yields the name of the algorithm. -/
def read : Reader String := readToken fun s =>
  if s = .char '{' then do
    let _ ← next
    closing (readMembers ((← get).rest.length + 1) true ⟨[], none, none⟩) endObject
  else wrongType "struct Header" s

/-- Reads a header from the bytes of a document. -/
def ofBytes (bytes : List UInt8) : Except Failure String :=
  read.whole (.ofSymbols (symbols bytes))

/-- The header of an issued token. -/
def issued : Value := .object [("typ", .text "JWT"), ("alg", .text "HS256")]

end TokenHeader

namespace RegisteredClaims

/-- Passes over a value that should be a number of seconds, whatever it is. A
container is entered and left again only if it is empty. -/
def passNumericDate : Reader Unit := do
  let _ ← attempt (readToken fun s =>
    if s = .char '[' then do
      let _ ← next
      closing (wrongType "a number of seconds" s) endList
    else if s = .char '{' then do
      let _ ← next
      closing (wrongType "a number of seconds" s) endObject
    else do
      let _ ← readScalar s)

/-- Passes over a value that should be a text or `null`. -/
def passText : Reader Unit := do
  let _ ← attempt (readOptional readText)

/-- Passes over a value of any kind. -/
def passValue : Reader Unit := do
  let _ ← attempt (readOptional readInnerValue)

/-- The claims with a registered meaning. None of them is used, and their values
may be of any type, but each may occur only once. -/
def shape : Shape Reader Unit Unit where
  name := "ClaimsForValidation"
  initial := ()
  fields := [⟨"exp", false, fun _ _ => passNumericDate⟩,
    ⟨"nbf", false, fun _ _ => passNumericDate⟩, ⟨"sub", false, fun _ _ => passText⟩,
    ⟨"iss", false, fun _ _ => passValue⟩, ⟨"aud", false, fun _ _ => passValue⟩]

/-- Checks the registered claims of a document. -/
def check (bytes : List UInt8) : Except Failure Unit :=
  (readRecord shape).whole (.ofSymbols (symbols bytes))

end RegisteredClaims

end AuthGate
