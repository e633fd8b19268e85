import AuthGate.Json.Typed
import AuthGate.Time.Timestamp

namespace AuthGate

/-- The statements a token makes: whom it was issued to, when, until when, and
under which identifier. Times are Unix seconds with further nanoseconds. -/
structure Claims where
  sub : String
  iat : Int
  exp : Int
  iatNanos : Nat
  expNanos : Nat
  jti : String
deriving DecidableEq

namespace Claims

/-- The instant of issue. A time outside the calendar range reads as the epoch. -/
def issuedAt (c : Claims) : Instant := (Instant.ofUnix? c.iat c.iatNanos).getD .epoch

/-- The instant of expiry. A time outside the calendar range reads as the epoch. -/
def expiresAt (c : Claims) : Instant := (Instant.ofUnix? c.exp c.expNanos).getD .epoch

/-- Whether the token is no longer valid. It is already expired at its expiry. -/
def isExpiredAt (c : Claims) (now : Instant) : Bool := c.expiresAt ≤ now

/-- The first of the two times that is outside the calendar range. -/
def badTime? (c : Claims) : Option (String × Int × Nat) :=
  if (Instant.ofUnix? c.iat c.iatNanos).isNone then some ("iat", c.iat, c.iatNanos)
  else if (Instant.ofUnix? c.exp c.expNanos).isNone then some ("exp", c.exp, c.expNanos)
  else none

/-- The claims of a token issued at `now` that expires at `expiry`. -/
def between (subject jti : String) (now expiry : Instant) : Claims :=
  ⟨subject, now.unixSeconds, expiry.unixSeconds, now.subsecNanos, expiry.subsecNanos, jti⟩

/-- Claims as a document. Nanoseconds are left out when they are zero. -/
def toJson (c : Claims) : Json.Value :=
  .object ([("sub", .text c.sub), ("iat", .integer c.iat), ("exp", .integer c.exp)]
    ++ (if c.iatNanos = 0 then [] else [("iat_nanos", .natural c.iatNanos)])
    ++ (if c.expNanos = 0 then [] else [("exp_nanos", .natural c.expNanos)])
    ++ [("jti", .text c.jti)])

/-- How claims are read. -/
def shape : Shape Json.Reader Unit Claims where
  name := "TokenClaims"
  initial := ⟨"", 0, 0, 0, 0, ""⟩
  fields := [
    ⟨"sub", true, fun _ c => do return { c with sub := ← Json.readText }⟩,
    ⟨"iat", true, fun _ c => do return { c with iat := ← Json.readInteger64 }⟩,
    ⟨"exp", true, fun _ c => do return { c with exp := ← Json.readInteger64 }⟩,
    ⟨"iat_nanos", false, fun _ c => do
      return { c with iatNanos := ← Json.readNatural .bits32 }⟩,
    ⟨"exp_nanos", false, fun _ c => do
      return { c with expNanos := ← Json.readNatural .bits32 }⟩,
    ⟨"jti", true, fun _ c => do return { c with jti := ← Json.readText }⟩]

/-- Reads claims from the bytes of a document. -/
def ofBytes (bytes : List UInt8) : Except Json.Failure Claims :=
  (Json.readRecord shape).whole (.ofSymbols (symbols bytes))

end Claims

end AuthGate
