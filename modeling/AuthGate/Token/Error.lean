import AuthGate.Json.Failure
import AuthGate.Text.Base64

namespace AuthGate

/-- How a text fails to be a token, or a header to hold one. -/
inductive Malformation where
  | emptyBearer
  | segmentCount
  | emptySegment
  | payloadEncoding (defect : Base64.Defect)
  | claims (failure : Json.Failure)
  | timeOutOfRange (name : String) (seconds : Int) (nanos : Nat)
  | encoding (defect : Base64.Defect)
  | document (failure : Json.Failure)
  | reported (text : String)

/-- The wording of a malformation. -/
def Malformation.message : Malformation → String
  | emptyBearer => "empty bearer token"
  | segmentCount => "expected three segments"
  | emptySegment => "empty header or signature segment"
  | payloadEncoding defect => s!"payload is not base64url: {defect.message}"
  | claims failure => s!"invalid claims: {failure.message}"
  | timeOutOfRange name seconds nanos =>
    s!"{name} is out of range: {seconds}." ++ String.ofList (Decimal.padded 9 nanos)
  | encoding defect => s!"Base64 error: {defect.message}"
  | document failure => s!"JSON error: {failure.message}"
  | reported text => text

/-- Why a token is not issued or not accepted. -/
inductive TokenError where
  | malformed (defect : Malformation)
  | invalidSignature
  | expired
  | encoding (reason : String)

namespace TokenError

/-- The wording of an error. -/
def message : TokenError → String
  | malformed defect => s!"Malformed token: {defect.message}"
  | invalidSignature => "Invalid signature"
  | expired => "Token expired"
  | encoding reason => s!"Failed to encode token: {reason}"

/-- The expiry of a token would leave the calendar range. -/
def expiryOutOfRange : TokenError := encoding "expiry is out of range"

end TokenError

end AuthGate
