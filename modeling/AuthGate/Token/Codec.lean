import AuthGate.Crypto.Sha256
import AuthGate.Settings.Auth
import AuthGate.Text.Pieces
import AuthGate.Token.Claims
import AuthGate.Token.Error
import AuthGate.Token.Header

namespace AuthGate

/-- What signs tokens and checks them: a secret and the lifetime of a token. -/
structure TokenCodec where
  secret : List UInt8
  ttl : Duration
deriving DecidableEq

/-- The three parts of a token. -/
structure RawToken where
  header : String
  payload : String
  signature : String
deriving DecidableEq

namespace RawToken

/-- Takes a text apart into the three parts of a token. -/
def ofText (raw : String) : Except Malformation RawToken :=
  match pieces '.' raw.toList with
  | [header, payload, signature] =>
    if header = [] ∨ signature = [] then .error .emptySegment
    else .ok ⟨.ofList header, .ofList payload, .ofList signature⟩
  | _ => .error .segmentCount

/-- The text that the signature covers. -/
def signed (t : RawToken) : String := t.header ++ "." ++ t.payload

/-- The text of a token. -/
def text (t : RawToken) : String := t.signed ++ "." ++ t.signature

end RawToken

namespace TokenCodec

/-- The codec of the settings. -/
def ofSettings (s : TokenSettings) : TokenCodec := ⟨utf8 s.secret, s.ttl⟩

/-- The signature of a text. -/
def sign (codec : TokenCodec) (text : String) : List UInt8 :=
  Sha256.hmac codec.secret (utf8 text)

/-- A document as a part of a token. -/
def encodePart (v : Json.Value) : String := Base64.encode .urlSafe (utf8 v.render)

/-- The token that states given claims. -/
def compact (codec : TokenCodec) (claims : Claims) : String :=
  let unsigned : RawToken :=
    ⟨encodePart TokenHeader.issued, encodePart claims.toJson, ""⟩
  { unsigned with signature := Base64.encode .urlSafe (codec.sign unsigned.signed) }.text

/-- Issues a token to a subject under an identifier. The claims are returned
with it. Only an expiry outside the calendar range stands in the way. -/
def issue (codec : TokenCodec) (subject jti : String) (now : Instant) :
    Except TokenError (String × Claims) :=
  match now.add? codec.ttl with
  | none => .error .expiryOutOfRange
  | some expiry =>
    let claims := Claims.between subject jti now expiry
    .ok (codec.compact claims, claims)

/-- Reads the claims of a token without regard to its signature. Both of its
times have to be in the calendar range. -/
def parse (raw : String) : Except TokenError Claims := do
  let token ← (RawToken.ofText raw).mapError .malformed
  let bytes ← (Base64.decode .urlSafe token.payload).mapError
    fun defect => .malformed (.payloadEncoding defect)
  let claims ← (Claims.ofBytes bytes).mapError fun failure => .malformed (.claims failure)
  match claims.badTime? with
  | some (name, seconds, nanos) => throw (.malformed (.timeOutOfRange name seconds nanos))
  | none => return claims

/-- Checks header and signature of a token whose payload is readable. The
header comes first, then the algorithm it names, then the signature, then the
claims with a registered meaning. -/
def checkSignature (codec : TokenCodec) (token : RawToken) : Except TokenError Unit := do
  let decode (part : String) : Except TokenError (List UInt8) :=
    (Base64.decode .urlSafe part).mapError fun defect => .malformed (.encoding defect)
  let algorithm ← (TokenHeader.ofBytes (← decode token.header)).mapError
    fun failure => .malformed (.document failure)
  if algorithm ≠ "HS256" then throw .invalidSignature
  let signature ← decode token.signature
  if signature ≠ codec.sign token.signed then throw .invalidSignature
  (RegisteredClaims.check (← decode token.payload)).mapError
    fun failure => .malformed (.document failure)

/-- Reads the claims of a token that carries a good signature. It may be
expired. Structure is checked first, so that a malformed token never reports
its signature. -/
def verify (codec : TokenCodec) (raw : String) : Except TokenError Claims := do
  let claims ← parse raw
  let token ← (RawToken.ofText raw).mapError .malformed
  codec.checkSignature token
  return claims

/-- Reads the claims of a token that is valid at `now`. -/
def validate (codec : TokenCodec) (raw : String) (now : Instant) : Except TokenError Claims := do
  let claims ← codec.verify raw
  if claims.isExpiredAt now then throw .expired
  return claims

/-- A codec for people, without its secret. -/
def describe (codec : TokenCodec) : String :=
  outline "TokenCodec" [("algorithm", quoted "HS256"), ("ttl", codec.ttl.renderBrief)] true

end TokenCodec

/-- The key under which a revoked token is remembered: its digest. -/
def revocationKey (raw : String) : String := hexText (Sha256.hash (utf8 raw))

end AuthGate
