import AuthGate.Token.Claims

namespace AuthGate

/-- Whom a request is made for, by which token, and until when it holds. -/
structure Identity where
  subject : String
  jti : String
  expiresAt : Timestamp
deriving DecidableEq

namespace Identity

/-- The identity that claims state. -/
def ofClaims (c : Claims) : Identity := ⟨c.sub, c.jti, .utc c.expiresAt⟩

/-- An identity as a document. An expiry before year zero cannot be written. -/
def toJson? (i : Identity) : Option Json.Value :=
  i.expiresAt.render?.map fun expiry =>
    .object [("subject", .text i.subject), ("jti", .text i.jti), ("expires_at", .text expiry)]

/-- The wording for an expiry that cannot be written. -/
def unwritable : String :=
  "The year component cannot be formatted into the requested format."

/-- Reads a timestamp. -/
def readTimestamp : Json.Reader Timestamp :=
  Json.readChecked "an RFC3339-formatted `OffsetDateTime`" fun text =>
    (Timestamp.parse text).mapError fun defect => .rejected defect.message

/-- How an identity is read. -/
def shape : Shape Json.Reader Unit Identity where
  name := "Identity"
  initial := ⟨"", "", .utc .epoch⟩
  fields := [
    ⟨"subject", true, fun _ i => do return { i with subject := ← Json.readText }⟩,
    ⟨"jti", true, fun _ i => do return { i with jti := ← Json.readText }⟩,
    ⟨"expires_at", true, fun _ i => do return { i with expiresAt := ← readTimestamp }⟩]

/-- Reads an identity from a document. -/
def ofText (text : String) : Except Json.Failure Identity :=
  (Json.readRecord shape).whole (.ofString text)

end Identity

end AuthGate
