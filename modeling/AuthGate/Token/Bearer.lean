import AuthGate.Text.Blank
import AuthGate.Token.Error

namespace AuthGate

/-- Reads the bearer token of an authorization header. Another scheme has none;
the bearer scheme without a token is malformed. The scheme may be in either
case, and blanks may surround both it and the token. -/
def bearerToken (header : String) : Except Malformation (Option String) :=
  let header := trimBlanks header.toList
  let scheme := header.takeWhile (!isBlank ·)
  let token := trimBlanks (header.dropWhile (!isBlank ·))
  if scheme.map Char.toLower ≠ "bearer".toList then .ok none
  else if token = [] then .error .emptyBearer
  else .ok (some (.ofList token))

end AuthGate
