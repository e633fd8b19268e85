import AuthGate.Text.Outline
import AuthGate.Time.Span
import AuthGate.Token.Error

namespace AuthGate

/-- Why a request is not served or a login not granted. -/
inductive AuthError where
  | malformedToken (defect : Malformation)
  | invalidSignature
  | tokenExpired
  | tokenRevoked
  | accountLocked (remaining : Duration)
  | unauthenticated
  | invalidCredentials
  | userNotFound
  | storage (reason : String)
  | internal (reason : String)

/-- The concern that an error belongs to. -/
inductive ErrorCategory where
  | authentication
  | token
  | lockout
  | infrastructure
  | internal
deriving DecidableEq

/-- The name of a category. -/
def ErrorCategory.name : ErrorCategory → String
  | authentication => "authentication"
  | token => "token"
  | lockout => "lockout"
  | infrastructure => "infrastructure"
  | internal => "internal"

namespace AuthError

/-- The error of a token that is not issued or not accepted. A token that cannot
be issued is a fault of the server. -/
def ofToken : TokenError → AuthError
  | .malformed defect => malformedToken defect
  | .invalidSignature => invalidSignature
  | .expired => tokenExpired
  | .encoding reason => internal reason

/-- The wording of an error in the log. -/
def message : AuthError → String
  | malformedToken defect => s!"Malformed token: {defect.message}"
  | invalidSignature => "Invalid token signature"
  | tokenExpired => "Token expired"
  | tokenRevoked => "Token revoked"
  | accountLocked remaining => s!"Account locked, retry in {remaining.secs}s"
  | unauthenticated => "Authentication required"
  | invalidCredentials => "Invalid credentials"
  | userNotFound => "User not found"
  | storage reason => s!"Storage error: {reason}"
  | internal reason => s!"Internal error: {reason}"

/-- Whether the server is at fault, and not the caller. -/
def isServerError : AuthError → Bool
  | storage _ | internal _ => true
  | _ => false

/-- Whether the caller is at fault. -/
def isClientError (e : AuthError) : Bool := !e.isServerError

/-- Whether the token presented is at fault. -/
def isTokenError : AuthError → Bool
  | malformedToken _ | invalidSignature | tokenExpired | tokenRevoked => true
  | _ => false

/-- Whether the name or the password is wrong. -/
def isCredentialError : AuthError → Bool
  | invalidCredentials | userNotFound => true
  | _ => false

/-- The category of an error. -/
def category : AuthError → ErrorCategory
  | malformedToken _ | invalidSignature | tokenExpired | tokenRevoked => .token
  | accountLocked _ => .lockout
  | unauthenticated | invalidCredentials | userNotFound => .authentication
  | storage _ => .infrastructure
  | internal _ => .internal

/-- The code that a client sees. It does not tell unknown names from wrong
passwords. -/
def code : AuthError → String
  | malformedToken _ | invalidSignature | tokenExpired | tokenRevoked => "invalid_token"
  | unauthenticated => "unauthorized"
  | accountLocked _ => "account_locked"
  | invalidCredentials | userNotFound => "invalid_credentials"
  | storage _ | internal _ => "server_error"

/-- The short name of an error in the log. -/
def reason : AuthError → String
  | malformedToken _ => "malformed"
  | invalidSignature => "invalid_signature"
  | tokenExpired => "expired"
  | tokenRevoked => "revoked"
  | unauthenticated => "unauthenticated"
  | accountLocked _ => "locked"
  | invalidCredentials => "invalid_credentials"
  | userNotFound => "user_not_found"
  | storage _ => "storage"
  | internal _ => "internal"

/-- An error for people, with its parts. -/
def describe : AuthError → String
  | malformedToken defect => outline "MalformedToken" [("message", quoted defect.message)] false
  | invalidSignature => "InvalidSignature"
  | tokenExpired => "TokenExpired"
  | tokenRevoked => "TokenRevoked"
  | accountLocked remaining =>
    outline "AccountLocked" [("remaining", remaining.renderBrief)] false
  | unauthenticated => "Unauthenticated"
  | invalidCredentials => "InvalidCredentials"
  | userNotFound => "UserNotFound"
  | storage reason => outline "Storage" [("message", quoted reason)] false
  | internal reason => outline "Internal" [("message", quoted reason)] false

end AuthError

end AuthGate
