import AuthGate.Event
import AuthGate.Json.Value

namespace AuthGate

/-- A request as it arrives. Header names are in any case, and a name may occur
more than once. -/
structure HttpRequest where
  method : String
  target : String
  headers : List (String × String)
  body : List UInt8

namespace HttpRequest

/-- The first header of a name, which is given in lower case. A value with
characters other than visible ASCII, blank and tab cannot be read and counts as
missing. -/
def header (r : HttpRequest) (name : String) : Option String :=
  match r.headers.find? fun (n, _) => String.ofList (n.toList.map Char.toLower) = name with
  | none => none
  | some (_, value) =>
    if value.toList.all fun c => c = '\t' || (0x20 ≤ c.val && c.val < 0x7F) then some value
    else none

/-- The characters before a query or a fragment. -/
def beforeQuery (cs : List Char) : List Char := cs.takeWhile fun c => c ≠ '?' && c ≠ '#'

/-- A text after the first `://`, if it has one. -/
def afterScheme? : List Char → Option (List Char)
  | [] => none
  | c :: cs => if [':', '/', '/'].isPrefixOf (c :: cs) then some (cs.drop 2) else afterScheme? cs

/-- The path that a request asks for, without query and, in an absolute target,
without scheme and authority. Escapes in it stay as they are. -/
def path (r : HttpRequest) : String :=
  let target := beforeQuery r.target.toList
  if target.head? = some '/' then String.ofList target
  else match afterScheme? target with
    | none => String.ofList target
    | some rest => match rest.dropWhile (· ≠ '/') with
      | [] => "/"
      | path => String.ofList path

end HttpRequest

/-- A response, with the headers that say something here. -/
structure HttpResponse where
  status : Nat
  contentType : Option String
  challenge : Option String
  retryAfter : Option Nat
  allow : Option String
  body : String
deriving DecidableEq

namespace HttpResponse

/-- A response without a body. -/
def empty (status : Nat) : HttpResponse := ⟨status, none, none, none, none, ""⟩

/-- A response with a document. -/
def json (status : Nat) (v : Json.Value) : HttpResponse :=
  { empty status with contentType := some "application/json", body := v.render }

/-- A response with a plain text. -/
def plain (status : Nat) (text : String) : HttpResponse :=
  { empty status with contentType := some "text/plain; charset=utf-8", body := text }

/-- A response with an error code and its description. -/
def error (status : Nat) (code description : String) : HttpResponse :=
  json status (.object [("error", .text code), ("error_description", .text description)])

/-- The headers of a response by name. -/
def headers (r : HttpResponse) : List (String × String) :=
  [("content-type", r.contentType), ("www-authenticate", r.challenge),
    ("retry-after", r.retryAfter.map toString), ("allow", r.allow)].filterMap
    fun (name, value) => value.map (name, ·)

/-- The status of an error. -/
def statusOf : AuthError → Nat
  | .accountLocked _ => 429
  | .storage _ | .internal _ => 500
  | _ => 401

/-- What a client is told about an error. Nothing shows whether an account
exists, or what went wrong inside the server. -/
def descriptionOf : AuthError → String
  | .malformedToken _ => "Token is malformed"
  | .invalidSignature => "Token signature is invalid"
  | .tokenExpired => "Token has expired"
  | .tokenRevoked => "Token has been revoked"
  | .unauthenticated => "Authentication required"
  | .invalidCredentials | .userNotFound => "Invalid username or password"
  | .accountLocked _ => "Too many failed login attempts, try again later"
  | .storage _ | .internal _ => "Internal server error"

/-- The challenge of a response with status 401. It names the error only if a
token was presented. -/
def challengeOf (e : AuthError) : String :=
  if e.isTokenError then
    s!"Bearer realm=\"warden\", error=\"{e.code}\", error_description=\"{descriptionOf e}\""
  else "Bearer realm=\"warden\""

/-- The response to an error. -/
def ofError (e : AuthError) : HttpResponse :=
  { error (statusOf e) e.code (descriptionOf e) with
    challenge := if statusOf e = 401 then some (challengeOf e) else none
    retryAfter := match e with
      | .accountLocked remaining => some remaining.ceilSecs
      | _ => none }

/-- The response to an error. Faults of the server are logged. -/
def reportError (e : AuthError) : Logged HttpResponse := do
  if e.isServerError then Logged.emit (.serverError e)
  return ofError e

end HttpResponse

/-- What can go wrong around the handling of a request. -/
inductive MiddlewareFailure where
  | timeout
  | overloaded
  | other (reason : String)

/-- The response to a failure around the handling of a request. -/
def MiddlewareFailure.respond : MiddlewareFailure → Logged HttpResponse
  | timeout => return .error 408 "timeout" "request timed out"
  | overloaded => return .error 503 "overloaded" "server is overloaded, retry later"
  | other reason => do
    Logged.emit (.middlewareFailed reason)
    return .error 500 "server_error" "internal server error"

end AuthGate
