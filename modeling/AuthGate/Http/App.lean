import AuthGate.Http.MediaType
import AuthGate.Http.Message
import AuthGate.Json.Typed
import AuthGate.Service
import AuthGate.Settings.App

namespace AuthGate

/-- A name and a password, as a client sends them to log in. -/
structure LoginRequest where
  username : String
  password : String
deriving DecidableEq

namespace LoginRequest

/-- How a login request is read. -/
def shape : Shape Json.Reader Unit LoginRequest where
  name := "LoginRequest"
  initial := ⟨"", ""⟩
  fields := [
    ⟨"username", true, fun _ r => do return { r with username := ← Json.readText }⟩,
    ⟨"password", true, fun _ r => do return { r with password := ← Json.readText }⟩]

/-- Reads a login request from the symbols of a document. -/
def ofSymbols (document : List Symbol) : Except Json.Failure LoginRequest :=
  (Json.readRecord shape).whole (.ofSymbols document)

/-- A login request for people, without the password. -/
def describe (r : LoginRequest) : String :=
  outline "LoginRequest" [("username", quoted r.username), ("password", redacted)] false

/-- Takes the login request out of a request. The media type is checked first,
then the size of the body, then the document in it. -/
def ofRequest (limit : Nat) (request : HttpRequest) : Except HttpResponse LoginRequest :=
  if !((request.header "content-type").any MediaType.isJson) then
    .error (.plain 415 "Expected request with `Content-Type: application/json`")
  else if limit < request.body.length then
    .error (.plain 413 "Failed to buffer the request body: length limit exceeded")
  else match ofSymbols (symbols request.body) with
    | .ok login => .ok login
    | .error failure =>
      if failure.cause.isMismatch then
        .error (.plain 422 ("Failed to deserialize the JSON body into the target type: "
          ++ failure.messageWithPath))
      else
        .error (.plain 400 ("Failed to parse the request body as JSON: "
          ++ failure.messageWithPath))

end LoginRequest

/-- The resources of the server. -/
inductive Route where
  | root
  | health
  | session
  | login
  | logout
deriving DecidableEq

namespace Route

/-- The resource at a path, which has to match to the letter. -/
def ofPath? (path : String) : Option Route :=
  if path = "/" then some root
  else if path = "/healthz" then some health
  else if path = "/auth/session" then some session
  else if path = "/auth/login" then some login
  else if path = "/auth/logout" then some logout
  else none

/-- The methods of a resource, as a list in a header. -/
def allowed : Route → String
  | root | health | session => "GET,HEAD"
  | login | logout => "POST"

/-- Whether a resource has a method. -/
def accepts : Route → String → Bool
  | root, method | health, method | session, method => method = "GET" || method = "HEAD"
  | login, method | logout, method => method = "POST"

end Route

/-- What becomes of a request at the bearer check. It goes on to a handler with the
identity that it carries, or ends with a response. -/
inductive Passage where
  | handled (identity : Option Identity)
  | ended (response : HttpResponse)

/-- Lets a request through to a handler, unless it presents a token that is rejected. -/
def AuthService.letThrough (service : AuthService) (request : BearerRequest) (now : Instant) :
    Logged (AuthService × BearerRequest × Passage) := do
  let (service, carried, outcome, _) ← service.process request now
  match outcome with
  | .rejected error => return (service, carried, .ended (← HttpResponse.reportError error))
  | _ => return (service, carried, .handled carried.identity)

/-- The server: the authentication subsystem with a credential store, the limits
it keeps, and the version it reports. -/
structure App where
  service : AuthService
  credentials : CredentialCheck
  server : ServerSettings
  commit : String

namespace App

/-- The version of the program. -/
def version : String := "0.1.0"

/-- The response about the server and the caller. -/
def rootResponse (app : App) (identity : Option Identity) : HttpResponse :=
  .json 200 (.object [("commit", .text app.commit), ("service", .text "Warden"),
    ("status", .text "ok"),
    ("subject", match identity with
      | none => .null
      | some identity => .text identity.subject),
    ("version", .text version)])

/-- The response about a session. -/
def sessionResponse (identity : Option Identity) : HttpResponse :=
  match identity with
  | none => .ofError .unauthenticated
  | some identity => match identity.toJson? with
    | none => .plain 500 Identity.unwritable
    | some v => .json 200 v

/-- The response to a login. -/
def loginResponse (session : Session) : HttpResponse :=
  .json 200 (.object [("access_token", .text session.token), ("token_type", .text "Bearer"),
    ("expires_in", .natural session.expiresIn.secs), ("subject", .text session.subject)])

/-- Answers a request for a resource that looks at the caller's identity. A
rejected token ends it, whatever the method. -/
def answerIdentified (app : App) (request : HttpRequest) (now : Instant)
    (respond : Option Identity → HttpResponse) : Logged (AuthService × HttpResponse) := do
  let (service, _, passage) ←
    app.service.letThrough ⟨request.header "authorization", none⟩ now
  match passage with
  | .handled identity => return (service, respond identity)
  | .ended response => return (service, response)

/-- Answers a login. While the credential store is silent there is no answer. -/
def answerLogin (app : App) (request : HttpRequest) (jti : String) (now : Instant) :
    Logged (AuthService × Option HttpResponse) := do
  match LoginRequest.ofRequest app.server.bodyLimitBytes.toNat request with
  | .error response => return (app.service, some response)
  | .ok login =>
    let (service, attempt) ←
      app.service.authenticate app.credentials login.username login.password jti now
    match attempt.result with
    | none => return (service, none)
    | some (.ok session) => return (service, some (loginResponse session))
    | some (.error error) => return (service, some (← HttpResponse.reportError error))

/-- Answers a logout. It succeeds whether or not there was a token to revoke. -/
def answerLogout (app : App) (request : HttpRequest) (now : Instant) :
    Logged (AuthService × HttpResponse) := do
  match (request.header "authorization").map bearerToken with
  | some (.ok (some raw)) =>
    let (service, _) ← app.service.logout raw now
    return (service, .empty 204)
  | _ =>
    Logged.emit .logoutWithoutToken
    return (app.service, .empty 204)

/-- Answers a request for a resource. -/
def answer (app : App) (route : Option Route) (request : HttpRequest) (jti : String)
    (now : Instant) : Logged (AuthService × Option HttpResponse) := do
  match route with
  | none => return (app.service, some (.empty 404))
  | some route =>
    let accepted := route.accepts request.method
    match route with
    | .root | .session =>
      let (service, response) ← app.answerIdentified request now fun identity =>
        if !accepted then .empty 405
        else if route = .root then app.rootResponse identity
        else sessionResponse identity
      return (service, some response)
    | .health =>
      return (app.service, some (if accepted then .json 200 (.object [("status", .text "ok")])
        else .empty 405))
    | .login =>
      if accepted then app.answerLogin request jti now
      else return (app.service, some (.empty 405))
    | .logout =>
      if accepted then
        let (service, response) ← app.answerLogout request now
        return (service, some response)
      else return (app.service, some (.empty 405))

/-- What every response to a request has in common: the methods of the resource
if another one was used, and no body for `HEAD`. -/
def complete (route : Option Route) (method : String) (response : HttpResponse) :
    HttpResponse :=
  { response with
    allow := route.bind fun route => if route.accepts method then none else some route.allowed
    body := if method = "HEAD" then "" else response.body }

/-- Handles a request. A server that lets no request through answers at once; a
login that the credential store leaves waiting times out. -/
def handle (app : App) (request : HttpRequest) (jti : String) (now : Instant) :
    Logged (AuthService × HttpResponse) := do
  let route := Route.ofPath? request.path
  let finish := complete route request.method
  if app.server.maxConcurrentRequests = 0 then
    return (app.service, finish (← MiddlewareFailure.overloaded.respond))
  else match ← app.answer route request jti now with
    | (service, none) => return (service, finish (← MiddlewareFailure.timeout.respond))
    | (service, some response) =>
      Logged.emit (.requestHandled response.status)
      return (service, finish response)

end App

end AuthGate
