import AuthGate.Identity
import AuthGate.Lockout.Tracker
import AuthGate.Revocation.Registry
import AuthGate.Token.Bearer

namespace AuthGate

/-- The state of the authentication subsystem: what signs tokens, which logins
have failed, and which tokens are revoked. -/
structure AuthService where
  codec : TokenCodec
  tracker : LockoutTracker
  registry : RevocationRegistry

/-- What a credential store says about a name and a password. A store that is
silent has not said anything yet. -/
inductive StoreAnswer where
  | verdict (accepted : Bool)
  | failed (error : AuthError)
  | silent

/-- A credential store, as the answers it gives. -/
abbrev CredentialCheck := String → String → StoreAnswer

/-- A successful login. -/
structure Session where
  subject : String
  token : String
  expiresIn : Duration
  expiresAt : Instant
deriving DecidableEq

/-- A computation that logs events and puts questions to others. What has been asked is
kept in the order of the asking. -/
abbrev Asking (κ : Type) := StateT (List κ) Logged

namespace Asking

variable {κ α : Type}

/-- Puts a question. Whatever the answer takes is done when it has been noted. -/
def ask (question : κ) (answer : Logged α) : Asking κ α := do
  modify (· ++ [question])
  answer

/-- The value of a computation and the questions it has put. -/
def transcript (computation : Asking κ α) : Logged (α × List κ) := computation.run []

end Asking

/-- A question put to a credential store: whether a name goes with a password. -/
structure CredentialQuery where
  username : String
  password : String
deriving DecidableEq

/-- Asks a credential store about a name and a password. -/
def CredentialCheck.verify (credentials : CredentialCheck) (username password : String) :
    Asking CredentialQuery StoreAnswer :=
  .ask ⟨username, password⟩ (return credentials username password)

/-- How a login went, and what it has asked the credential store. One without a result is
still waiting for the store. -/
structure LoginAttempt where
  result : Option (Except AuthError Session)
  queries : List CredentialQuery

/-- Whether the credential store has been asked at all. -/
def LoginAttempt.consulted (attempt : LoginAttempt) : Bool := !attempt.queries.isEmpty

/-- What the bearer token of a request has led to. -/
inductive BearerOutcome where
  | anonymous
  | authenticated (identity : Identity)
  | rejected (error : AuthError)

namespace BearerOutcome

/-- The identity of an authenticated request. -/
def identity? : BearerOutcome → Option Identity
  | authenticated identity => some identity
  | _ => none

/-- Whether the request has to stop. -/
def isRejected : BearerOutcome → Bool
  | rejected _ => true
  | _ => false

/-- The outcome that the validation of a token leads to. -/
def ofValidation : Except TokenError Claims → BearerOutcome
  | .ok claims => authenticated (.ofClaims claims)
  | .error error => rejected (.ofToken error)

end BearerOutcome

/-- What counts of a request here: its authorization header, if that can be read,
and the identity it carries. -/
structure BearerRequest where
  authorization : Option String
  identity : Option Identity

/-- What decides about bearer tokens: somebody to ask whether a token is revoked, somebody
to validate one at an instant, and a clock. Each may be anything that can be run in `m`. -/
structure BearerPipeline (m : Type → Type) where
  isRevoked : String → m Bool
  validate : String → Instant → m (Except TokenError Claims)
  clock : m Instant

/-- Decides about the value of an authorization header. Revocation comes first, and a
revoked token is not validated. -/
def BearerPipeline.evaluate {m : Type → Type} [Monad m] (pipeline : BearerPipeline m)
    (header : Option String) : m BearerOutcome := do
  match header.map bearerToken with
  | none | some (.ok none) => return .anonymous
  | some (.error defect) => return .rejected (.malformedToken defect)
  | some (.ok (some raw)) =>
    if ← pipeline.isRevoked raw then return .rejected .tokenRevoked
    else return .ofValidation (← pipeline.validate raw (← pipeline.clock))

/-- Logs the decision about a request. Only an authenticated request carries an identity
afterwards, and no other one than its own. -/
def BearerRequest.identify (request : BearerRequest) : BearerOutcome → Logged BearerRequest
  | .authenticated identity => do
    Logged.emit (.requestAuthenticated identity.subject identity.jti)
    return { request with identity := some identity }
  | .anonymous => return { request with identity := none }
  | .rejected error => do
    Logged.emit (.tokenRejected error)
    return { request with identity := none }

/-- Decides about a request by its authorization header, and has it carry the identity that
this leads to. -/
def BearerPipeline.process {m : Type → Type} [Monad m] [MonadLiftT Logged m]
    (pipeline : BearerPipeline m) (request : BearerRequest) :
    m (BearerRequest × BearerOutcome) := do
  let outcome ← pipeline.evaluate request.authorization
  let request ← (request.identify outcome : Logged _)
  return (request, outcome)

/-- A question put about a bearer token. -/
inductive BearerCheck where
  | revocation
  | validation
deriving DecidableEq

namespace AuthService

/-- The subsystem of settings that are taken as they are. -/
def ofSettings (s : AuthSettings) : AuthService :=
  ⟨.ofSettings s.token, .new s.lockout, .empty⟩

/-- The subsystem of settings that it can work with. -/
def build (s : AuthSettings) : Except SettingsDefect (Logged AuthService) :=
  match s.defect? with
  | some defect => .error defect
  | none => .ok do
    Logged.emit (.initialized s.token.ttl s.lockout.maxFailedAttempts.toNat s.lockout.escalation)
    return ofSettings s

/-- The lock check at the start of a login. -/
def checkLock (service : AuthService) (username : String) (now : Instant) :
    Logged (Except AuthError Unit) := do
  if service.tracker.isLocked username now then
    let remaining := service.tracker.remaining username now
    Logged.emit (.loginLocked username remaining)
    return .error (.accountLocked remaining)
  else return .ok ()

/-- Counts a login whose name or password was wrong. -/
def refuse (service : AuthService) (username : String) (now : Instant) :
    Logged (AuthService × Except AuthError Session) := do
  let (tracker, outcome) ← service.tracker.recordFailure username now
  Logged.emit (.loginFailed username outcome.attempts)
  return ({ service with tracker }, .error .invalidCredentials)

/-- Issues a token to a subject under an identifier, and logs it. -/
def issue (service : AuthService) (subject jti : String) (now : Instant) :
    Logged (Except TokenError (String × Claims)) := do
  match service.codec.issue subject jti now with
  | .error error => return .error error
  | .ok (token, claims) =>
    Logged.emit (.tokenIssued subject claims.jti claims.exp)
    return .ok (token, claims)

/-- Forgets the failures of an account and issues a token to it. -/
def grant (service : AuthService) (username jti : String) (now : Instant) :
    Logged (AuthService × Except AuthError Session) := do
  let tracker ← service.tracker.clear username now
  let service := { service with tracker }
  match ← service.issue username jti now with
  | .error error => return (service, .error (.ofToken error))
  | .ok (token, claims) =>
    Logged.emit (.loginSucceeded username claims.jti)
    return (service, .ok ⟨claims.sub, token, service.codec.ttl, claims.expiresAt⟩)

/-- The end of a login, once the credential store has answered. An unknown name
counts as a wrong password. -/
def settle (service : AuthService) (username jti : String) (answer : StoreAnswer)
    (now : Instant) : Logged (AuthService × Option (Except AuthError Session)) := do
  match answer with
  | .silent => return (service, none)
  | .verdict true =>
    let (service, result) ← service.grant username jti now
    return (service, some result)
  | .verdict false | .failed .userNotFound =>
    let (service, result) ← service.refuse username now
    return (service, some result)
  | .failed error =>
    Logged.emit (.storeFailed username error)
    return (service, some (.error error))

/-- Logs an account in, whatever `verify` does to have the credential store answer. A locked
account is rejected before the store is asked. `jti` becomes the identifier of the token. -/
def authenticateBy {m : Type → Type} [Monad m] [MonadLiftT Logged m] (service : AuthService)
    (verify : String → String → m StoreAnswer) (username password jti : String) (now : Instant) :
    m (AuthService × Option (Except AuthError Session)) := do
  match ← (service.checkLock username now : Logged _) with
  | .error error => return (service, some (.error error))
  | .ok () =>
    let answer ← verify username password
    service.settle username jti answer now

/-- Logs an account in at a credential store, and tells what this has been asked. -/
def authenticate (service : AuthService) (credentials : CredentialCheck)
    (username password jti : String) (now : Instant) :
    Logged (AuthService × LoginAttempt) := do
  let ((service, result), queries) ←
    (service.authenticateBy credentials.verify username password jti now).transcript
  return (service, ⟨result, queries⟩)

/-- Revokes a token until its expiry. Tokens that do not verify or have expired
are left alone. -/
def logout (service : AuthService) (raw : String) (now : Instant) :
    Logged (AuthService × Bool) := do
  match service.codec.verify raw with
  | .error error =>
    Logged.emit (.logoutUnverifiable error)
    return (service, false)
  | .ok claims =>
    if claims.isExpiredAt now then
      Logged.emit (.logoutExpired claims.jti)
      return (service, false)
    else
      let registry ← service.registry.revoke raw claims.expiresAt now
      Logged.emit (.loggedOut claims.sub claims.jti)
      return ({ service with registry }, true)

/-- Reads the claims of a token that is valid at `now`. An expiry is logged. -/
def validate (service : AuthService) (raw : String) (now : Instant) :
    Logged (Except TokenError Claims) := do
  match service.codec.verify raw with
  | .error error => return .error error
  | .ok claims =>
    if claims.isExpiredAt now then
      Logged.emit (.tokenExpired claims.jti claims.exp)
      return .error .expired
    else return .ok claims

theorem value_validate (service : AuthService) (raw : String) (now : Instant) :
    (service.validate raw now).value = service.codec.validate raw now := by
  unfold validate TokenCodec.validate
  cases service.codec.verify raw with
  | error error => rfl
  | ok claims =>
    cases h : claims.isExpiredAt now with
    | false => simp [h, bind, Except.bind, pure, Except.pure]
    | true =>
      simp [h, bind, Except.bind, pure, Except.pure]
      rfl

/-- A step of a decision, which may change the subsystem and puts questions about tokens. -/
abbrev Deciding := StateT AuthService (Asking BearerCheck)

/-- How the subsystem decides at an instant: by its own registry, and by its own codec. -/
def pipeline (now : Instant) : BearerPipeline Deciding where
  isRevoked raw := do
    let service ← get
    let answer ← Asking.ask BearerCheck.revocation (return service.registry.isRevoked raw now)
    set { service with registry := answer.1 }
    return answer.2
  validate raw now := do
    let service ← get
    Asking.ask BearerCheck.validation (service.validate raw now)
  clock := return now

/-- Takes a decision, and tells which subsystem it leaves, what it comes to, and which
questions it has put. -/
def conclude {α : Type} (service : AuthService) (decision : Deciding α) :
    Logged (AuthService × α × List BearerCheck) := do
  let ((result, service), checks) ← (decision.run service).transcript
  return (service, result, checks)

/-- Decides about the value of an authorization header at an instant, and tells which
questions have been put. -/
def evaluate (service : AuthService) (header : Option String) (now : Instant) :
    Logged (AuthService × BearerOutcome × List BearerCheck) :=
  service.conclude ((pipeline now).evaluate header)

/-- Decides about a request as a pipeline does, and tells which questions have been put. -/
def processBy (service : AuthService) (pipeline : BearerPipeline Deciding)
    (request : BearerRequest) :
    Logged (AuthService × BearerRequest × BearerOutcome × List BearerCheck) := do
  let (service, (request, outcome), checks) ← service.conclude (pipeline.process request)
  return (service, request, outcome, checks)

/-- Decides about a request at an instant, and logs the decision. -/
def process (service : AuthService) (request : BearerRequest) (now : Instant) :
    Logged (AuthService × BearerRequest × BearerOutcome × List BearerCheck) :=
  service.processBy (pipeline now) request

/-- Drops what has expired: revocations, and records of failures that have been
idle. -/
def sweep (service : AuthService) (idle : Duration) (now : Instant) : Logged AuthService := do
  let (registry, revocations) ← service.registry.purgeExpired now
  let (tracker, records) ← service.tracker.purgeStale idle now
  if 0 < revocations ∨ 0 < records then Logged.emit (.sweepCompleted revocations records)
  return { service with registry, tracker }

/-- The login side of the subsystem for people. -/
def describe (service : AuthService) : String :=
  outline "LoginUseCase" [("codec", service.codec.describe),
    ("attempts", toString service.tracker.size),
    ("revocations", toString service.registry.size)] true

/-- The bearer side of a subsystem that runs on the clock of the machine, for
people. -/
def describeClock : String := outline "AuthenticationPipeline" [("clock", "SystemClock")] true

end AuthService

end AuthGate
