import AuthGate.Error
import AuthGate.Lockout.Policy
import AuthGate.Time.Calendar

namespace AuthGate

/-- How much an event matters. -/
inductive Level where
  | error
  | warn
  | info
  | debug
  | trace
deriving DecidableEq

/-- The name of a level in the log. -/
def Level.name : Level → String
  | error => "ERROR"
  | warn => "WARN"
  | info => "INFO"
  | debug => "DEBUG"
  | trace => "TRACE"

/-- Where a configuration path came from. -/
inductive PathSource where
  | argument
  | environment
  | default
deriving DecidableEq

/-- A source of a configuration path for people. -/
def PathSource.label : PathSource → String
  | argument => "CLI argument (--config)"
  | environment => "environment variable (WARDEN_CONFIG)"
  | default => "default"

/-- Something that happened and is written to the log. -/
inductive Event where
  | tokenIssued (subject jti : String) (exp : Int)
  | tokenExpired (jti : String) (exp : Int)
  | accountLocked (username : String) (attempts : Nat) (deadline : Option Instant)
  | failureRecorded (username : String) (attempts : Nat)
  | lockCleared (username : String)
  | recordsPurged (removed remaining : Nat)
  | revocationSkipped (key : String)
  | revocationsPurged (removed remaining : Nat)
  | loginLocked (username : String) (remaining : Duration)
  | loginFailed (username : String) (attempts : Nat)
  | storeFailed (username : String) (error : AuthError)
  | loginSucceeded (subject jti : String)
  | logoutUnverifiable (error : TokenError)
  | logoutExpired (jti : String)
  | loggedOut (subject jti : String)
  | logoutWithoutToken
  | requestAuthenticated (subject jti : String)
  | tokenRejected (error : AuthError)
  | serverError (error : AuthError)
  | sweepCompleted (revocations records : Nat)
  | initialized (ttl : Duration) (threshold : Nat) (escalation : Escalation)
  | requestHandled (status : Nat)
  | middlewareFailed (reason : String)
  | noUsers
  | configurationLoaded (path : String) (source : PathSource) (users : Nat)
  | levelApplied (level : String)
  | levelNotApplied (filter : String)
  | stopped

/-- The value of a field of an event. A quotation is a text that stands in quotes
on a line of the log. -/
inductive FieldValue where
  | number (n : Int)
  | text (s : String)
  | quotation (s : String)

/-- A value on a line of the log. -/
def FieldValue.render : FieldValue → String
  | number n => Decimal.signed n
  | text s => s
  | quotation s => quoted s

namespace Event

/-- How much an event matters. -/
def level : Event → Level
  | serverError _ | storeFailed .. | middlewareFailed _ => .error
  | accountLocked .. | loginLocked .. | loginFailed .. | tokenRejected _ | noUsers => .warn
  | lockCleared _ | loginSucceeded .. | loggedOut .. | initialized .. | requestHandled _
  | configurationLoaded .. | levelNotApplied _ | stopped => .info
  | _ => .debug

/-- What happened, in a fixed phrase. -/
def message : Event → String
  | tokenIssued .. => "Token issued"
  | tokenExpired .. => "Token expired"
  | accountLocked .. => "Account locked after repeated failed logins"
  | failureRecorded .. => "Failed login recorded"
  | lockCleared _ => "Account lock cleared"
  | recordsPurged .. => "Purged stale lockout records"
  | revocationSkipped _ => "Skipping revocation of expired token"
  | revocationsPurged .. => "Purged expired revocations"
  | loginLocked .. => "Login rejected: account locked"
  | loginFailed .. => "Login failed: invalid credentials"
  | storeFailed .. => "Credential store failed"
  | loginSucceeded .. => "Login succeeded"
  | logoutUnverifiable _ => "Logout ignored: token not verifiable"
  | logoutExpired _ => "Logout ignored: token already expired"
  | loggedOut .. => "Logged out"
  | logoutWithoutToken => "Logout without bearer token"
  | requestAuthenticated .. => "Request authenticated"
  | tokenRejected _ => "Bearer token rejected"
  | serverError _ => "Authentication failed with server error"
  | sweepCompleted .. => "Auth state sweep completed"
  | initialized .. => "Authentication subsystem initialized"
  | requestHandled _ => "request handled"
  | middlewareFailed _ => "unhandled middleware error"
  | noUsers => "no users configured; every login will fail"
  | configurationLoaded .. => "Configuration loaded"
  | levelApplied _ => "log level applied"
  | levelNotApplied _ => "Configured log level not applied"
  | stopped => "warden stopped"

/-- An instant that may be missing, for people. -/
def renderInstant? : Option Instant → String
  | none => "None"
  | some t => s!"Some({t.render})"

/-- What an event is about, field by field. -/
def fields : Event → List (String × FieldValue)
  | tokenIssued subject jti exp =>
    [("subject", .text subject), ("jti", .text jti), ("exp", .number exp)]
  | tokenExpired jti exp => [("jti", .text jti), ("exp", .number exp)]
  | accountLocked username attempts deadline =>
    [("username", .text username), ("attempts", .number attempts),
      ("locked_until", .text (renderInstant? deadline))]
  | failureRecorded username attempts =>
    [("username", .text username), ("attempts", .number attempts)]
  | lockCleared username => [("username", .text username)]
  | recordsPurged removed remaining =>
    [("removed", .number removed), ("remaining", .number remaining)]
  | revocationSkipped key => [("key", .text key)]
  | revocationsPurged removed remaining =>
    [("removed", .number removed), ("remaining", .number remaining)]
  | loginLocked username remaining =>
    [("username", .text username), ("remaining_secs", .number remaining.secs)]
  | loginFailed username attempts =>
    [("username", .text username), ("attempts", .number attempts)]
  | storeFailed username error =>
    [("username", .text username), ("error", .text error.message)]
  | loginSucceeded subject jti => [("subject", .text subject), ("jti", .text jti)]
  | logoutUnverifiable error => [("error", .text error.message)]
  | logoutExpired jti => [("jti", .text jti)]
  | loggedOut subject jti => [("subject", .text subject), ("jti", .text jti)]
  | logoutWithoutToken => []
  | requestAuthenticated subject jti => [("subject", .text subject), ("jti", .text jti)]
  | tokenRejected error => [("reason", .quotation error.reason)]
  | serverError error => [("error", .text error.message)]
  | sweepCompleted revocations records =>
    [("revocations", .number revocations), ("lockout_records", .number records)]
  | initialized ttl threshold escalation =>
    [("token_ttl_secs", .number ttl.secs), ("max_failed_attempts", .number threshold),
      ("escalation", .text escalation.label)]
  | requestHandled status => [("http.status", .text (toString status))]
  | middlewareFailed reason => [("error", .text reason)]
  | noUsers => []
  | configurationLoaded path source users =>
    [("path", .text path), ("source", .text source.label), ("users", .number users)]
  | levelApplied level => [("level", .quotation level)]
  | levelNotApplied filter => [("filter", .text filter)]
  | stopped => []

/-- The part of the program that writes an event. Filters go by it. -/
def target : Event → String
  | tokenIssued .. | tokenExpired .. => "warden_auth::token::jwt"
  | revocationSkipped _ | revocationsPurged .. => "warden_auth::token::revocation"
  | accountLocked .. | failureRecorded .. | lockCleared _ | recordsPurged .. =>
    "warden_auth::lockout"
  | loginLocked .. | loginFailed .. | storeFailed .. | loginSucceeded .. | logoutUnverifiable _
  | logoutExpired _ | loggedOut .. => "warden_auth::login"
  | logoutWithoutToken => "warden_auth::http::logout"
  | requestAuthenticated .. | tokenRejected _ => "warden_auth::pipeline"
  | serverError _ => "warden_auth::middleware::error"
  | sweepCompleted .. => "warden_auth::sweeper"
  | initialized .. => "warden_auth::components"
  | requestHandled _ | noUsers => "warden_server::server"
  | middlewareFailed _ => "warden_server::handlers"
  | configurationLoaded .. | levelNotApplied _ => "warden_server"
  | levelApplied _ | stopped => "warden_server::observability"

/-- An event on a line of the log. -/
def line (e : Event) : String :=
  s!"{e.level.name} {e.target}: {e.message}"
    ++ String.join (e.fields.map fun (name, value) => s!" {name}={value.render}")

end Event

/-- A value together with the events of its making, first to last. -/
structure Logged (α : Type) where
  value : α
  events : List Event

namespace Logged

instance : Monad Logged where
  pure a := ⟨a, []⟩
  bind x f := ⟨(f x.value).value, x.events ++ (f x.value).events⟩

/-- Writes an event to the log. -/
def emit (e : Event) : Logged Unit := ⟨(), [e]⟩

@[simp] theorem value_pure {α : Type} (a : α) : (pure a : Logged α).value = a := rfl

@[simp] theorem events_pure {α : Type} (a : α) : (pure a : Logged α).events = [] := rfl

@[simp] theorem value_bind {α β : Type} (x : Logged α) (f : α → Logged β) :
    (x >>= f).value = (f x.value).value := rfl

instance : LawfulMonad Logged := LawfulMonad.mk' Logged
  (fun x => by cases x; simp [Functor.map]) (fun _ _ => rfl)
  (fun _ _ _ => by simp [bind, List.append_assoc])

end Logged

end AuthGate
