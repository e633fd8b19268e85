import AuthGate.Crypto.Sha256
import AuthGate.Password.Store
import AuthGate.Settings.App

namespace AuthGate

/-- One of the salts that come of random bytes. -/
def saltOf (random : List UInt8) (index : Nat) : List UInt8 :=
  (Sha256.hash (random ++ utf8 (toString index))).take 16

/-- A wired server: the authentication subsystem and the accounts it checks
against. -/
structure Server where
  service : AuthService
  credentials : CredentialStore Argon2.scheme

/-- When expired state is swept out: how often, how long idle records of failures
are kept, and when it was done last. -/
structure Sweeper where
  interval : Duration
  idle : Duration
  last : Option Instant

namespace Sweeper

/-- The sweeper of the settings. -/
def ofSettings (s : AuthSettings) : Sweeper :=
  ⟨s.sweep.interval, s.lockout.idleRecordTtl, none⟩

/-- Whether a sweep is due. The first one is due at once. -/
def isDue (s : Sweeper) (now : Instant) : Bool :=
  match s.last with
  | none => true
  | some last => (last.add? s.interval).any (· ≤ now)

/-- Sweeps if it is time to. -/
def tick (s : Sweeper) (service : AuthService) (now : Instant) :
    Logged (Sweeper × AuthService) := do
  if s.isDue now then return ({ s with last := some now }, ← service.sweep s.idle now)
  else return (s, service)

end Sweeper

namespace AppSettings

/-- The accounts of the settings, the password of each under its own salt. -/
def credentials (s : AppSettings) (salt : Nat → List UInt8) : CredentialStore Argon2.scheme :=
  .ofUsers (s.users.zipIdx.map fun (user, index) =>
    (user.username, user.password, salt index))

/-- Wires a server. Settings without accounts are warned of. -/
def wire (s : AppSettings) (salt : Nat → List UInt8) : Logged (Except SettingsDefect Server) := do
  let credentials := s.credentials salt
  if credentials.isEmpty then Logged.emit .noUsers
  match AuthService.build s.auth with
  | .error defect => return .error defect
  | .ok built => return .ok ⟨← built, credentials⟩

end AppSettings

end AuthGate
