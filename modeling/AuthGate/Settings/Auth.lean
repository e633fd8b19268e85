import AuthGate.Lockout.Policy

namespace AuthGate

/-- How tokens are signed and how long they live. -/
structure TokenSettings where
  secret : String
  ttl : Duration
deriving DecidableEq

/-- How often expired state is swept out. -/
structure SweepSettings where
  interval : Duration
deriving DecidableEq

/-- The settings of the authentication subsystem. -/
structure AuthSettings where
  token : TokenSettings
  lockout : LockoutPolicy
  sweep : SweepSettings
deriving DecidableEq

/-- A setting that the subsystem cannot work with. -/
inductive SettingsDefect where
  | secretMissing
  | secretShort
  | ttlZero
  | thresholdZero
  | lockoutZero
  | capBelowLockout
  | sweepZero
deriving DecidableEq

namespace SettingsDefect

/-- Whether a value is missing, and not just wrong. -/
def isMissing : SettingsDefect → Bool
  | secretMissing => true
  | _ => false

/-- The rule that a defect breaks. -/
def rule : SettingsDefect → String
  | secretMissing => "token.secret"
  | secretShort => "token.secret must be at least 32 bytes"
  | ttlZero => "token.ttl must be > 0"
  | thresholdZero => "max_failed_attempts must be > 0"
  | lockoutZero => "lockout_duration must be > 0"
  | capBelowLockout => "max_lockout_duration must be >= lockout_duration"
  | sweepZero => "revocation.sweep_interval must be > 0"

/-- The wording of a defect. -/
def message (d : SettingsDefect) : String :=
  (if d.isMissing then "Missing required configuration: " else "Invalid configuration value: ")
    ++ d.rule

end SettingsDefect

namespace TokenSettings

/-- Without a secret, tokens that live for an hour. -/
def default : TokenSettings := ⟨"", .seconds 3600⟩

/-- The least length of a secret in bytes. -/
def minSecretBytes : Nat := 32

/-- How the settings are read. -/
def shape {m : Type → Type} [Monad m] {ν : Type} (format : Format m ν) :
    Shape m ν TokenSettings where
  name := "TokenConfig"
  initial := default
  fields := [
    ⟨"secret", false, fun v s => do return { s with secret := ← format.text v }⟩,
    ⟨"ttl", false, fun v s => do return { s with ttl := ← format.span v }⟩]

/-- The settings as a document, the secret included. -/
def toJson (s : TokenSettings) : Json.Value :=
  .object [("secret", .text s.secret), ("ttl", .text s.ttl.render)]

/-- The settings for people, without the secret. -/
def describe (s : TokenSettings) : String :=
  outline "TokenConfig" [("secret", redacted), ("ttl", s.ttl.renderBrief)] false

end TokenSettings

namespace SweepSettings

/-- One sweep a minute. -/
def default : SweepSettings := ⟨.seconds 60⟩

/-- How the settings are read. -/
def shape {m : Type → Type} [Monad m] {ν : Type} (format : Format m ν) :
    Shape m ν SweepSettings where
  name := "RevocationConfig"
  initial := default
  fields := [⟨"sweep_interval", false, fun v _ => do return ⟨← format.span v⟩⟩]

/-- The settings as a document. -/
def toJson (s : SweepSettings) : Json.Value :=
  .object [("sweep_interval", .text s.interval.render)]

/-- The settings for people. -/
def describe (s : SweepSettings) : String :=
  outline "RevocationConfig" [("sweep_interval", s.interval.renderBrief)] false

end SweepSettings

namespace AuthSettings

/-- The settings that an empty configuration stands for. -/
def default : AuthSettings := ⟨.default, .default, .default⟩

/-- The first setting that the subsystem cannot work with. -/
def defect? (s : AuthSettings) : Option SettingsDefect :=
  if s.token.secret = "" then some .secretMissing
  else if s.token.secret.utf8ByteSize < TokenSettings.minSecretBytes then some .secretShort
  else if s.token.ttl = .zero then some .ttlZero
  else if s.lockout.maxFailedAttempts = 0 then some .thresholdZero
  else if s.lockout.lockoutDuration = .zero then some .lockoutZero
  else if s.lockout.maxLockoutDuration < s.lockout.lockoutDuration then some .capBelowLockout
  else if s.sweep.interval = .zero then some .sweepZero
  else none

/-- How the settings are read. -/
def shape {m : Type → Type} [Monad m] {ν : Type} (format : Format m ν) :
    Shape m ν AuthSettings where
  name := "AuthConfig"
  initial := default
  fields := [
    ⟨"token", false, fun v s => do
      return { s with token := ← format.record (TokenSettings.shape format) v }⟩,
    ⟨"lockout", false, fun v s => do
      return { s with lockout := ← format.record (LockoutPolicy.shape format) v }⟩,
    ⟨"revocation", false, fun v s => do
      return { s with sweep := ← format.record (SweepSettings.shape format) v }⟩]

/-- The settings as a document. -/
def toJson (s : AuthSettings) : Json.Value :=
  .object [("token", s.token.toJson), ("lockout", s.lockout.toJson),
    ("revocation", s.sweep.toJson)]

/-- The settings for people. -/
def describe (s : AuthSettings) : String :=
  outline "AuthConfig" [("token", s.token.describe), ("lockout", s.lockout.describe),
    ("revocation", s.sweep.describe)] false

end AuthSettings

end AuthGate
