import AuthGate.Net.Address
import AuthGate.Settings.Auth
import AuthGate.Text.Blank

namespace AuthGate

/-- Where the server listens and what it lets through. -/
structure ServerSettings where
  host : String
  port : UInt16
  requestTimeoutMs : UInt64
  bodyLimitBytes : UInt64
  maxConcurrentRequests : UInt64
deriving DecidableEq

/-- An account of the configuration. -/
structure UserEntry where
  username : String
  password : String
deriving DecidableEq

/-- All settings of the server. -/
structure AppSettings where
  server : ServerSettings
  logLevel : String
  auth : AuthSettings
  users : List UserEntry
deriving DecidableEq

namespace ServerSettings

/-- Port 8080 on every address, with 15 seconds and 64 KiB for a request. -/
def default : ServerSettings := ⟨"0.0.0.0", 8080, 15000, 65536, 1024⟩

/-- The most requests that a server can keep apart at a time. -/
def maxConcurrency : UInt64 := 0x1fff_ffff_ffff_ffff

/-- Whether a server can be set up with the settings. -/
def isServable (s : ServerSettings) : Bool := s.maxConcurrentRequests ≤ maxConcurrency

/-- How the settings are read. -/
def shape {m : Type → Type} [Monad m] {ν : Type} (format : Format m ν) :
    Shape m ν ServerSettings where
  name := "ServerConfig"
  initial := default
  fields := [
    ⟨"host", false, fun v s => do return { s with host := ← format.text v }⟩,
    ⟨"port", false, fun v s => do
      return { s with port := .ofNat (← format.natural .bits16 v) }⟩,
    ⟨"request_timeout_ms", false, fun v s => do
      return { s with requestTimeoutMs := .ofNat (← format.natural .bits64 v) }⟩,
    ⟨"body_limit_bytes", false, fun v s => do
      return { s with bodyLimitBytes := .ofNat (← format.natural .size v) }⟩,
    ⟨"max_concurrent_requests", false, fun v s => do
      return { s with maxConcurrentRequests := .ofNat (← format.natural .size v) }⟩]

/-- The settings as a document. -/
def toJson (s : ServerSettings) : Json.Value :=
  .object [("host", .text s.host), ("port", .natural s.port.toNat),
    ("request_timeout_ms", .natural s.requestTimeoutMs.toNat),
    ("body_limit_bytes", .natural s.bodyLimitBytes.toNat),
    ("max_concurrent_requests", .natural s.maxConcurrentRequests.toNat)]

/-- The settings for people. -/
def describe (s : ServerSettings) : String :=
  outline "ServerConfig" [("host", quoted s.host), ("port", toString s.port.toNat),
    ("request_timeout_ms", toString s.requestTimeoutMs.toNat),
    ("body_limit_bytes", toString s.bodyLimitBytes.toNat),
    ("max_concurrent_requests", toString s.maxConcurrentRequests.toNat)] false

end ServerSettings

namespace UserEntry

/-- How an account is read. It needs both of its fields. -/
def shape {m : Type → Type} [Monad m] {ν : Type} (format : Format m ν) :
    Shape m ν UserEntry where
  name := "UserConfig"
  initial := ⟨"", ""⟩
  fields := [
    ⟨"username", true, fun v u => do return { u with username := ← format.text v }⟩,
    ⟨"password", true, fun v u => do return { u with password := ← format.text v }⟩]

/-- An account as a document, the password included. -/
def toJson (u : UserEntry) : Json.Value :=
  .object [("username", .text u.username), ("password", .text u.password)]

/-- An account for people, without the password. -/
def describe (u : UserEntry) : String :=
  outline "UserConfig" [("username", quoted u.username), ("password", redacted)] false

end UserEntry

/-- A setting that the server cannot work with. -/
inductive AppDefect where
  | zero (setting : String)
  | unknownLevel
  | auth (defect : SettingsDefect)
  | emptyUser (index : Nat) (field : String)
deriving DecidableEq

/-- The names of the log levels, from all events to none. -/
def logLevels : List String := ["trace", "debug", "info", "warn", "error", "off"]

/-- The wording of a defect. -/
def AppDefect.message : AppDefect → String
  | zero setting => s!"server.{setting} must be > 0"
  | unknownLevel => "logging.level must be one of " ++ outlineList (logLevels.map quoted)
  | auth defect => s!"auth: {defect.message}"
  | emptyUser index field => s!"users[{index}].{field} must not be empty"

/-- A text with its ASCII letters in lower case. -/
def lowerAscii (text : String) : String := String.ofList (text.toList.map Char.toLower)

namespace AppSettings

/-- The settings that an empty configuration stands for. -/
def default : AppSettings := ⟨.default, "info", .default, []⟩

/-- The first account with an empty field, a name of blanks counting as empty. -/
def userDefect? : Nat → List UserEntry → Option AppDefect
  | _, [] => none
  | index, u :: users =>
    if u.username.toList.all isBlank then some (.emptyUser index "username")
    else if u.password = "" then some (.emptyUser index "password")
    else userDefect? (index + 1) users

/-- The first setting that the server cannot work with. -/
def defect? (s : AppSettings) : Option AppDefect :=
  if s.server.port = 0 then some (.zero "port")
  else if s.server.requestTimeoutMs = 0 then some (.zero "request_timeout_ms")
  else if s.server.bodyLimitBytes = 0 then some (.zero "body_limit_bytes")
  else if s.server.maxConcurrentRequests = 0 then some (.zero "max_concurrent_requests")
  else if !logLevels.contains (lowerAscii s.logLevel) then some .unknownLevel
  else match s.auth.defect? with
    | some defect => some (.auth defect)
    | none => userDefect? 0 s.users

/-- The address to listen on. A host that is no address stands for all. -/
def address (s : AppSettings) : SocketAddress :=
  ⟨(IpAddress.parse? s.server.host).getD .unspecified, s.server.port⟩

/-- How the log level is read. -/
def loggingShape {m : Type → Type} [Monad m] {ν : Type} (format : Format m ν) :
    Shape m ν String where
  name := "LoggingConfig"
  initial := default.logLevel
  fields := [⟨"level", false, fun v _ => format.text v⟩]

/-- How the settings are read. -/
def shape {m : Type → Type} [Monad m] {ν : Type} (format : Format m ν) :
    Shape m ν AppSettings where
  name := "AppConfig"
  initial := default
  fields := [
    ⟨"server", false, fun v s => do
      return { s with server := ← format.record (ServerSettings.shape format) v }⟩,
    ⟨"logging", false, fun v s => do
      return { s with logLevel := ← format.record (loggingShape format) v }⟩,
    ⟨"auth", false, fun v s => do
      return { s with auth := ← format.record (AuthSettings.shape format) v }⟩,
    ⟨"users", false, fun v s => do
      return { s with users := ← format.list (format.record (UserEntry.shape format)) v }⟩]

/-- The settings as a document. -/
def toJson (s : AppSettings) : Json.Value :=
  .object [("server", s.server.toJson), ("logging", .object [("level", .text s.logLevel)]),
    ("auth", s.auth.toJson), ("users", .list (s.users.map (·.toJson)))]

/-- The settings for people. -/
def describe (s : AppSettings) : String :=
  outline "AppConfig" [("server", s.server.describe),
    ("logging", outline "LoggingConfig" [("level", quoted s.logLevel)] false),
    ("auth", s.auth.describe), ("users", outlineList (s.users.map (·.describe)))] false

end AppSettings

end AuthGate
