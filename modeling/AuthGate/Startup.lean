import AuthGate.Logging.Filter
import AuthGate.Server
import AuthGate.Settings.EnvironmentFile
import AuthGate.Settings.Load

namespace AuthGate

/-- Where the settings file is, and who said so. -/
structure SettingsPath where
  path : String
  source : PathSource

namespace SettingsPath

/-- The path behind the first `--config` that has one. -/
def ofArguments? : List String → Option String
  | [] => none
  | argument :: rest =>
    if argument = "--config" then rest.head? else ofArguments? rest

/-- The settings file: the one of the arguments, else the one of the environment,
else the usual one. -/
def choose (arguments : List String) (environment : Environment) : SettingsPath :=
  match ofArguments? arguments with
  | some path => ⟨path, .argument⟩
  | none => match (environment.get? "WARDEN_CONFIG").filter (· ≠ "") with
    | some path => ⟨path, .environment⟩
    | none => ⟨SettingsFile.defaultPath, .default⟩

end SettingsPath

/-- How the program has ended: the events that it has logged, what it has
complained about, and the code that it exits with. -/
structure Report where
  events : List Event
  errors : List String
  exitCode : Nat

/-- A start of the program: its environment, the settings file with its contents
if there is one, and salts for the passwords. -/
structure Startup where
  environment : Environment
  path : SettingsPath
  contents : Option String
  salt : Nat → List UInt8

namespace Startup

/-- The variable with the filter of the log. -/
def filterVariable : String := "RUST_LOG"

/-- The filter that the environment asks for, if it can be read. -/
def wantedFilter? (s : Startup) : Option LogFilter :=
  (s.environment.get? filterVariable).bind LogFilter.ofText?

/-- The filter until the settings are loaded, and the name of its source. -/
def firstFilter (s : Startup) : LogFilter × String :=
  match s.wantedFilter? with
  | some filter => (filter, filterVariable)
  | none => (.ofLevelText AppSettings.default.logLevel, "config")

/-- The settings. -/
def settings (s : Startup) : Except LoadDefect AppSettings :=
  AppSettings.load (s.contents.map fun contents => ⟨s.path.path, contents⟩) s.environment

/-- The filter with the settings loaded, and what is logged about it. A filter of
the environment stays, also one that could not be read. -/
def secondFilter (s : Startup) (settings : AppSettings) : LogFilter × Event :=
  let (filter, source) := s.firstFilter
  if (s.environment.get? filterVariable).isSome then (filter, .levelNotApplied source)
  else (.ofLevelText settings.logLevel, .levelApplied settings.logLevel)

/-- A program that is ready to serve: the events that it has logged so far, the
filter of the log, the settings and the server. -/
structure Ready where
  events : List Event
  filter : LogFilter
  settings : AppSettings
  server : Server

/-- Starts the program up to the point where it serves. Settings that are valid and
still ask for more than a server can do end it with a code of their own. -/
def prepare (s : Startup) : Except Report Ready :=
  match s.settings with
  | .error defect => .error ⟨[], [s!"Configuration error: {defect.message}"], 2⟩
  | .ok settings =>
    let loaded : Event := .configurationLoaded s.path.path s.path.source settings.users.length
    let first := [loaded].filter s.firstFilter.1.admits
    let (filter, change) := s.secondFilter settings
    let wired := settings.wire s.salt
    let events := first ++ (change :: wired.events).filter filter.admits
    match wired.value with
    | .error defect =>
      .error ⟨events, [s!"Server initialization failed: {defect.message}"], 2⟩
    | .ok server =>
      if settings.server.isServable then .ok ⟨events, filter, settings, server⟩
      else .error ⟨events, ["Server initialization failed: too many concurrent requests"], 101⟩

/-- The end of a program that could not listen at its address. -/
def Ready.unserved (r : Ready) (reason : String) : Report :=
  ⟨r.events ++ [Event.stopped].filter r.filter.admits, [s!"Server error: {reason}"], 0⟩

end Startup

/-- The warning of a file with variables that was left at a defect. -/
def EnvironmentFile.Defect.warning (d : EnvironmentFile.Defect) : String :=
  s!"Warning: Failed to load .env file: {d.message}"

end AuthGate
