import AuthGate.Settings.Environment
import AuthGate.Settings.Reading
import AuthGate.Toml.Document

namespace AuthGate

/-- A file with settings. -/
structure SettingsFile where
  path : String
  contents : String

/-- Why no settings could be loaded. -/
inductive LoadDefect where
  | unreadable
  | failed (failure : SettingFailure)
  | invalid (defect : AppDefect)

/-- The wording of a defect. -/
def LoadDefect.message : LoadDefect → String
  | unreadable => "config build error"
  | failed failure => s!"config deserialize error: {failure.message}"
  | invalid defect => defect.message

namespace SettingsFile

/-- The path of the settings file that nothing else is said about. -/
def defaultPath : String := "warden.toml"

/-- The parts of a path, without those that lead nowhere. -/
def pathParts (path : String) : List (List Char) :=
  (pieces '/' path.toList).filter fun part => part ≠ [] ∧ part ≠ ['.']

/-- The name of a file as a source. -/
def sourceName (file : SettingsFile) : String :=
  String.ofList (['/'].intercalate (pathParts file.path))

/-- The extension of a file: what follows the last point of its name, which does
not begin there. -/
def extension? (file : SettingsFile) : Option String :=
  match (pathParts file.path).getLast? with
  | none => none
  | some name =>
    let extension := name.reverse.takeWhile (· ≠ '.')
    if extension.length + 1 < name.length then some (String.ofList extension.reverse) else none

/-- The text of a file, without a mark of its byte order. -/
def text (file : SettingsFile) : String :=
  match file.contents.toList with
  | '\ufeff' :: cs => String.ofList cs
  | _ => file.contents

/-- The settings of a file. The extension says which language it is written
in. -/
def settings? (file : SettingsFile) : Option (List (String × Setting)) :=
  match file.extension? with
  | some "toml" => (Toml.read? file.text).map (Setting.ofTomlMembers file.sourceName)
  | some "json" => match (Json.readValue Json.maxDepth).whole (.ofString file.text) with
    | .ok (.object members) => some (Setting.ofJsonMembers file.sourceName [] members)
    | _ => none
  | _ => none

end SettingsFile

namespace AppSettings

/-- The settings of a file with those of the environment over them. -/
def gather (file : Option SettingsFile) (environment : Environment) :
    Except LoadDefect Setting := do
  let members ← match file with
    | none => .ok []
    | some file => match file.settings? with
      | some members => .ok members
      | none => .error .unreadable
  return ((Setting.table none []).overlay members).overlay environment.settings

/-- Loads the settings of a file and of the environment. What the environment
says counts. -/
def load (file : Option SettingsFile) (environment : Environment) :
    Except LoadDefect AppSettings := do
  let gathered ← gather file environment
  let settings ← (gathered.toRecord (shape settingFormat)).mapError .failed
  match settings.defect? with
  | some defect => .error (.invalid defect)
  | none => return settings

end AppSettings

end AuthGate
