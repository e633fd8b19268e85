import AuthGate.Settings.App
import AuthGate.Settings.Tree

namespace AuthGate

/-- The variables of an environment. -/
abbrev Environment := List (String × String)

namespace Environment

/-- What the names of variables with settings begin with, in any case. -/
def settingPrefix : String := "warden__"

/-- A character of a name in lower case. The Kelvin sign is the one character
outside ASCII that has its lower case inside. -/
def lowerNameChar (c : Char) : Char := if c = '\u212a' then 'k' else c.toLower

/-- A path with a point for every two underscores. -/
def pathChars : List Char → List Char
  | '_' :: '_' :: cs => '.' :: pathChars cs
  | c :: cs => c :: pathChars cs
  | [] => []

/-- The path of the setting that a variable sets. -/
def path? (name : String) : Option String :=
  let cs := name.toList.map lowerNameChar
  if settingPrefix.toList.isPrefixOf cs then
    some (String.ofList (pathChars (cs.drop settingPrefix.length)))
  else none

/-- A text as an integer of 64 bits. -/
def integer? (cs : List Char) : Option Int := do
  let (negative, ds) := FloatText.takeSign cs
  let n : Int ← Decimal.ofDigits? ds
  Decimal.inWord? (if negative then -n else n)

/-- The value of a variable. What reads as a truth value, an integer or a float
is one. -/
def scalarOf (value : String) : Scalar :=
  let word := lowerAscii value
  if word = "true" then .boolean true
  else if word = "false" then .boolean false
  else match integer? value.toList with
    | some n => .integer n
    | none => match FloatText.read? value.toList with
      | some x => .float x
      | none => .text value

/-- The source name of settings from variables. -/
def sourceName : String := "the environment"

/-- The settings of an environment, by their paths. -/
def settings (environment : Environment) : List (String × Setting) :=
  environment.filterMap fun (name, value) =>
    (path? name).map fun path => (path, .scalar (some sourceName) (scalarOf value))

/-- The value of a variable. -/
def get? (environment : Environment) (name : String) : Option String :=
  (environment.find? (·.1 = name)).map (·.2)

end Environment

end AuthGate
