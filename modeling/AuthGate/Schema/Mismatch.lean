import AuthGate.Number.Shortest
import AuthGate.Text.Quoted

namespace AuthGate

/-- What a document holds at a place where something else was wanted. -/
inductive Found where
  | null
  | boolean (value : Bool)
  | integer (value : Int)
  | float (value : Float)
  | text (value : String)
  | sequence
  | map

/-- The name of what was found. Scalars are shown with their value. -/
def Found.describe : Found → String
  | null => "null"
  | boolean value => s!"boolean `{value}`"
  | integer value => s!"integer `{value}`"
  | float value => s!"floating point `{FloatText.shortest value}`"
  | text value => "string " ++ quoted value
  | sequence => "sequence"
  | map => "map"

/-- How a well-formed document fails to be a value of the type it is read as. -/
inductive Mismatch where
  | wrongType (found : Found) (expected : String)
  | badValue (found : Found) (expected : String)
  | badLength (length : Nat) (expected : String)
  | missingField (name : String)
  | duplicateField (name : String)
  | unknownVariant (name : String) (known : List String)
  | noVariantFits (type : String)
  | rejected (reason : String)
  | spanOverflow

/-- The variants that were possible, as a phrase. -/
def describeVariants : List String → String
  | [a] => s!"`{a}`"
  | [a, b] => s!"`{a}` or `{b}`"
  | names => "one of " ++ ", ".intercalate (names.map fun name => s!"`{name}`")

/-- The wording of a mismatch. -/
def Mismatch.message : Mismatch → String
  | wrongType found expected => s!"invalid type: {found.describe}, expected {expected}"
  | badValue found expected => s!"invalid value: {found.describe}, expected {expected}"
  | badLength length expected => s!"invalid length {length}, expected {expected}"
  | missingField name => s!"missing field `{name}`"
  | duplicateField name => s!"duplicate field `{name}`"
  | unknownVariant name known => s!"unknown variant `{name}`, expected {describeVariants known}"
  | noVariantFits type => s!"data did not match any variant of untagged enum {type}"
  | rejected reason => reason
  | spanOverflow => "the parts of a span add up past its range"

end AuthGate
