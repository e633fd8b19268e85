import AuthGate.Text.Quoted

namespace AuthGate

/-- The outline of a record for people: its name, then its fields with their
values in braces. `more` marks a record that has fields not shown. -/
def outline (name : String) (fields : List (String × String)) (more : Bool) : String :=
  let parts := fields.map (fun (field, value) => s!"{field}: {value}")
    ++ if more then [".."] else []
  name ++ " \x7b " ++ ", ".intercalate parts ++ " \x7d"

/-- The outline of a list for people. -/
def outlineList (items : List String) : String := "[" ++ ", ".intercalate items ++ "]"

/-- What stands in an outline in place of a secret. -/
def redacted : String := quoted "[redacted]"

end AuthGate
