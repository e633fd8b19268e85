import AuthGate.Json.Value
import AuthGate.Text.Pieces
import AuthGate.Toml.Value

namespace AuthGate

/-- A setting without parts. -/
inductive Scalar where
  | null
  | boolean (b : Bool)
  | integer (n : Int)
  | float (x : Float)
  | text (s : String)

/-- Settings as they come from their sources, before they have a meaning. What a
source has said carries the name of the source. The members of a table have
different keys. -/
inductive Setting where
  | scalar (origin : Option String) (value : Scalar)
  | list (origin : Option String) (items : List Setting)
  | table (origin : Option String) (members : List (String × Setting))

/-- A step from a setting to one of its parts. A negative index counts from the
end of a list. -/
inductive SettingStep where
  | key (name : String)
  | index (n : Int)
deriving DecidableEq

namespace Setting

/-- A setting that no source has said anything about. -/
def unset : Setting := scalar none .null

instance : Inhabited Setting := ⟨unset⟩

/-- Where a setting comes from. -/
def origin : Setting → Option String
  | scalar origin _ => origin
  | list origin _ => origin
  | table origin _ => origin

/-- A member of a table. -/
def member? (name : String) (members : List (String × Setting)) : Option Setting :=
  (members.find? (·.1 = name)).map (·.2)

/-- Changes the member of a key. A new one comes from nothing, to the end. -/
def edit (name : String) (f : Setting → Setting) :
    List (String × Setting) → List (String × Setting)
  | [] => [(name, f unset)]
  | (k, s) :: members => if k = name then (k, f s) :: members else (k, s) :: edit name f members

/-- The members of a setting with their source. One that is no table is forgotten
for an empty table without a source. -/
def asTable : Setting → Option String × List (String × Setting)
  | table origin members => (origin, members)
  | _ => (none, [])

/-- The items of a setting with their source. One that is no list is forgotten
for an empty list without a source. -/
def asList : Setting → Option String × List Setting
  | list origin items => (origin, items)
  | _ => (none, [])

/-- A list that is long enough for an index, and the place of the index in it. -/
def reach (n : Int) (items : List Setting) : List Setting × Nat :=
  if 0 ≤ n then
    (items ++ List.replicate (n.toNat + 1 - items.length) unset, n.toNat)
  else
    let short := n.natAbs - items.length
    (List.replicate short unset ++ items, items.length + short - n.natAbs)

/-- Changes the part at the end of a path. What the path needs is made. -/
def editAt (f : Setting → Setting) : List SettingStep → Setting → Setting
  | [], s => f s
  | .key name :: path, s =>
    let (origin, members) := s.asTable
    table origin (edit name (editAt f path) members)
  | .index n :: path, s =>
    let (origin, items) := s.asList
    let (items, place) := reach n items
    list origin (items.modify place (editAt f path))

mutual

/-- Lays a setting over another one. Tables are laid over each other member by
member; anything else hides what lies under it. -/
def overlaid (under : Setting) : Setting → Setting
  | scalar origin value => scalar origin value
  | list origin items => list origin items
  | table _ members =>
    let (origin, below) := under.asTable
    table origin (overlaidMembers below members)

/-- Lays members over other ones. -/
def overlaidMembers (below : List (String × Setting)) :
    List (String × Setting) → List (String × Setting)
  | [] => below
  | (name, s) :: members =>
    overlaidMembers (edit name (fun under => under.overlaid s) below) members

end

/-- Whether a character may stand in a key of a path. -/
def isPathChar (c : Char) : Bool := c.isAlphanum || c = '_' || c = '-'

/-- Reads an index, with space around it, as a number of 64 bits. -/
def readIndex? (cs : List Char) : Option Int := do
  let isSpace (c : Char) : Bool := c = ' ' || c = '\t'
  let inner := ((cs.dropWhile isSpace).reverse.dropWhile isSpace).reverse
  let (negative, ds) := match inner with
    | '-' :: ds => (true, ds)
    | ds => (false, ds)
  let n : Int ← Decimal.ofDigits? ds
  Decimal.inWord? (if negative then -n else n)

/-- Reads the rest of a path, behind a key. Every step takes at least one
character. -/
def readSteps? : Nat → List Char → Option (List SettingStep)
  | _, [] => some []
  | 0, _ => none
  | fuel + 1, '.' :: cs =>
    let name := cs.takeWhile isPathChar
    if name = [] then none
    else (readSteps? fuel (cs.dropWhile isPathChar)).map (.key (.ofList name) :: ·)
  | fuel + 1, '[' :: cs =>
    match cs.dropWhile (· ≠ ']') with
    | [] => none
    | _ :: rest => do
      let n ← readIndex? (cs.takeWhile (· ≠ ']'))
      return .index n :: (← readSteps? fuel rest)
  | _ + 1, _ => none

/-- Reads a path such as `users[0].name`. A text that is no path is one key. -/
def pathOf (text : String) : List SettingStep :=
  let cs := text.toList
  let name := cs.takeWhile isPathChar
  let steps := if name = [] then none else readSteps? cs.length (cs.dropWhile isPathChar)
  match steps with
  | some steps => .key (.ofList name) :: steps
  | none => [.key text]

/-- Lays a setting over the part that a path names. -/
def set (root : Setting) (path : String) (value : Setting) : Setting :=
  root.editAt (·.overlaid value) (pathOf path)

/-- Lays the members of a source over the settings so far. Their keys are
paths. -/
def overlay (root : Setting) (members : List (String × Setting)) : Setting :=
  members.foldl (fun root (path, value) => root.set path value) root

mutual

/-- The settings of a document with the source named. -/
def ofToml (origin : String) : Toml.Value → Setting
  | .text s => scalar (some origin) (.text s)
  | .integer n => scalar (some origin) (.integer n)
  | .float x => scalar (some origin) (.float x)
  | .boolean b => scalar (some origin) (.boolean b)
  | .moment m => scalar (some origin) (.text m.render)
  | .list items => list (some origin) (ofTomlItems origin items)
  | .table members => table (some origin) (ofTomlMembers origin members)

/-- The items of a list with the source named. -/
def ofTomlItems (origin : String) : List Toml.Value → List Setting
  | [] => []
  | item :: items => ofToml origin item :: ofTomlItems origin items

/-- The members of a table with the source named. -/
def ofTomlMembers (origin : String) : List (String × Toml.Value) → List (String × Setting)
  | [] => []
  | (name, value) :: members => (name, ofToml origin value) :: ofTomlMembers origin members

end

/-- A number of a document. Integers of more than 64 bits with a sign are
floats. -/
def ofNumber : Json.Number → Scalar
  | .natural n => if n < 0x8000_0000_0000_0000 then .integer n else .float (Float.ofNat n)
  | .negative n => .integer n
  | .float x => .float x

mutual

/-- The settings of a document with the source named. -/
def ofJson (origin : String) : Json.Value → Setting
  | .null => scalar (some origin) .null
  | .boolean b => scalar (some origin) (.boolean b)
  | .number n => scalar (some origin) (ofNumber n)
  | .text s => scalar (some origin) (.text s)
  | .list items => list (some origin) (ofJsonItems origin items)
  | .object members => table (some origin) (ofJsonMembers origin [] members)

/-- The items of a list with the source named. -/
def ofJsonItems (origin : String) : List Json.Value → List Setting
  | [] => []
  | item :: items => ofJson origin item :: ofJsonItems origin items

/-- The members of an object with the source named. Of members of one key the
last one counts. -/
def ofJsonMembers (origin : String) (sofar : List (String × Setting)) :
    List (String × Json.Value) → List (String × Setting)
  | [] => sofar
  | (name, value) :: members =>
    ofJsonMembers origin (edit name (fun _ => ofJson origin value) sofar) members

end

end Setting

end AuthGate
