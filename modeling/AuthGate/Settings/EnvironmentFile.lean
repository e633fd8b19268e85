import AuthGate.Settings.Environment
import AuthGate.Text.Blank

namespace AuthGate.EnvironmentFile

/-- A line that sets no variable, and where in it reading stopped. -/
structure Defect where
  line : String
  position : Nat

/-- The wording of a defect. -/
def Defect.message (d : Defect) : String :=
  s!"Error parsing line: '{d.line}', error at line index: {d.position}"

/-- Where the search for the end of a line stands. Quotes carry a line over its
newlines, and a comment ends it. -/
inductive LinePhase where
  | plain
  | blank
  | escape
  | strong
  | strongEscape
  | weak
  | weakEscape
deriving DecidableEq

/-- Takes one character of a line. A comment, which begins behind a blank, has no
phase. -/
def LinePhase.step (phase : LinePhase) (c : Char) : Option LinePhase :=
  let opening : LinePhase :=
    if c = '\\' then escape
    else if c = '"' then weak
    else if c = '\'' then strong
    else plain
  match phase with
  | blank => if c = '#' then none else some opening
  | plain => some (if isBlank c ∧ c ≠ '\n' ∧ c ≠ '\r' then blank else opening)
  | escape => some plain
  | weak => some (if c = '\\' then weakEscape else if c = '"' then plain else weak)
  | weakEscape => some weak
  | strong => some (if c = '\\' then strongEscape else if c = '\'' then plain else strong)
  | strongEscape => some strong

/-- Takes the characters of one line of the file. The characters in front of a
comment are given for it. -/
def scanLine : LinePhase → List Char → List Char × Option LinePhase
  | phase, [] => ([], some phase)
  | phase, c :: cs => match phase.step c with
    | none => ([], none)
    | some phase =>
      let (taken, ended) := scanLine phase cs
      (c :: taken, ended)

/-- The characters up to and with the first newline, and what follows. -/
def takeLine : List Char → List Char × List Char
  | [] => ([], [])
  | c :: cs =>
    if c = '\n' then ([c], cs)
    else
      let (line, rest) := takeLine cs
      (c :: line, rest)

/-- A line without its newline. -/
def dropNewline (line : List Char) : List Char :=
  match line.reverse with
  | '\n' :: '\r' :: cs => cs.reverse
  | '\n' :: cs => cs.reverse
  | _ => line

/-- Takes a logical line off a file, `sofar` being its lines up to here. A line
that begins like a comment is empty. Without characters left there is none; a
line that the file ends inside of is a defect. -/
def logicalLine : Nat → List Char → LinePhase → List Char →
    Option (Except Defect (List Char × List Char))
  | 0, _, _, _ => none
  | _ + 1, sofar, phase, [] =>
    if phase = .plain then none
    else
      let line := String.ofList sofar
      some (.error ⟨line, line.utf8ByteSize⟩)
  | fuel + 1, sofar, phase, cs =>
    let (line, rest) := takeLine cs
    if ((sofar ++ line).dropWhile isBlank).head? = some '#' then some (.ok ([], rest))
    else match scanLine phase line with
      | (taken, none) => some (.ok (sofar ++ taken, rest))
      | (_, some .plain) => some (.ok (dropNewline (sofar ++ line), rest))
      | (_, some phase) => logicalLine fuel (sofar ++ line) phase rest

/-- Variables that can be referred to: those of the environment, and those that
the file has set before. -/
structure Known where
  environment : Environment
  set : List (String × String)

/-- The value that a reference stands for. The environment comes first; an unknown
variable is empty. -/
def Known.value (known : Known) (name : List Char) : String :=
  let name := String.ofList name
  ((if name = "" then none else known.environment.get? name).or
    ((known.set.find? (·.1 = name)).map (·.2))).getD ""

/-- Where the reading of a value stands: between two characters, inside a
reference, or past the value. `weak` says whether double quotes are open. Names
of references are kept last first. -/
inductive ValuePhase where
  | plain (weak : Bool)
  | escape (weak : Bool)
  | strong
  | reference (weak : Bool) (name : List Char)
  | braced (weak : Bool) (name : List Char)
  | past
  | comment

/-- Whether a character may stand in a reference without braces. -/
def isReferenceChar (c : Char) : Bool := c.isAlphanum || 0x80 ≤ c.toNat

/-- Takes one character of a value. What has no phase afterwards is a defect. -/
def ValuePhase.step (known : Known) (phase : ValuePhase) (c : Char) :
    Option (List Char × ValuePhase) :=
  match phase with
  | past =>
    if c = ' ' ∨ c = '\t' then some ([], past)
    else if c = '#' then some ([], comment)
    else none
  | comment => some ([], comment)
  | escape weak =>
    if c = '\\' ∨ c = '\'' ∨ c = '"' ∨ c = '$' ∨ c = ' ' then some ([c], plain weak)
    else if c = 'n' then some (['\n'], plain weak)
    else none
  | strong => if c = '\'' then some ([], plain false) else some ([c], strong)
  | reference weak name =>
    if isReferenceChar c then some ([], reference weak (c :: name))
    else if c = '\x7b' ∧ name = [] then some ([], braced weak [])
    else
      let value := (known.value name.reverse).toList
      if c = '$' then some (value, reference weak []) else some (value ++ [c], plain weak)
  | braced weak name =>
    if isReferenceChar c then some ([], braced weak (c :: name))
    else if c = '\x7d' then some ((known.value name.reverse).toList, plain weak)
    else some ([], braced weak (c :: name))
  | plain weak =>
    if c = '$' then some ([], reference weak [])
    else if c = '\\' then some ([], escape weak)
    else if c = '"' then some ([], plain !weak)
    else if weak then some ([c], plain weak)
    else if c = '\'' then some ([], strong)
    else if c = ' ' ∨ c = '\t' then some ([], past)
    else some ([c], plain weak)

/-- Takes the characters of a value from the one with the number given on. The
number of the one that does not fit is the defect. -/
def scanValue (known : Known) : Nat → ValuePhase → List Char →
    Except Nat (List Char × ValuePhase)
  | _, phase, [] => .ok ([], phase)
  | index, phase, c :: cs => match phase.step known c with
    | none => .error index
    | some (taken, phase) => do
      let (value, phase) ← scanValue known (index + 1) phase cs
      return (taken ++ value, phase)

/-- Reads a value. Its quotes and braces have to be closed. -/
def readValue (known : Known) (cs : List Char) : Except Defect String :=
  let text := String.ofList cs
  let unclosed : Except Defect String := .error ⟨text, text.utf8ByteSize - 1⟩
  match scanValue known 0 (.plain false) cs with
  | .error index => .error ⟨text, index⟩
  | .ok (value, phase) =>
    match phase with
    | .plain true | .escape true | .strong | .reference true _ | .braced .. => unclosed
    | .reference false name =>
      .ok (String.ofList (value ++ (known.value name.reverse).toList))
    | _ => .ok (String.ofList value)

/-- Whether a character may stand in the name of a variable. -/
def isNameChar (c : Char) : Bool := c.isAlphanum || c = '_' || c = '.'

/-- The rest of a line with the number of bytes passed. -/
abbrev Rest := List Char × Nat

/-- Passes over space. -/
def skipSpace (rest : Rest) : Rest :=
  let space := rest.1.takeWhile isBlank
  (rest.1.drop space.length, rest.2 + (String.ofList space).utf8ByteSize)

/-- Takes the name of a variable. -/
def takeName? (rest : Rest) : Option (String × Rest) :=
  let name := rest.1.takeWhile isNameChar
  match name with
  | [] => none
  | c :: _ =>
    if c.isAlpha ∨ c = '_' then
      some (String.ofList name, rest.1.drop name.length, rest.2 + name.length)
    else none

/-- Reads a line: a name, perhaps behind the word `export`, an equals sign and a
value. An empty line and a comment set nothing. -/
def readLine (known : Known) (line : List Char) : Except Defect (Option (String × String)) := do
  let trimmed := (line.reverse.dropWhile isBlank).reverse
  let fail {α : Type} (rest : Rest) : Except Defect α := .error ⟨String.ofList line, rest.2⟩
  let name (rest : Rest) : Except Defect (String × Rest) :=
    match takeName? rest with
    | some (name, rest) => .ok (name, skipSpace rest)
    | none => fail rest
  let start := skipSpace (trimmed, 0)
  if start.1 = [] ∨ start.1.head? = some '#' then return none
  let (first, rest) ← name start
  let (key, rest) ←
    if first = "export" ∧ rest.1.head? ≠ some '=' then name rest else pure (first, rest)
  if rest.1.head? ≠ some '=' then fail rest
  let value := (skipSpace (rest.1.drop 1, rest.2 + 1)).1
  if value = [] ∨ value.head? = some '#' then return some (key, "")
  return some (key, ← readValue known value)

/-- Sets the variables of a file line by line up to the first defect. Variables of
the environment keep their values. Every line takes at least one character. -/
def apply : Nat → Known → List Char → Environment × Option Defect
  | 0, known, _ => (known.environment, none)
  | fuel + 1, known, cs => match logicalLine (cs.length + 1) [] .plain cs with
    | none => (known.environment, none)
    | some (.error defect) => (known.environment, some defect)
    | some (.ok (line, rest)) => match readLine known line with
      | .error defect => (known.environment, some defect)
      | .ok none => apply fuel known rest
      | .ok (some (name, value)) =>
        let environment :=
          if (known.environment.get? name).isSome then known.environment
          else known.environment ++ [(name, value)]
        apply fuel ⟨environment, (name, value) :: known.set⟩ rest

/-- The environment with the variables of a file, and the defect at which the file
was left. -/
def load (file : String) (environment : Environment) : Environment × Option Defect :=
  let cs := match file.toList with
    | '\ufeff' :: cs => cs
    | cs => cs
  apply (cs.length + 1) ⟨environment, []⟩ cs

end AuthGate.EnvironmentFile
