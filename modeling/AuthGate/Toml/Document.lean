import AuthGate.Toml.Value

namespace AuthGate.Toml

/-- How a table of an unfinished document came to be: by a heading of its own, by
a heading of a table inside it, or by a key with points. -/
inductive TableOrigin where
  | heading
  | innerHeading
  | dottedKey
deriving DecidableEq

/-- A part of an unfinished document. Values are finished. A list of tables made
by headings is kept last first; only its last table can still grow. -/
inductive Node where
  | value (v : Value)
  | table (origin : TableOrigin) (members : List (String × Node))
  | tables (items : List Node)

namespace Node

instance : Inhabited Node := ⟨.table .heading []⟩

/-- The member of a key. -/
def member? (key : String) (members : List (String × Node)) : Option Node :=
  (members.find? (·.1 = key)).map (·.2)

/-- Sets the member of a key, in its place or at the end. -/
def put (key : String) (node : Node) : List (String × Node) → List (String × Node)
  | [] => [(key, node)]
  | (k, n) :: members =>
    if k = key then (key, node) :: members else (k, n) :: put key node members

/-- A table whose members can change, with its origin. -/
abbrev Open := TableOrigin × List (String × Node)

/-- Changes the table at the end of a path. Tables that the path needs are made
with the origin given. A key with points does not enter tables that have a
heading; nothing enters finished values. -/
def editAt (made : TableOrigin) (edit : Open → Option Open) :
    List String → Open → Option Open
  | [], target => edit target
  | key :: path, (origin, members) => do
    let inner ← match member? key members with
      | none => do
        let (o, ms) ← editAt made edit path (made, [])
        some (table o ms)
      | some (.table o ms) =>
        if made = .dottedKey ∧ o = .heading then none
        else do
          let (o, ms) ← editAt made edit path (o, ms)
          some (table o ms)
      | some (.tables (.table o ms :: rest)) => do
        let (o, ms) ← editAt made edit path (o, ms)
        some (tables (table o ms :: rest))
      | some _ => none
    return (origin, put key inner members)

/-- The path to the table that holds what a key names, and its name there. -/
def splitKey : List String → List String × String
  | [] => ([], "")
  | [name] => ([], name)
  | part :: rest =>
    let (path, name) := splitKey rest
    (part :: path, name)

/-- Adds a pair to a table. The key must be new, and a key with points goes only
into tables that such keys have made. -/
def addPair (target : Open) (pair : List String × Value) : Option Open :=
  let (path, name) := splitKey pair.1
  let insert : Open → Option Open := fun (origin, members) =>
    if (decide (origin = .dottedKey)) = decide (path = []) then none
    else if (member? name members).isSome then none
    else some (origin, put name (.value pair.2) members)
  editAt .dottedKey insert path target

/-- Adds pairs to a table, first to last. -/
def addPairs (target : Open) (pairs : List (List String × Value)) : Option Open :=
  pairs.foldlM addPair target

mutual

/-- A part of a document that is finished now. -/
def finish : Node → Value
  | value v => v
  | table _ members => .table (finishMembers members)
  | tables items => .list (finishItems items).reverse

/-- The members of a table that are finished now. -/
def finishMembers : List (String × Node) → List (String × Value)
  | [] => []
  | (key, node) :: members => (key, node.finish) :: finishMembers members

/-- The tables of a list that are finished now. -/
def finishItems : List Node → List Value
  | [] => []
  | item :: items => item.finish :: finishItems items

end

end Node

/-- A heading, with the pairs under it. -/
inductive Heading where
  | table (key : List String)
  | tables (key : List String)

/-- A line that is not blank. -/
inductive Line where
  | heading (h : Heading)
  | pair (key : List String) (value : Value)

/-- Adds a headed section to a document. A table gets one heading at most; every
heading of a list of tables adds a table to it. -/
def addSection (document : Node.Open) (heading : Heading) (pairs : List (List String × Value)) :
    Option Node.Open :=
  match heading with
  | .table key =>
    let (path, name) := Node.splitKey key
    Node.editAt .innerHeading (fun (origin, members) => do
      let content ← match Node.member? name members with
        | none => some []
        | some (.table .innerHeading content) => some content
        | some _ => none
      let (o, ms) ← Node.addPairs (.heading, content) pairs
      return (origin, Node.put name (.table o ms) members)) path document
  | .tables key =>
    let (path, name) := Node.splitKey key
    Node.editAt .innerHeading (fun (origin, members) => do
      let items ← match Node.member? name members with
        | none => some []
        | some (.tables items) => some items
        | some _ => none
      let (o, ms) ← Node.addPairs (.heading, []) pairs
      return (origin, Node.put name (.tables (.table o ms :: items)) members)) path document

/-- The pairs in front of the first heading, and the lines from it on. -/
def leadingPairs : List Line → List (List String × Value) × List Line
  | .pair key value :: lines =>
    let (pairs, rest) := leadingPairs lines
    ((key, value) :: pairs, rest)
  | lines => ([], lines)

/-- Adds headed sections to a document. Each takes at least one line. -/
def addSections (document : Node.Open) : Nat → List Line → Option Node.Open
  | 0, _ => some document
  | fuel + 1, .heading h :: lines => do
    let (pairs, rest) := leadingPairs lines
    addSections (← addSection document h pairs) fuel rest
  | _ + 1, _ => some document

/-- The document of its lines. -/
def assemble (lines : List Line) : Option (List (String × Value)) := do
  let (pairs, rest) := leadingPairs lines
  let document ← Node.addPairs (.heading, []) pairs
  let (_, members) ← addSections document lines.length rest
  return Node.finishMembers members

/-- The table that pairs on one line make up. -/
def inlineTable (pairs : List (List String × Value)) : Option Value := do
  let (_, members) ← Node.addPairs (.heading, []) pairs
  return .table (Node.finishMembers members)

namespace Scanner

/-- Reads a value that may enter `depth` lists and tables inside each other. -/
def value : Nat → Scanner Value
  | 0 => do
    let ahead ← peek
    if ahead = some '[' ∨ ahead = some '\x7b' then failure else scalar
  | depth + 1 => do
    let ahead ← peek
    let fuel := (← get).length
    if ahead = some '[' then
      mark '['
      return .list (← items (value depth) fuel)
    else if ahead = some '\x7b' then
      mark '\x7b'
      inlineTable (← pairs (value depth) fuel)
    else scalar
where
  /-- Reads a text or a scalar without quotes. -/
  scalar : Scanner Value := do
    let ahead ← peek
    if ahead = some '"' ∨ ahead = some '\'' then return .text (← takeText?) else takeScalar?

/-- How deep lists and tables may be inside each other. -/
def maxDepth : Nat := 80

/-- Reads a line that is not blank. -/
def line : Scanner Line := do
  if (← peek) = some '[' then
    mark '['
    if (← peek) = some '[' then
      mark '['
      let key ← key
      mark ']'
      mark ']'
      return .heading (.tables key)
    else
      let key ← key
      mark ']'
      return .heading (.table key)
  else
    let key ← key
    mark '='
    space
    return .pair key (← value maxDepth)

/-- Passes over the end of a line, with a comment in front of it. -/
def lineEnd (inComment : Bool) : List Char → Option (List Char)
  | [] => some []
  | '\n' :: cs => some cs
  | '\r' :: '\n' :: cs => some cs
  | c :: cs =>
    if inComment then if isPlain c then lineEnd true cs else none
    else if isSpace c then lineEnd false cs
    else if c = '#' then lineEnd true cs
    else none

/-- Reads every line that is not blank. -/
def allLines : Nat → Scanner (List Line)
  | 0 => return []
  | fuel + 1 => do
    lines
    if (← peek).isNone then return []
    else
      let first ← line
      fun cs => (lineEnd false cs).map ((), ·)
      return first :: (← allLines fuel)

end Scanner

/-- The members of the table that a document is. -/
def read? (document : String) : Option (List (String × Value)) := do
  let cs := document.toList
  let (lines, _) ← (Scanner.allLines (cs.length + 1)).run cs
  assemble lines

end AuthGate.Toml
