namespace AuthGate.MediaType

/-- Whether a character may stand in the words of a media type. -/
def isTokenChar (c : Char) : Bool :=
  c.isAlphanum || "!#$%&'*+-.^_`|~".toList.contains c

/-- Whether a character may stand inside the quotes of a parameter. -/
def isQuotedChar (c : Char) : Bool := c = '\t' || (0x20 ≤ c.val && c.val ≠ 0x7F)

/-- Where the reading of parameters stands: in a name, with whether it has
begun; in a value, with whether it has begun; or in a quoted value, with whether
the next character is escaped. -/
inductive Place where
  | name (begun : Bool)
  | value (begun : Bool)
  | quoted (escaped : Bool)
  | afterQuoted

/-- Whether the rest of a media type is a list of parameters. -/
def areParameters : Place → List Char → Bool
  | .name begun, [] => !begun
  | .value _, [] => true
  | .quoted _, [] => false
  | .afterQuoted, [] => true
  | .name begun, c :: cs =>
    if c = ' ' || c = ';' then !begun && areParameters (.name false) cs
    else if c = '=' then begun && areParameters (.value false) cs
    else isTokenChar c && areParameters (.name true) cs
  | .value begun, c :: cs =>
    if c = '"' then !begun && areParameters (.quoted false) cs
    else if c = ' ' || c = ';' then begun && areParameters (.name false) cs
    else isTokenChar c && areParameters (.value true) cs
  | .quoted true, c :: cs => isQuotedChar c && areParameters (.quoted false) cs
  | .quoted false, c :: cs =>
    if c = '"' then areParameters .afterQuoted cs
    else if c = '\\' then areParameters (.quoted true) cs
    else isQuotedChar c && areParameters (.quoted false) cs
  | .afterQuoted, c :: cs => (c = ' ' || c = ';') && areParameters (.name false) cs

/-- The part of a word after its last plus sign, if it has one behind its first
character. -/
def suffix? (word : List Char) : Option (List Char) :=
  if (word.drop 1).contains '+' then some (word.reverse.takeWhile (· ≠ '+')).reverse else none

/-- Whether a media type stands for documents: the subtype `json` of
`application`, or any subtype of it with that suffix. -/
def isJson (text : String) : Bool :=
  let cs := text.toList.map Char.toLower
  let type := cs.takeWhile (· ≠ '/')
  let rest := cs.drop (type.length + 1)
  let subtype := rest.takeWhile fun c => c ≠ ' ' && c ≠ ';'
  let base := (subtype.reverse.dropWhile (· ≠ '+')).reverse.dropLast
  let isDocument :=
    subtype = "json".toList || base = "json".toList || suffix? subtype = some "json".toList
  type = "application".toList && cs.contains '/' && subtype.all isTokenChar
    && isDocument && areParameters (.name false) (rest.drop (subtype.length + 1))

end AuthGate.MediaType
