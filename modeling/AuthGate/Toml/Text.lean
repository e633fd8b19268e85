import AuthGate.Text.Hex

namespace AuthGate.Toml

/-- Whether a character may stand for itself in a text or a comment. Control
characters other than the tab may not. -/
def isPlain (c : Char) : Bool := c = '\t' || (0x20 ≤ c.toNat && c.toNat ≠ 0x7F)

/-- Whether a character is space inside a line. -/
def isSpace (c : Char) : Bool := c = ' ' || c = '\t'

/-- The character of a code point, if there is one. -/
def charOf? (n : Nat) : Option Char := if n.isValidChar then some (Char.ofNat n) else none

/-- What a letter behind a backslash stands for: a character, or a code point in
so many digits that follow. -/
inductive Escape where
  | char (c : Char)
  | code (digits : Nat)

/-- The escape of a letter. -/
def Escape.ofChar? : Char → Option Escape
  | 'b' => some (char '\x08')
  | 't' => some (char '\t')
  | 'n' => some (char '\n')
  | 'f' => some (char '\x0c')
  | 'r' => some (char '\r')
  | 'e' => some (char '\x1b')
  | '"' => some (char '"')
  | '\\' => some (char '\\')
  | 'x' => some (code 2)
  | 'u' => some (code 4)
  | 'U' => some (code 8)
  | _ => none

/-- Where the reading of a quoted text stands: between two characters, behind a
backslash, in the digits of a code point, in a backslash's space up to the next
word, behind a carriage return (which may itself be such space), or behind
quotes that may end the text. -/
inductive TextPhase where
  | plain
  | escape
  | code (digits value : Nat)
  | gap (sawNewline : Bool)
  | newline (inGap : Bool)
  | quotes (count : Nat)

/-- How texts of a kind are quoted: by which character, with or without escapes,
on one line or on several. -/
structure Quotation where
  quote : Char
  escapes : Bool
  multiline : Bool

namespace Quotation

/-- Takes a character that stands for itself or begins something. -/
def takePlain (q : Quotation) (c : Char) : Option (List Char × TextPhase) :=
  if c = q.quote then some ([], .quotes 1)
  else if c = '\\' ∧ q.escapes then some ([], .escape)
  else if c = '\n' ∧ q.multiline then some ([c], .plain)
  else if c = '\r' ∧ q.multiline then some ([c], .newline false)
  else if isPlain c then some ([c], .plain)
  else none

/-- Takes a digit of a code point. -/
def takeCode (digits value : Nat) (c : Char) : Option (List Char × TextPhase) := do
  let value := value * 16 + (← hexValue? c)
  if 1 < digits then return ([], .code (digits - 1) value)
  else return ([← charOf? value], .plain)

/-- Takes the character behind a backslash. -/
def takeEscape (q : Quotation) (c : Char) : Option (List Char × TextPhase) :=
  match Escape.ofChar? c with
  | some (.char c) => some ([c], .plain)
  | some (.code digits) => some ([], .code digits 0)
  | none =>
    if !q.multiline then none
    else if isSpace c then some ([], .gap false)
    else if c = '\n' then some ([], .gap true)
    else if c = '\r' then some ([], .newline true)
    else none

/-- Takes one character that does not end the text. Behind quotes, they have not
ended it either. -/
def take (q : Quotation) : TextPhase → Char → Option (List Char × TextPhase)
  | .plain, c => q.takePlain c
  | .escape, c => q.takeEscape c
  | .code digits value, c => takeCode digits value c
  | .gap sawNewline, c =>
    if isSpace c then some ([], .gap sawNewline)
    else if c = '\n' then some ([], .gap true)
    else if c = '\r' then some ([], .newline true)
    else if sawNewline then q.takePlain c
    else none
  | .newline inGap, c =>
    if c ≠ '\n' then none
    else if inGap then some ([], .gap true)
    else some ([c], .plain)
  | .quotes count, c =>
    if c = q.quote then some ([], .quotes (count + 1))
    else (q.takePlain c).map fun (cs, phase) => (List.replicate count q.quote ++ cs, phase)

/-- The number of quotes that end a text. -/
def closing (q : Quotation) : Nat := if q.multiline then 3 else 1

/-- Reads a text up to its closing quotes, and gives what follows them. Two more
quotes in front of the closing ones belong to a text of several lines. -/
def read? (q : Quotation) : TextPhase → List Char → Option (List Char × List Char)
  | .quotes count, [] =>
    if q.closing ≤ count then some (List.replicate (count - q.closing) q.quote, []) else none
  | _, [] => none
  | .quotes count, c :: cs =>
    if q.closing ≤ count ∧ (c ≠ q.quote ∨ !q.multiline ∨ count = 5) then
      some (List.replicate (count - q.closing) q.quote, c :: cs)
    else do
      let (taken, phase) ← q.take (.quotes count) c
      let (text, rest) ← read? q phase cs
      return (taken ++ text, rest)
  | phase, c :: cs => do
    let (taken, phase) ← q.take phase c
    let (text, rest) ← read? q phase cs
    return (taken ++ text, rest)

end Quotation

/-- A text at the front of a document, from its first quote on, and what follows.
Three quotes begin a text of several lines; a newline right behind them is not
part of it. -/
def takeText? : List Char → Option (String × List Char)
  | [] => none
  | quote :: cs =>
    let finish := Option.map fun (text, rest) => (String.ofList text, rest)
    if quote ≠ '"' ∧ quote ≠ '\'' then none
    else if [quote, quote].isPrefixOf cs then
      let q : Quotation := ⟨quote, quote = '"', true⟩
      match cs.drop 2 with
      | '\n' :: cs => finish (q.read? .plain cs)
      | '\r' :: '\n' :: cs => finish (q.read? .plain cs)
      | cs => finish (q.read? .plain cs)
    else finish ((Quotation.mk quote (quote = '"') false).read? .plain cs)

/-- Whether a character may stand in a key without quotes. -/
def isKeyChar (c : Char) : Bool := c.isAlphanum || c = '_' || c = '-'

/-- A key without points at the front of a document, and what follows. Keys do
not take several lines. -/
def takeKey? (cs : List Char) : Option (String × List Char) :=
  match cs.head? with
  | some '"' => ((Quotation.mk '"' true false).read? .plain (cs.drop 1)).map
      fun (key, rest) => (String.ofList key, rest)
  | some '\'' => ((Quotation.mk '\'' false false).read? .plain (cs.drop 1)).map
      fun (key, rest) => (String.ofList key, rest)
  | _ =>
    let key := cs.takeWhile isKeyChar
    if key = [] then none else some (String.ofList key, cs.dropWhile isKeyChar)

end AuthGate.Toml
