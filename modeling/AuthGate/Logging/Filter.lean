import AuthGate.Event
import AuthGate.Settings.App
import AuthGate.Text.Pieces

namespace AuthGate

/-- How much of a level a filter lets through: levels up to a number, from none to
all five. -/
abbrev Verbosity := Nat

namespace Verbosity

/-- The number of a level. A filter of that verbosity lets it through. -/
def ofLevel : Level → Verbosity
  | .error => 1
  | .warn => 2
  | .info => 3
  | .debug => 4
  | .trace => 5

/-- The names of verbosities. -/
def names : List (String × Verbosity) :=
  [("off", 0), ("error", 1), ("warn", 2), ("info", 3), ("debug", 4), ("trace", 5)]

/-- The verbosity that lets everything through. -/
def all : Verbosity := 5

/-- The verbosity of a text: a number, perhaps behind a plus, or a name in any
case. The empty text lets errors through. -/
def ofText? (cs : List Char) : Option Verbosity :=
  let ds := match cs with
    | '+' :: ds => ds
    | ds => ds
  match Decimal.ofDigits? ds with
  | some n => if n ≤ all then some n else none
  | none =>
    if cs = [] then some 1
    else (names.find? (·.1 = lowerAscii (String.ofList cs))).map (·.2)

end Verbosity

/-- A rule of a filter: how much it lets through of what comes from a part of the
program. One that speaks of spans, or of the values of fields, says nothing
about events outside a span. -/
structure FilterRule where
  target : Option String
  span : Option String
  fields : List String
  hasValues : Bool
  verbosity : Verbosity

namespace FilterRule

/-- Where the reading of a rule stands: at its start, in a name that is a level or
a target, in the name of a span, in a field, behind the fields, behind the
brackets, or in a level. Names are kept last first. -/
inductive Phase where
  | start
  | name (cs : List Char)
  | span (cs : List Char)
  | field (cs : List Char)
  | afterField
  | afterSpan
  | level (cs : List Char)

/-- A rule without limits. -/
def unlimited : FilterRule := ⟨none, none, [], false, Verbosity.all⟩

/-- Whether a character may begin a rule. -/
def mayBegin (c : Char) : Bool :=
  c = '-' || c = ':' || c = '_' || c.isAlphanum || 0x80 ≤ c.toNat

/-- Adds a field to a rule. A field may stand with a value. -/
def addField? (rule : FilterRule) (cs : List Char) : Option FilterRule :=
  if cs = [] then none
  else some { rule with
    fields := rule.fields ++ [String.ofList (cs.takeWhile (· ≠ '='))]
    hasValues := rule.hasValues || cs.contains '=' }

/-- Takes one character of a rule. -/
def step (rule : FilterRule) (phase : Phase) (c : Char) : Option (FilterRule × Phase) :=
  match phase with
  | .start =>
    if c = '[' then some (rule, .span [])
    else if mayBegin c then some (rule, .name [c])
    else none
  | .name cs =>
    let named := { rule with target := some (String.ofList cs.reverse) }
    if c = '=' then some (named, .level [])
    else if c = '[' then some (named, .span [])
    else some (rule, .name (c :: cs))
  | .span cs =>
    let named := { rule with span := some (String.ofList cs.reverse) }
    if c = ']' then some (named, .afterSpan)
    else if c = '\x7b' then some (if cs = [] then rule else named, .field [])
    else some (rule, .span (c :: cs))
  | .field cs =>
    if c = '\x7d' then (rule.addField? cs.reverse).map (·, .afterField)
    else some (rule, .field (c :: cs))
  | .afterField => if c = ']' then some (rule, .afterSpan) else none
  | .afterSpan => if c = '=' then some (rule, .level []) else none
  | .level cs => some (rule, .level (c :: cs))

/-- Takes every character of a rule. -/
def scan : FilterRule → Phase → List Char → Option (FilterRule × Phase)
  | rule, phase, [] => some (rule, phase)
  | rule, phase, c :: cs => do
    let (rule, phase) ← step rule phase c
    scan rule phase cs

/-- Closes a rule. A name alone is a level if it can be one, else a target that
everything is let through of. -/
def finish (rule : FilterRule) : Phase → Option FilterRule
  | .name cs => match Verbosity.ofText? cs.reverse with
    | some verbosity => some { rule with verbosity }
    | none => some { rule with target := some (String.ofList cs.reverse) }
  | .level cs =>
    if cs = [] then some rule
    else (Verbosity.ofText? cs.reverse).map fun verbosity => { rule with verbosity }
  | .afterSpan => some rule
  | _ => none

/-- Reads a rule. -/
def ofText? (cs : List Char) : Option FilterRule := do
  let (rule, phase) ← scan unlimited .start (trimBlanks cs)
  rule.finish phase

/-- Whether a rule speaks of spans or of the values of fields. -/
def isScoped (rule : FilterRule) : Bool := rule.span.isSome || rule.hasValues

/-- The length of the target that a rule names. -/
def specificity (rule : FilterRule) : Nat := (rule.target.map (·.utf8ByteSize + 1)).getD 0

/-- Whether a rule is about an event. -/
def covers (rule : FilterRule) (e : Event) : Bool :=
  !rule.isScoped
    && (match rule.target with
      | some target => target.toList.isPrefixOf e.target.toList
      | none => true)
    && rule.fields.all fun f => f = "message" || (e.fields.map (·.1)).contains f

end FilterRule

/-- Which events are written to the log. -/
structure LogFilter where
  rules : List FilterRule

namespace LogFilter

/-- The better of two rules about an event: the one with the longer target, then
the one with more fields, then the later one. -/
def better (a b : FilterRule) : FilterRule :=
  if a.specificity < b.specificity
      ∨ (a.specificity = b.specificity ∧ a.fields.length ≤ b.fields.length) then b
  else a

/-- The rule that decides about an event. -/
def ruleFor? (filter : LogFilter) (e : Event) : Option FilterRule :=
  (filter.rules.filter (·.covers e)).foldl (fun best rule => match best with
    | none => some rule
    | some best => some (better best rule)) none

/-- Whether an event is written. -/
def admits (filter : LogFilter) (e : Event) : Bool :=
  match filter.ruleFor? e with
  | some rule => Verbosity.ofLevel e.level ≤ rule.verbosity
  | none => false

/-- Reads a filter: rules with commas between. Without any rule it lets errors
through. -/
def ofText? (text : String) : Option LogFilter := do
  let parts := (pieces ',' text.toList).filter (· ≠ [])
  let rules ← parts.mapM FilterRule.ofText?
  return ⟨if rules = [] then [{ FilterRule.unlimited with verbosity := 1 }] else rules⟩

/-- What is kept to warnings at every level. -/
def quietTargets : List String := ["hyper", "hyper_util", "h2", "tower"]

/-- The rules for a level of the settings. -/
def rulesText (level : String) : String :=
  let level := lowerAscii (String.ofList (trimBlanks level.toList))
  if level = "off" then level
  else level ++ String.join (quietTargets.map fun target => s!",{target}=warn")

/-- The filter of a level of the settings. A text that is no level counts as
`info`. -/
def ofLevelText (level : String) : LogFilter :=
  (ofText? (rulesText level)).getD ⟨[{ FilterRule.unlimited with verbosity := 3 }]⟩

end LogFilter

end AuthGate
