import SurfaceKinetics.Note
import SurfaceKinetics.Text.Pieces

/-!
# Log filters

A log filter says which notes are shown.  Either it is a level, and notes that
ask for at least as much attention are shown; or it is a list of rules.  Every
topic has an address.  A rule gives a level to all notes whose address starts
with the name of the rule; of several such rules the one with the longest name
counts.

Rules are written with commas between them, as `level`, `name` or `name=level`;
what follows a slash must occur in the text of every note that is shown.
-/

namespace SurfaceKinetics

/-- The level of the notes with some addresses; without a level none is shown. -/
structure LogRule where
  name : Option String
  level : Option Level
  deriving DecidableEq

/-- Rules, the addresses of topics, and what all shown notes contain. -/
structure LogRules where
  address : Topic → String
  rules : List LogRule
  pattern : String := ""

inductive LogFilter where
  | upTo (level : Level)
  | byRules (rules : LogRules)

/-! ## Reading rules -/

namespace LogRules

/-- A text without blanks at its ends. -/
def trimmed (text : List Char) : List Char :=
  ((text.dropWhile isBlank).reverse.dropWhile isBlank).reverse

/-- The level that a word in letters of any case names; `off` names none. -/
def level? (word : List Char) : Option (Option Level) :=
  match String.ofList (word.map Char.toUpper) with
  | "OFF" => some none
  | name => (Level.ofName? name).map some

/-- The rule that a text spells. -/
def rule? (text : List Char) : Option LogRule :=
  match text.splitOn '=' with
  | [word] =>
    match level? word with
    | some level => some { name := none, level }
    | none => some { name := some (String.ofList word), level := some .trace }
  | [name, word] =>
    let word := trimmed word
    let level := if word.isEmpty then some (some .trace) else level? word
    level.map fun level => { name := some (String.ofList name), level }
  | _ => none

/-- Adds a rule, in the place of an earlier one with the same name. -/
def insert (rules : List LogRule) (rule : LogRule) : List LogRule :=
  if rules.any fun earlier => earlier.name = rule.name then
    rules.map fun earlier => if earlier.name = rule.name then rule else earlier
  else
    rules ++ [rule]

/-- The rules of a text with commas between them. -/
def ofParts (text : List Char) : List LogRule :=
  ((((text.splitOn ',').map trimmed).filter fun part => !part.isEmpty).filterMap
    rule?).foldl insert []

/-- What counts when no rule is given: only errors are shown. -/
def default : List LogRule := [{ name := none, level := some .error }]

/-- The rules that a text spells. -/
def ofText (address : Topic → String) (text : String) : LogRules :=
  let (rules, pattern) :=
    match text.toList.splitOn '/' with
    | [rules] => (ofParts rules, [])
    | [rules, pattern] => (ofParts rules, pattern)
    | _ => ([], [])
  { address
    rules := if rules.isEmpty then default else rules
    pattern := String.ofList pattern }

/-! ## Deciding -/

/-- Whether a rule applies to an address. -/
def applies (address : String) (rule : LogRule) : Bool :=
  match rule.name with
  | none => true
  | some name => name.toList.isPrefixOf address.toList

/-- The length of the name of a rule. -/
def specificity (rule : LogRule) : Nat := (rule.name.getD "").utf8ByteSize

/-- The later one of two rules unless the earlier one is more specific. -/
def moreSpecific (best : Option LogRule) (rule : LogRule) : Option LogRule :=
  match best with
  | none => some rule
  | some current =>
    if specificity rule < specificity current then some current else some rule

/-- The rule that counts for an address. -/
def rule (rules : LogRules) (address : String) : Option LogRule :=
  (rules.rules.filter (applies address)).foldl moreSpecific none

/-- The level up to which notes with an address are shown. -/
def levelOf (rules : LogRules) (address : String) : Option Level :=
  (rules.rule address).bind LogRule.level

/-- Whether a note is shown under some rules. -/
def shows (rules : LogRules) (note : Note) : Bool :=
  match rules.levelOf (rules.address note.topic) with
  | none => false
  | some level =>
    note.level.rank ≤ level.rank &&
      occurs rules.pattern.toList note.text.toList

end LogRules

namespace LogFilter

/-- Whether a note is shown under a filter. -/
def shows (filter : LogFilter) (note : Note) : Bool :=
  match filter with
  | upTo level => note.level.rank ≤ level.rank
  | byRules rules => rules.shows note

/-- The filter that a number of requests for more notes stands for. -/
def ofVerbosity : Nat → LogFilter
  | 0 => upTo .info
  | 1 => upTo .debug
  | _ => upTo .trace

/-- A level that shows debug notes as well; rules stay as they are. -/
def withDebug : LogFilter → LogFilter
  | upTo level => upTo (if level.rank < Level.debug.rank then .debug else level)
  | byRules rules => byRules rules

end LogFilter

end SurfaceKinetics
