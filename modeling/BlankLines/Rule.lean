import BlankLines.Gap
import BlankLines.Settings
import BlankLines.TokenFile.Search
import BlankLines.Violation

/-!
What the spacing rules have in common: their names, the settings they take, and the counts they hold.
-/
namespace BlankLines

/-- The rules, in the order in which they are run. -/
inductive RuleId where
  | braceSpacing
  | methodSpacing
deriving Repr, DecidableEq

namespace RuleId

def all : List RuleId :=
  [braceSpacing, methodSpacing]

def name : RuleId → String
  | braceSpacing => "Rule001BraceSpacing"
  | methodSpacing => "Rule002MethodSpacing"

def ofName? (name : String) : Option RuleId :=
  all.find? (·.name = name)

def kinds : RuleId → List TokenKind
  | braceSpacing => [.classDecl, .interfaceDecl]
  | methodSpacing => [.functionDecl]

def afterOpeningKey : String := "empty_lines_after_opening_brace"
def beforeClosingKey : String := "empty_lines_before_closing_brace"
def betweenMethodsKey : String := "blank_lines_between_methods"

/-- The counts that the settings of a rule may hold, in the order in which they are read. -/
def countKeys : RuleId → List String
  | braceSpacing => [afterOpeningKey, beforeClosingKey]
  | methodSpacing => [betweenMethodsKey]

def defaultLevel (_ : RuleId) : Level :=
  .error

end RuleId

/-- A rule with the counts it asks for. -/
inductive Rule where
  | braceSpacing (afterOpening beforeClosing : Nat)
  | methodSpacing (between : Nat)
deriving Repr, DecidableEq

namespace Rule

def id : Rule → RuleId
  | braceSpacing .. => .braceSpacing
  | methodSpacing .. => .methodSpacing

def name (rule : Rule) : String :=
  rule.id.name

def ofId : RuleId → Rule
  | .braceSpacing => braceSpacing 1 1
  | .methodSpacing => methodSpacing 2

/-- The rule with the count of one key changed. Other keys change nothing. -/
def withCount (rule : Rule) (key : String) (count : Nat) : Rule :=
  match rule with
  | braceSpacing after before =>
    if key = RuleId.afterOpeningKey then braceSpacing count before
    else if key = RuleId.beforeClosingKey then braceSpacing after count
    else rule
  | methodSpacing between =>
    if key = RuleId.betweenMethodsKey then methodSpacing count else methodSpacing between

/-- Reads the counts of some keys in order, up to the first that is none. -/
def readCounts (settings : Settings) : List String → Rule → Rule × Except SettingsError Unit
  | [], rule => (rule, .ok ())
  | key :: keys, rule =>
    match settings.count key with
    | .error error => (rule, .error error)
    | .ok none => readCounts settings keys rule
    | .ok (some n) => readCounts settings keys (rule.withCount key n)

/-- Takes over the counts of the settings. Those before a faulty one are kept. -/
def setUp (rule : Rule) (settings : Option Settings) : Rule × Except SettingsError Unit :=
  match settings with
  | none => (rule, .ok ())
  | some settings => readCounts settings rule.id.countKeys rule

end Rule

end BlankLines
