import BlankLines.Correction
import BlankLines.Text.LowerCase
import BlankLines.TokenFile

/-!
Violations: what a rule reports, at which level, and how it would be repaired.
-/
namespace BlankLines

inductive Level where
  | error
  | warning
deriving Repr, DecidableEq

namespace Level

def name : Level → String
  | error => "ERROR"
  | warning => "WARNING"

/-- The level that a setting names, in letters of any case; else the lower-cased text. -/
def parse (text : String) : Except String Level :=
  let lower := Text.lowerCase text
  if lower = "error" then .ok error
  else if lower = "warning" then .ok warning
  else .error lower

def refusal (lower : String) : String :=
  "Invalid lint level: " ++ lower

def ofName? (name : String) : Option Level :=
  if name = "ERROR" then some error
  else if name = "WARNING" then some warning
  else none

/-- Reads a level by its exact name, also as the one member of an object, with no value. -/
def ofJson? : Json.Value → Option Level
  | .string name => ofName? name
  | .object [(name, .null)] => ofName? name
  | _ => none

end Level

/-- A violation, at a token of a file. An absent fix differs from an empty one. -/
structure Violation where
  rule : String
  code : String
  level : Level
  message : String
  position : Nat
  line : Nat
  fix : Option Changeset := none
deriving Repr, DecidableEq

namespace Violation

def isError (violation : Violation) : Bool :=
  violation.level = .error

def isFixable (violation : Violation) : Bool :=
  violation.fix.isSome

/-- A violation at the token of that position, if there is one. An empty repair is none. -/
def atToken? (file : TokenFile) (position : Nat) (rule code : String) (level : Level)
    (message : String) (repair : Changeset) : Option Violation :=
  file.tokens[position]?.map fun token =>
    { rule, code, level, message, position
      line := token.line
      fix := if repair.isEmpty then none else some repair }

/-- The members of a violation. An absent fix is left out. -/
def toJson (violation : Violation) : Json.Value :=
  .object <|
    [("rule", .string violation.rule), ("code", .string violation.code),
      ("level", .string violation.level.name), ("message", .string violation.message),
      ("position", .ofNat violation.position), ("line", .ofNat violation.line)] ++
    violation.fix.toList.map fun changeset => ("fix", changeset.toJson)

/-- A fix as it is written: absent, `null`, or a list. -/
def fixOfJson? : Json.Value → Option (Option Changeset)
  | .null => some none
  | value => (Changeset.ofJson? value).map some

def ofParts? (rule code level message position line fix : Json.Value) : Option Violation := do
  return {
    rule := ← rule.text?
    code := ← code.text?
    level := ← Level.ofJson? level
    message := ← message.text?
    position := ← position.nat?
    line := ← line.nat?
    fix := ← fixOfJson? fix }

/-- Reads an object of named members, or the list of their values; the fix may be left out. -/
def ofJson? : Json.Value → Option Violation
  | .array [rule, code, level, message, position, line] =>
    ofParts? rule code level message position line .null
  | .array [rule, code, level, message, position, line, fix] =>
    ofParts? rule code level message position line fix
  | .object members => do
    let value := Json.Value.object members
    ofParts? (← value.member? "rule") (← value.member? "code") (← value.member? "level")
      (← value.member? "message") (← value.member? "position") (← value.member? "line")
      ((value.member? "fix").getD .null)
  | _ => none

end Violation

end BlankLines
