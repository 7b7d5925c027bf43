import BlankLines.Rule.BraceSpacing
import BlankLines.Rule.MethodSpacing

/-!
Running a rule at a position of a file.
-/
namespace BlankLines.Rule

/-- What a rule reports at a position, whatever the kind of token there. -/
def check (rule : Rule) (file : TokenFile) (position : Nat) (level : Level) : List Violation :=
  match rule with
  | braceSpacing after before => BraceSpacing.check after before file position level
  | methodSpacing between => MethodSpacing.check between file position level

/-- What a rule reports at a token, if it is run at tokens of that kind. -/
def checkAt (rule : Rule) (file : TokenFile) (position : Nat) (token : Token) (level : Level) :
    List Violation :=
  if rule.id.kinds.contains token.kind then rule.check file position level else []

end BlankLines.Rule
