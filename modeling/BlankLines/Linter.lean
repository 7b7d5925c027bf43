import BlankLines.Config
import BlankLines.Fixer
import BlankLines.Rule.Check

/-!
Linting a file with the rules of a configuration, and fixing it by passes until nothing is left that a
fix can change.
-/
namespace BlankLines

/-- The rules to run, with their levels, in order. -/
structure Linter where
  rules : List (Rule × Level)
deriving Repr

/-- A file after fixing: how many passes and corrections it took, and what is still reported. -/
structure FixSummary where
  file : TokenFile
  passes : Nat
  applied : Nat
  remaining : List Violation
deriving Repr

namespace Linter

def setUpRule (entry : RuleEntry) : Except SettingsError (Rule × Level) :=
  match (Rule.ofId entry.id).setUp entry.settings with
  | (rule, .ok ()) => .ok (rule, entry.level)
  | (_, .error error) => .error error

/-- The linter of a configuration: its active rules, set up. -/
def ofConfig (config : Config) : Except SettingsError Linter := do
  return { rules := ← (config.rules.filter (·.active)).mapM setUpRule }

/-- The violations of a file, by position and then by rule. -/
def lint (linter : Linter) (file : TokenFile) : List Violation :=
  file.tokens.zipIdx.flatMap fun (token, position) =>
    linter.rules.flatMap fun (rule, level) => rule.checkAt file position token level

/-- A file under edit after the fixes of violations have been tried in order. -/
def repair (file : TokenFile) (found : List Violation) : Fixer :=
  (Fixer.ofFile file).applyAll (found.filterMap (·.fix))

/-- One pass: lint, apply every fix in order, lay out afresh. -/
def pass (linter : Linter) (file : TokenFile) : TokenFile :=
  (repair file (linter.lint file)).finish

def maxPasses : Nat := 50

/-- Makes up to `left` further passes, until nothing is fixable or a pass changes nothing. -/
def fixFrom (linter : Linter) (left passes applied : Nat) (file : TokenFile) : FixSummary :=
  let found := linter.lint file
  match left with
  | 0 => ⟨file, passes, applied, found⟩
  | left + 1 =>
    if found.any (·.isFixable) then
      let edited := repair file found
      let next := edited.finish
      if edited.applied = 0 || next.render = file.render then
        ⟨next, passes + 1, applied + edited.applied, linter.lint next⟩
      else fixFrom linter left (passes + 1) (applied + edited.applied) next
    else ⟨file, passes, applied, found⟩

def fix (linter : Linter) (file : TokenFile) : FixSummary :=
  linter.fixFrom maxPasses 0 0 file

end Linter

end BlankLines
