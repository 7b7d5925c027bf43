import BlankLines.Rule

/-!
Bodies of classes and interfaces have a fixed number of empty lines after their opening brace and
before their closing one. A constant, a `use` or a comment may follow the opening brace directly.
-/
namespace BlankLines.BraceSpacing

def openingCode : String := "OpenBraceFollowedByEmptyLines"
def closingCode : String := "CloseBracePrecededByEmptyLines"

/-- Kinds that may stand directly behind an opening brace. -/
def hugsOpening : TokenKind → Bool
  | .constDecl | .comment | .useDecl => true
  | _ => false

def openingMessage (declaration : String) (wanted found : Int) : String :=
  "Opening brace for the " ++ declaration ++ " should be followed by " ++ toString wanted ++
    " empty line(s); " ++ toString found ++ " empty line(s) found."

def closingMessage (declaration : String) (wanted found : Int) : String :=
  "Closing brace for the " ++ declaration ++ " should be preceded by " ++ toString wanted ++
    " empty line(s); " ++ toString found ++ " found."

/-- Measures the gap from the opening brace to the next token that is no white space. -/
def checkOpening (wanted : Nat) (file : TokenFile) (declaration : String) (opener : Nat)
    (level : Level) : Option Violation := do
  let brace ← file.tokens[opener]?
  let next ← file.findNext [.whitespace] (opener + 1) none true
  let follower ← file.tokens[next]?
  let found := follower.lineDelta brace - 1
  let wanted := Word.signed wanted
  if hugsOpening follower.kind || found = wanted then none
  else
    Violation.atToken? file opener RuleId.braceSpacing.name openingCode level
      (openingMessage declaration wanted found)
      (gapRepair found wanted opener (file.lineBreaks (opener + 1) next))

/-- Measures the gap from the last token before the closing brace that is no white space. -/
def checkClosing (wanted : Nat) (file : TokenFile) (declaration : String) (closer : Nat)
    (level : Level) : Option Violation := do
  let brace ← file.tokens[closer]?
  let previous ← if closer = 0 then none else file.findPrevious [.whitespace] (closer - 1) none true
  let leader ← file.tokens[previous]?
  let found := brace.lineDelta leader - 1
  let wanted := Word.signed wanted
  if found = wanted then none
  else
    Violation.atToken? file closer RuleId.braceSpacing.name closingCode level
      (closingMessage declaration wanted found)
      (gapRepair found wanted previous (file.lineBreaks (previous + 1) closer))

/-- The violations of the declaration at a position. One without a body has none. -/
def check (afterOpening beforeClosing : Nat) (file : TokenFile) (position : Nat) (level : Level) :
    List Violation :=
  match file.tokens[position]? with
  | some { content, scopeOpener := some opener, scopeCloser := some closer, .. } =>
    (checkOpening afterOpening file content opener level).toList ++
      (checkClosing beforeClosing file content closer level).toList
  | _ => []

end BlankLines.BraceSpacing
