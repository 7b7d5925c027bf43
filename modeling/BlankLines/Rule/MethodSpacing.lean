import BlankLines.Rule

/-!
Methods are followed by a fixed number of empty lines. Exempt are the last method of a body, methods
at the end of a file, and all methods of a file that declares an interface.
-/
namespace BlankLines.MethodSpacing

def code : String := "BlankLinesAfterMethod"

def message (wanted found : Int) : String :=
  "Method should have " ++ toString wanted ++ " empty line(s) after itself, " ++ toString found ++
    " found."

def declaresInterface (file : TokenFile) : Bool :=
  (file.findNext [.interfaceDecl] 0 none false).isSome

/-- The closing brace of a method, or of one without a body, the semicolon that ends it. -/
def closer? (file : TokenFile) (position : Nat) : Option Nat := do
  let token ← file.tokens[position]?
  token.scopeCloser.or (file.findNext [.semicolon] position none false)

/-- The position after the first line ending from `closer` on, if a token is there. -/
def nextLineStart? (file : TokenFile) (closer : Nat) : Option Nat := do
  let start := (← file.findLineEnd closer) + 1
  if start < file.tokens.length then some start else none

/-- The first token from the next line on that is no white space. -/
def nextContent? (file : TokenFile) (closer : Nat) : Option Nat := do
  file.findNext [.whitespace] (← nextLineStart? file closer) none true

/-- The blank lines after a method; none where the file ends before the next content. -/
def blankLines? (file : TokenFile) (closer : Nat) : Option Int := do
  let start ← file.tokens[← nextLineStart? file closer]?
  let content ← file.tokens[← nextContent? file closer]?
  return content.lineDelta start

/-- Where missing lines are added: two tokens before the next content, but not before the closer. -/
def editAnchor (file : TokenFile) (closer : Nat) : Nat :=
  match (nextContent? file closer).or (nextLineStart? file closer) with
  | some position => max (position - 2) closer
  | none => closer

/-- Whether the next content closes the body around the method. -/
def isLast (file : TokenFile) (closer : Nat) : Bool :=
  ((nextContent? file closer).bind (file.tokens[·]?)).any (·.kind = .closeBrace)

def check (between : Nat) (file : TokenFile) (position : Nat) (level : Level) : List Violation :=
  if declaresInterface file then []
  else
    match closer? file position with
    | none => []
    | some closer =>
      let wanted := Word.signed between
      let found := (blankLines? file closer).getD wanted
      if isLast file closer || found = wanted then []
      else
        let stop := (nextContent? file closer).getD file.tokens.length
        (Violation.atToken? file position RuleId.methodSpacing.name code level
          (message wanted found)
          (gapRepair found wanted (editAnchor file closer)
            (file.lineBreaks (closer + 1) stop))).toList

end BlankLines.MethodSpacing
