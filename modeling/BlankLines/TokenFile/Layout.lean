import BlankLines.TokenFile

/-!
The layout of a file in which every line ending of white space closes its own token. Laying out moves
no text: it cuts white space, drops what is empty, and lets scopes follow their tokens.
-/
namespace BlankLines

/-- A token with the number of line endings that are to follow it. -/
structure Slot where
  token : Token
  newlines : Nat := 0
deriving Repr, DecidableEq

namespace Slot

/-- White space tokens with these contents, on consecutive lines from `line` on. -/
def blankTokens (line : Nat) (contents : List String) : List Token :=
  (contents.zipIdx line).map fun (content, line) => { kind := .whitespace, line, content }

def layout (eol : String) (slot : Slot) : List Token :=
  let token := slot.token
  if token.isWhitespace then
    blankTokens token.line
      ((Text.pieces eol.toList token.content.toList).map String.ofList)
  else
    let line := token.line + Text.breakCount eol.toList token.content.toList
    token :: blankTokens line (List.replicate slot.newlines eol)

end Slot

namespace TokenFile

/-- Where the token at a position before the layout stands after it; the last token stands in for one
that has gone from the end. -/
def relocate (layouts : List (List Token)) (position : Nat) : Nat :=
  min (layouts.take position).flatten.length (layouts.flatten.length - 1)

def ofSlots (eol : String) (slots : List Slot) : TokenFile :=
  let layouts := slots.map (Slot.layout eol)
  let moved (token : Token) : Token :=
    { token with
      scopeOpener := token.scopeOpener.map (relocate layouts)
      scopeCloser := token.scopeCloser.map (relocate layouts) }
  { eol, tokens := layouts.flatten.map moved }

/-- The file with its white space cut after every line ending. -/
def splitLineBreaks (file : TokenFile) : TokenFile :=
  ofSlots file.eol (file.tokens.map ({ token := · }))

/-- Numbers tokens by the line endings before them, from `line` on. -/
def numberFrom (eol : List Char) : Nat → List Token → List Token
  | _, [] => []
  | line, token :: rest =>
    { token with line } :: numberFrom eol (line + Text.breakCount eol token.content.toList) rest

/-- Renumbers lines by the text, from the first token's line on. -/
def renumber (file : TokenFile) : TokenFile :=
  let first := (file.tokens.head?.map (·.line)).getD 1
  { file with tokens := numberFrom file.eol.toList first file.tokens }

end TokenFile

end BlankLines
