import BlankLines.Text.LineEnding
import BlankLines.Token

/-!
A lexed source file: its line ending and its tokens in order. Positions are indexes into the tokens.
-/
namespace BlankLines

structure TokenFile where
  eol : String := "\n"
  tokens : List Token
deriving Repr, DecidableEq

namespace TokenFile

def render (file : TokenFile) : String :=
  String.join (file.tokens.map (·.content))

/-- How many line endings a token of this file holds. -/
def breaksIn (file : TokenFile) (token : Token) : Nat :=
  Text.breakCount file.eol.toList token.content.toList

def endsLine (file : TokenFile) (token : Token) : Bool :=
  Text.containsBreak file.eol.toList token.content.toList

/-- Whether there is a token at `position` that holds a line ending. -/
def endsLineAt (file : TokenFile) (position : Nat) : Bool :=
  file.tokens[position]?.any file.endsLine

/-- The positions from `start` up to, and without, `stop` of white space that holds a line ending. -/
def lineBreaks (file : TokenFile) (start stop : Nat) : List Nat :=
  let within := (file.tokens.take stop).drop start
  (within.zipIdx start).filterMap fun (token, position) =>
    if token.isWhitespace && file.endsLine token then some position else none

end TokenFile

end BlankLines
