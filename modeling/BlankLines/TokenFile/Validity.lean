import BlankLines.TokenFile

/-!
What a file must satisfy before positions and lines in it are trusted, and the first thing that is
wrong with one that does not.
-/
namespace BlankLines

inductive FileFault where
  | emptyEol
  | lineBehind (position line before : Nat)
  | scopeOutside (position scope size : Nat)
deriving Repr, DecidableEq

namespace FileFault

def message : FileFault → String
  | emptyEol => "end-of-line marker must not be empty"
  | lineBehind position line before =>
    s!"token {position} is on line {line} after a token on line {before}"
  | scopeOutside position scope size =>
    s!"token {position} points at scope position {scope}, but the file has {size} tokens"

end FileFault

namespace TokenFile

/-- The fault of one token: its line, then its opener, then its closer. -/
def tokenFault (size position before : Nat) (token : Token) : Option FileFault :=
  if token.line < before then some (.lineBehind position token.line before)
  else
    let outside := [token.scopeOpener, token.scopeCloser].filterMap id |>.find? (size ≤ ·)
    outside.map (.scopeOutside position · size)

/-- The first fault of the tokens from `position` on, after a token on line `before`. -/
def firstFault (size : Nat) : Nat → Nat → List Token → Option FileFault
  | _, _, [] => none
  | position, before, token :: rest =>
    (tokenFault size position before token).or (firstFault size (position + 1) token.line rest)

/-- Lines never decrease from 1 on, scopes are in range, and there is a line ending. -/
def validate (file : TokenFile) : Except FileFault Unit :=
  if file.eol.isEmpty then .error .emptyEol
  else
    match firstFault file.tokens.length 0 1 file.tokens with
    | some fault => .error fault
    | none => .ok ()

end TokenFile

end BlankLines
