import BlankLines.TokenFile

/-!
Searches for the nearest token whose kind is in a list, or is not. Both are total: a bound beyond the
file is a bound at its end.
-/
namespace BlankLines.TokenFile

/-- Whether a token is looked for: its kind is listed, or with `exclude`, is not. -/
def isWanted (kinds : List TokenKind) (exclude : Bool) (token : Token) : Bool :=
  kinds.contains token.kind != exclude

/-- The first wanted position from `start` up to, and without, `stop`. -/
def findNext (file : TokenFile) (kinds : List TokenKind) (start : Nat) (stop : Option Nat)
    (exclude : Bool) : Option Nat :=
  let within := match stop with
    | some stop => file.tokens.take stop
    | none => file.tokens
  ((within.drop start).findIdx? (isWanted kinds exclude)).map (start + ·)

/-- The last wanted position from `stop` up to and with `start`. -/
def findPrevious (file : TokenFile) (kinds : List TokenKind) (start : Nat) (stop : Option Nat)
    (exclude : Bool) : Option Nat :=
  let within := (file.tokens.take (start + 1)).drop (stop.getD 0)
  (within.reverse.findIdx? (isWanted kinds exclude)).map fun back =>
    stop.getD 0 + (within.length - 1 - back)

/-- The first position from `start` on whose token holds a line ending. -/
def findLineEnd (file : TokenFile) (start : Nat) : Option Nat :=
  ((file.tokens.drop start).findIdx? file.endsLine).map (start + ·)

end BlankLines.TokenFile
