import BlankLines.Text.LowerCase
import BlankLines.Word

/-!
Tokens of a source file, as its own lexer cut it: a kind, the line on which the token begins, its text
and, for declarations, the positions of the braces around its body.
-/
namespace BlankLines

/-- The kinds of token that spacing rules ask for. All others are `other`. -/
inductive TokenKind where
  | whitespace
  | comment
  | constDecl
  | useDecl
  | openBrace
  | closeBrace
  | functionDecl
  | classDecl
  | interfaceDecl
  | semicolon
  | other
deriving Repr, DecidableEq

namespace TokenKind

def all : List TokenKind :=
  [whitespace, comment, constDecl, useDecl, openBrace, closeBrace, functionDecl, classDecl,
    interfaceDecl, semicolon, other]

def name : TokenKind → String
  | whitespace => "whitespace"
  | comment => "comment"
  | constDecl => "const"
  | useDecl => "use"
  | openBrace => "open_curly_bracket"
  | closeBrace => "close_curly_bracket"
  | functionDecl => "function"
  | classDecl => "class"
  | interfaceDecl => "interface"
  | semicolon => "semicolon"
  | other => "other"

/-- The kind of that name. Lexers may put `T_` in front, and the case of letters does not matter. -/
def ofName (text : String) : TokenKind :=
  let bare := match text.toList with
    | 'T' :: '_' :: rest => rest
    | whole => whole
  (all.find? fun kind => kind.name.toList = Text.lowerAscii bare).getD other

theorem ofName_name (kind : TokenKind) : ofName kind.name = kind := by
  cases kind <;> decide

end TokenKind

/-- A token. Scope positions count tokens of the file from zero. -/
structure Token where
  kind : TokenKind
  line : Nat
  content : String
  scopeOpener : Option Nat := none
  scopeCloser : Option Nat := none
deriving Repr, DecidableEq

namespace Token

def isWhitespace (token : Token) : Bool :=
  token.kind = .whitespace

/-- How many lines `token` begins after `other`, by signed line numbers. -/
def lineDelta (token other : Token) : Int :=
  Word.signed token.line - Word.signed other.line

end Token

end BlankLines
