import BlankLines.Text.Printable

/-!
Text shown in double quotes, as messages show settings and paths. Quotes, backslashes and what has no
visible form of its own are escaped.
-/
namespace BlankLines.Text

/-- The digits of `n` in the given base, most significant first. -/
def digits (base n : Nat) : List Char :=
  Nat.toDigits base n

/-- An escape by code point, such as `\u{200b}`. -/
def codePointEscape (c : Char) : List Char :=
  ['\\', 'u', '\x7b'] ++ digits 16 c.toNat ++ ['\x7d']

def quotedChar (c : Char) : List Char :=
  match c with
  | '\x00' => ['\\', '0']
  | '\t' => ['\\', 't']
  | '\r' => ['\\', 'r']
  | '\n' => ['\\', 'n']
  | '\\' => ['\\', '\\']
  | '"' => ['\\', '"']
  | c => if isAttaching c || isUnprintable c then codePointEscape c else [c]

def quoted (text : String) : String :=
  String.ofList ('"' :: text.toList.flatMap quotedChar ++ ['"'])

end BlankLines.Text
