import BlankLines.Binary64.Shortest
import BlankLines.Json.Value
import BlankLines.Text.Hex

/-!
JSON text of a value, on one line or indented by two spaces. Members keep their order; only quotes,
backslashes and controls are escaped.
-/
namespace BlankLines.Json

open Text (hexDigit)

def escaped (c : Char) : List Char :=
  match c with
  | '"' => ['\\', '"']
  | '\\' => ['\\', '\\']
  | '\x08' => ['\\', 'b']
  | '\x0c' => ['\\', 'f']
  | '\n' => ['\\', 'n']
  | '\r' => ['\\', 'r']
  | '\t' => ['\\', 't']
  | c =>
    if c.toNat < 0x20 then
      ['\\', 'u', '0', '0', hexDigit (c.toNat / 16), hexDigit (c.toNat % 16)]
    else [c]

def printText (s : String) : List Char :=
  '"' :: s.toList.flatMap escaped ++ ['"']

def printNumber : Number → List Char
  | .int n => (toString n).toList
  | .real x => x.text.toList

mutual

def compact : Value → List Char
  | .null => ['n', 'u', 'l', 'l']
  | .bool true => ['t', 'r', 'u', 'e']
  | .bool false => ['f', 'a', 'l', 's', 'e']
  | .number n => printNumber n
  | .string s => printText s
  | .array items => '[' :: compactItems items ++ [']']
  | .object members => '\x7b' :: compactMembers members ++ ['\x7d']

def compactItems : List Value → List Char
  | [] => []
  | [item] => compact item
  | item :: items => compact item ++ ',' :: compactItems items

def compactMembers : List (String × Value) → List Char
  | [] => []
  | [(name, item)] => printText name ++ ':' :: compact item
  | (name, item) :: members => printText name ++ ':' :: compact item ++ ',' :: compactMembers members

end

def indent (depth : Nat) : List Char :=
  '\n' :: List.replicate (2 * depth) ' '

mutual

/-- The value with one item or member a line, at a nesting depth. -/
def prettyAt (depth : Nat) : Value → List Char
  | .array (item :: items) =>
    '[' :: prettyItems (depth + 1) (item :: items) ++ indent depth ++ [']']
  | .object (member :: members) =>
    '\x7b' :: prettyMembers (depth + 1) (member :: members) ++ indent depth ++ ['\x7d']
  | .null => ['n', 'u', 'l', 'l']
  | .bool true => ['t', 'r', 'u', 'e']
  | .bool false => ['f', 'a', 'l', 's', 'e']
  | .number n => printNumber n
  | .string s => printText s
  | .array [] => ['[', ']']
  | .object [] => ['\x7b', '\x7d']

def prettyItems (depth : Nat) : List Value → List Char
  | [] => []
  | [item] => indent depth ++ prettyAt depth item
  | item :: items => indent depth ++ prettyAt depth item ++ ',' :: prettyItems depth items

def prettyMembers (depth : Nat) : List (String × Value) → List Char
  | [] => []
  | [(name, item)] => indent depth ++ printText name ++ ':' :: ' ' :: prettyAt depth item
  | (name, item) :: members =>
    indent depth ++ printText name ++ ':' :: ' ' :: prettyAt depth item ++
      ',' :: prettyMembers depth members

end

def Value.toText (v : Value) : String :=
  String.ofList (compact v)

def Value.toPrettyText (v : Value) : String :=
  String.ofList (prettyAt 0 v)

end BlankLines.Json
