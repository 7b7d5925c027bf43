import BlankLines.Binary64.Shortest
import BlankLines.Text.Quoted
import BlankLines.Toml.Value

/-!
TOML text of a value on one line, as messages show it. A string takes the first of five spellings that
needs no escapes, and the basic one with escapes if none does.
-/
namespace BlankLines.Toml

def longestRun (c : Char) (text : List Char) : Nat :=
  (text.foldl (fun (longest, run) d => if d = c then (max longest (run + 1), run + 1) else (longest, 0))
    (0, 0)).1

/-- Controls that only an escape can write: all but the tab and the line feed. -/
def needsEscape (c : Char) : Bool :=
  (c.toNat < 0x20 && c ≠ '\t' && c ≠ '\n') || c = '\x7f'

def hexEscape (c : Char) : List Char :=
  let digits := (Text.digits 16 c.toNat).map Char.toUpper
  ['\\', 'u'] ++ List.replicate (4 - digits.length) '0' ++ digits

def escapedChar (multiline : Bool) (c : Char) : List Char :=
  match c with
  | '\x08' => ['\\', 'b']
  | '\t' => ['\\', 't']
  | '\n' => if multiline then ['\n'] else ['\\', 'n']
  | '\x0c' => ['\\', 'f']
  | '\r' => ['\\', 'r']
  | '\\' => ['\\', '\\']
  | c => if needsEscape c then hexEscape c else [c]

/-- The inside of an escaped string. Up to `allowed` quotes in a row stand unescaped; `run` counts
those just written. -/
def escapedText (multiline : Bool) (allowed : Nat) : Nat → List Char → List Char
  | _, [] => []
  | run, c :: rest =>
    if c = '"' then
      if run < allowed then '"' :: escapedText multiline allowed (run + 1) rest
      else '\\' :: '"' :: escapedText multiline allowed 0 rest
    else escapedChar multiline c ++ escapedText multiline allowed 0 rest

def basic (text : List Char) : List Char :=
  ['"'] ++ escapedText false 0 0 text ++ ['"']

def literalText (text : List Char) : List Char :=
  ['\''] ++ text ++ ['\'']

/-- The line break that opens a string of several lines. -/
def opening (text : List Char) : List Char :=
  if text.contains '\n' then ['\n'] else []

def multilineBasic (text : List Char) : List Char :=
  ['"', '"', '"'] ++ opening text ++ escapedText true 2 0 text ++ ['"', '"', '"']

def multilineLiteral (text : List Char) : List Char :=
  ['\'', '\'', '\''] ++ opening text ++ text ++ ['\'', '\'', '\'']

/-- A string in the first spelling that fits. -/
def printString (text : List Char) : List Char :=
  let controls := text.any needsEscape
  let backslash := text.contains '\\'
  let breaks := text.contains '\n'
  if !controls && !backslash && !breaks && !text.contains '"' then basic text
  else if !controls && !breaks && !text.contains '\'' then literalText text
  else if !controls && !backslash && longestRun '"' text ≤ 2 then multilineBasic text
  else if !controls && longestRun '\'' text ≤ 2 then multilineLiteral text
  else if breaks then multilineBasic text
  else basic text

/-- A key: bare if it can be, else quoted. -/
def printKey (key : List Char) : List Char :=
  let controls := key.any fun c => needsEscape c || c = '\n'
  if !key.isEmpty && key.all isBareKeyChar then key
  else if !controls && !key.contains '\\' && !key.contains '"' then basic key
  else if !controls && !key.contains '\'' then literalText key
  else basic key

def separated : List (List Char) → List Char
  | [] => []
  | [item] => item
  | item :: items => item ++ ',' :: ' ' :: separated items

mutual

def printInner : Value → List Char
  | .string s => printString s.toList
  | .integer n => (toString n).toList
  | .float x => x.text.toList
  | .boolean b => if b then ['t', 'r', 'u', 'e'] else ['f', 'a', 'l', 's', 'e']
  | .dateTime text => text.toList
  | .array items => '[' :: separated (printItems items) ++ [']']
  | .table [] => ['\x7b', '\x7d']
  | .table (entry :: entries) =>
    ['\x7b', ' '] ++ separated (printEntries (entry :: entries)) ++ [' ', '\x7d']

def printItems : List Value → List (List Char)
  | [] => []
  | item :: items => printInner item :: printItems items

def printEntries : List (String × Value) → List (List Char)
  | [] => []
  | (key, item) :: entries =>
    (printKey key.toList ++ [' ', '=', ' '] ++ printInner item) :: printEntries entries

end

/-- The value on its own. A date-time is shown as the table that stands for it. -/
def Value.display : Value → String
  | .dateTime text => String.ofList (printInner (dateTimeTable text))
  | value => String.ofList (printInner value)

end BlankLines.Toml
