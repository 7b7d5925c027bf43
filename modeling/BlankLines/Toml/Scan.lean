import BlankLines.Text.Hex
import BlankLines.Toml.Value

/-!
The lexical forms of TOML: white space, comments, strings, keys and numbers. A scanner returns what it
read with the text after it, or nothing where the text has no such form.
-/
namespace BlankLines.Toml

open Text (hexValue?)

abbrev Scan (α : Type) := List Char → Option (α × List Char)

def isSpace (c : Char) : Bool :=
  c = ' ' || c = '\t'

def skipSpace (text : List Char) : List Char :=
  text.dropWhile isSpace

/-- The text after a line break, written as a line feed alone or after a carriage return. -/
def newline? : List Char → Option (List Char)
  | '\n' :: text => some text
  | '\r' :: '\n' :: text => some text
  | _ => none

/-- Characters that may stand in a comment: all but the controls, the tab excepted. -/
def isCommentChar (c : Char) : Bool :=
  c = '\t' || (0x20 ≤ c.toNat && c ≠ '\x7f')

def skipComment : List Char → List Char
  | '#' :: text => text.dropWhile isCommentChar
  | text => text

/-- The rest of a line on which nothing may follow but a comment. -/
def endLine (text : List Char) : Option (List Char) :=
  match skipComment (skipSpace text) with
  | [] => some []
  | text => newline? text

def skipLines : Nat → List Char → List Char
  | 0, text => text
  | bound + 1, text =>
    match skipSpace text with
    | '#' :: text => skipLines bound (text.dropWhile isCommentChar)
    | text =>
      match newline? text with
      | some text => skipLines bound text
      | none => text

def hexScalar (count : Nat) (text : List Char) : Option (Char × List Char) := do
  let digits ← (text.take count).mapM hexValue?
  let code := digits.foldl (fun n digit => n * 16 + digit) 0
  if digits.length = count && code.isValidChar then return (Char.ofNat code, text.drop count)
  else none

def escape : Scan Char
  | 'b' :: text => some ('\x08', text)
  | 't' :: text => some ('\t', text)
  | 'n' :: text => some ('\n', text)
  | 'f' :: text => some ('\x0c', text)
  | 'r' :: text => some ('\r', text)
  | '"' :: text => some ('"', text)
  | '\\' :: text => some ('\\', text)
  | 'u' :: text => hexScalar 4 text
  | 'U' :: text => hexScalar 8 text
  | _ => none

def skipBlankLines : Nat → List Char → List Char
  | 0, text => text
  | bound + 1, text =>
    match newline? (skipSpace text) with
    | some text => skipBlankLines bound text
    | none => skipSpace text

/-- Passes over the line break after a backslash and all white space behind it. -/
def foldedBreak? (text : List Char) : Option (List Char) :=
  (newline? (skipSpace text)).map fun text => skipBlankLines (text.length + 1) text

/-- A basic string after its quote; `done` holds the characters before, last first. -/
def basicTail : Nat → List Char → Scan String
  | 0, _, _ => none
  | bound + 1, done, text =>
    match text with
    | [] => none
    | c :: text =>
      if c = '"' then some (String.ofList done.reverse, text)
      else if c = '\\' then do
        let (c, text) ← escape text
        basicTail bound (c :: done) text
      else if isCommentChar c then basicTail bound (c :: done) text
      else none

def literalTail (text : List Char) : Option (String × List Char) :=
  let inside := text.takeWhile fun c => isCommentChar c && c ≠ '\''
  match text.drop inside.length with
  | '\'' :: rest => some (String.ofList inside, rest)
  | _ => none

/-- What a run of quotes means in a string that three of them close: one or two are text; of three to
five the last three close it; of more the first five are used. -/
def quoteRun (quote : Char) (text : List Char) : Nat × Option (List Char) :=
  let run := (text.takeWhile (· = quote)).length
  if run < 3 then (run, none)
  else
    let used := min run 5
    (used - 3, some (text.drop used))

/-- A basic string of several lines after its quotes and the line break that may follow them. -/
def multilineBasicTail : Nat → List Char → Scan String
  | 0, _, _ => none
  | bound + 1, done, text =>
    match text with
    | [] => none
    | c :: after =>
      if c = '"' then
        match quoteRun '"' text with
        | (kept, some rest) => some (String.ofList (List.replicate kept '"' ++ done).reverse, rest)
        | (run, none) => multilineBasicTail bound (List.replicate run '"' ++ done) (text.drop run)
      else if c = '\\' then
        match foldedBreak? after with
        | some text => multilineBasicTail bound done text
        | none => do
          let (c, text) ← escape after
          multilineBasicTail bound (c :: done) text
      else
        match newline? text with
        | some text => multilineBasicTail bound ('\n' :: done) text
        | none => if isCommentChar c then multilineBasicTail bound (c :: done) after else none

/-- A literal string of several lines after its quotes and the line break that may follow them. -/
def multilineLiteralTail : Nat → List Char → Scan String
  | 0, _, _ => none
  | bound + 1, done, text =>
    match text with
    | [] => none
    | c :: after =>
      if c = '\'' then
        match quoteRun '\'' text with
        | (kept, some rest) => some (String.ofList (List.replicate kept '\'' ++ done).reverse, rest)
        | (run, none) => multilineLiteralTail bound (List.replicate run '\'' ++ done) (text.drop run)
      else
        match newline? text with
        | some text => multilineLiteralTail bound ('\n' :: done) text
        | none => if isCommentChar c then multilineLiteralTail bound (c :: done) after else none

/-- The text of a string of several lines after the line break that may open it. -/
def skipOpening (text : List Char) : List Char :=
  (newline? text).getD text

def string (text : List Char) : Option (String × List Char) :=
  match text with
  | '"' :: '"' :: '"' :: rest => multilineBasicTail text.length [] (skipOpening rest)
  | '"' :: rest => basicTail text.length [] rest
  | '\'' :: '\'' :: '\'' :: rest => multilineLiteralTail text.length [] (skipOpening rest)
  | '\'' :: rest => literalTail rest
  | _ => none

def simpleKey : Scan String
  | '"' :: text => basicTail (text.length + 1) [] text
  | '\'' :: text => literalTail text
  | text =>
    let bare := text.takeWhile isBareKeyChar
    if bare.isEmpty then none else some (String.ofList bare, text.drop bare.length)

/-- A key of parts with points between them, and the white space around each part. -/
def dottedKey : Nat → Scan (List String)
  | 0, _ => none
  | bound + 1, text => do
    let (part, text) ← simpleKey (skipSpace text)
    match skipSpace text with
    | '.' :: text =>
      let (parts, text) ← dottedKey bound text
      return (part :: parts, text)
    | text => return ([part], text)

def maxDepth : Nat := 79

/-- A key of at most `maxDepth` parts. -/
def key : Scan (List String) := fun text => do
  let (parts, text) ← dottedKey (text.length + 1) text
  if parts.length ≤ maxDepth then return (parts, text) else none

/-- Digits of a base, single underscores between them. The first digit has been seen. -/
def moreDigits (isDigit : Char → Bool) : Scan (List Char)
  | [] => some ([], [])
  | '_' :: text =>
    match text with
    | c :: text =>
      if isDigit c then (moreDigits isDigit text).map fun (digits, rest) => (c :: digits, rest)
      else none
    | [] => none
  | c :: text =>
    if isDigit c then (moreDigits isDigit text).map fun (digits, rest) => (c :: digits, rest)
    else some ([], c :: text)

def digitRun (isDigit : Char → Bool) : Scan (List Char)
  | c :: text =>
    if isDigit c then (moreDigits isDigit text).map fun (digits, rest) => (c :: digits, rest) else none
  | [] => none

/-- Decimal digits without a leading zero. -/
def wholeDigits : Scan (List Char)
  | '0' :: text => some (['0'], text)
  | text => digitRun Char.isDigit text

def sign : List Char → Bool × List Char
  | '-' :: text => (true, text)
  | '+' :: text => (false, text)
  | text => (false, text)

def digitsValue (base : Nat) (digits : List Char) : Nat :=
  digits.foldl (fun n c => n * base + (hexValue? c).getD 0) 0

def fits? (n : Int) : Option Int :=
  if -(Word.half : Int) ≤ n && n < Word.half then some n else none

def isHexDigit (c : Char) : Bool := (hexValue? c).isSome
def isOctalDigit (c : Char) : Bool := '0' ≤ c && c ≤ '7'
def isBinaryDigit (c : Char) : Bool := c = '0' || c = '1'

/-- An unsigned integer of a base after its mark. -/
def basedInteger (base : Nat) (isDigit : Char → Bool) : Scan Int := fun text => do
  let (digits, text) ← digitRun isDigit text
  return (← fits? (digitsValue base digits), text)

def integer : Scan Int
  | '0' :: 'x' :: text => basedInteger 16 isHexDigit text
  | '0' :: 'o' :: text => basedInteger 8 isOctalDigit text
  | '0' :: 'b' :: text => basedInteger 2 isBinaryDigit text
  | text => do
    let (negative, text) := sign text
    let (digits, text) ← wholeDigits text
    let size : Int := digitsValue 10 digits
    return (← fits? (if negative then -size else size), text)

def partDigits : Scan (List Char)
  | '.' :: text => digitRun Char.isDigit text
  | text => some ([], text)

def exponent (text : List Char) : Option (Option Int × List Char) :=
  match text with
  | c :: after =>
    if c = 'e' || c = 'E' then do
      let (negative, after) := sign after
      let (digits, after) ← digitRun Char.isDigit after
      let size : Int := digitsValue 10 digits
      return (some (if negative then -size else size), after)
    else some (none, text)
  | [] => some (none, [])

/-- Whether digits name too great a number. Too small a negative one is minus infinity. -/
def overflows (negative : Bool) (x : Binary64) : Bool :=
  x.isInfinite && !negative

/-- A float: digits with a point, an exponent or both, or one of the special names. -/
def float (text : List Char) : Option (Binary64 × List Char) :=
  let (negative, text) := sign text
  match text with
  | 'i' :: 'n' :: 'f' :: rest => some (.infinite negative, rest)
  | 'n' :: 'a' :: 'n' :: rest => some (.nan, rest)
  | text => do
    let (whole, text) ← wholeDigits text
    let (part, text) ← partDigits text
    let (power, text) ← exponent text
    if part.isEmpty && power.isNone then none
    else
      let digits := digitsValue 10 (whole ++ part)
      let x := Binary64.ofDecimal negative digits (power.getD 0 - part.length)
      if overflows negative x then none else return (x, text)

end BlankLines.Toml
