import BlankLines.Toml.Scan

/-!
Dates and times, read to their normal text: a `T` before the time, no zeros at the end of a fraction,
`Z` or a signed offset. A document writes them as values, and a table can stand for one that it holds
as text.
-/
namespace BlankLines.Toml

def fixedDigits (count : Nat) (text : List Char) : Option (Nat × List Char) :=
  let digits := text.take count
  if digits.length = count && digits.all Char.isDigit then
    some (digitsValue 10 digits, text.drop count)
  else none

def field (low high : Nat) (text : List Char) : Option (Nat × List Char) := do
  let (n, text) ← fixedDigits 2 text
  if low ≤ n && n ≤ high then return (n, text) else none

def mark (c : Char) : List Char → Option (List Char)
  | d :: text => if c = d then some text else none
  | [] => none

def isLeapYear (year : Nat) : Bool :=
  year % 4 = 0 && (year % 100 ≠ 0 || year % 400 = 0)

def daysIn (year month : Nat) : Nat :=
  if month = 2 then if isLeapYear year then 29 else 28
  else if month = 4 || month = 6 || month = 9 || month = 11 then 30
  else 31

def padded (width n : Nat) : String :=
  let digits := Nat.toDigits 10 n
  String.ofList (List.replicate (width - digits.length) '0' ++ digits)

def date (text : List Char) : Option (String × List Char) := do
  let (year, text) ← fixedDigits 4 text
  let text ← mark '-' text
  let (month, text) ← field 1 12 text
  let text ← mark '-' text
  let (day, text) ← field 1 (daysIn year month) text
  return (padded 4 year ++ "-" ++ padded 2 month ++ "-" ++ padded 2 day, text)

/-- A fraction of a second to nine places, without zeros at its end. -/
def secondPart (text : List Char) : Option (String × List Char) :=
  match text with
  | '.' :: c :: text =>
    if c.isDigit then
      let digits := c :: text.takeWhile Char.isDigit
      let kept := ((digits.take 9).reverse.dropWhile (· = '0')).reverse
      let shown := if kept.isEmpty then "" else "." ++ String.ofList kept
      some (shown, text.dropWhile Char.isDigit)
    else none
  | '.' :: [] => none
  | text => some ("", text)

def time (text : List Char) : Option (String × List Char) := do
  let (hour, text) ← field 0 23 text
  let text ← mark ':' text
  let (minute, text) ← field 0 59 text
  let text ← mark ':' text
  let (second, text) ← field 0 60 text
  let (part, text) ← secondPart text
  return (padded 2 hour ++ ":" ++ padded 2 minute ++ ":" ++ padded 2 second ++ part, text)

/-- An offset from universal time, if there is one. None at all is written with a plus. -/
def offset (text : List Char) : Option (String × List Char) :=
  match text with
  | c :: after =>
    if c = 'Z' || c = 'z' then some ("Z", after)
    else if c = '+' || c = '-' then do
      let (hour, after) ← field 0 23 after
      let after ← mark ':' after
      let (minute, after) ← field 0 59 after
      let sign := if c = '-' && (hour, minute) ≠ (0, 0) then "-" else "+"
      return (sign ++ padded 2 hour ++ ":" ++ padded 2 minute, after)
    else some ("", text)
  | [] => some ("", [])

/-- The time after a date, behind a `T` or a space. -/
def timeAfterDate (text : List Char) : Option (String × List Char) :=
  match text with
  | c :: after =>
    if c = 'T' || c = 't' || c = ' ' then do
      let (time, after) ← time after
      let (offset, after) ← offset after
      return ("T" ++ time ++ offset, after)
    else none
  | [] => none

/-- A date, a date with a time, or a time. -/
def dateTime (text : List Char) : Option (String × List Char) :=
  match date text with
  | some (date, rest) =>
    match timeAfterDate rest with
    | some (time, rest) => some (date ++ time, rest)
    | none => some (date, rest)
  | none => time text

def dateTimeText? (text : List Char) : Option String := do
  let (shown, rest) ← dateTime text
  if rest.isEmpty then return shown else none

end BlankLines.Toml
