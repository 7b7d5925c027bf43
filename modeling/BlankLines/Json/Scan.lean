import BlankLines.Json.Number
import BlankLines.Text.Hex

/-!
The words, numbers and strings of JSON, read from the left. A reader takes the text that is left and
returns what it read with the text after it, or the first fault on the way.
-/
namespace BlankLines.Json

open Text (hexValue?)

/-- Why reading stopped: the text is no JSON, it is JSON of another shape, or it ended too early. -/
inductive Fault where
  | malformed
  | mismatched
  | truncated
deriving Repr, DecidableEq

abbrev Reader (α : Type) := List Char → Except Fault (α × List Char)

def isSpace (c : Char) : Bool :=
  c = ' ' || c = '\n' || c = '\t' || c = '\r'

def skipSpace (text : List Char) : List Char :=
  text.dropWhile isSpace

def letters : List Char → Reader Unit
  | [], text => .ok ((), text)
  | _ :: _, [] => .error .truncated
  | letter :: more, c :: text => if c = letter then letters more text else .error .malformed

def nullTail : Reader Unit := letters ['u', 'l', 'l']
def trueTail : Reader Unit := letters ['r', 'u', 'e']
def falseTail : Reader Unit := letters ['a', 'l', 's', 'e']

/-- One or more digits. `short` is the fault of a text that ends here. -/
def digitRun (short : Fault) : Reader (List Char)
  | [] => .error short
  | c :: text =>
    if c.isDigit then .ok (c :: text.takeWhile Char.isDigit, text.dropWhile Char.isDigit)
    else .error .malformed

def wholeDigits (short : Fault) : Reader (List Char)
  | '0' :: c :: text => if c.isDigit then .error .malformed else .ok (['0'], c :: text)
  | text => digitRun short text

def partDigits (short : Fault) : Reader (List Char)
  | '.' :: text => digitRun short text
  | text => .ok ([], text)

def exponentSign : List Char → Bool × List Char
  | '+' :: text => (false, text)
  | '-' :: text => (true, text)
  | text => (false, text)

def exponentPart (short : Fault) (text : List Char) : Except Fault (Option Int × List Char) :=
  match text with
  | c :: after =>
    if c = 'e' || c = 'E' then do
      let (negative, after) := exponentSign after
      let (digits, after) ← digitRun short after
      let size : Int := digits.foldl (fun n c => n * 10 + digitValue c) 0
      return (some (if negative then -size else size), after)
    else .ok (none, text)
  | [] => .ok (none, [])

def literal (short : Fault) (negative : Bool) : Reader Literal := fun text => do
  let (whole, text) ← wholeDigits short text
  let (part, text) ← partDigits short text
  let (exponent, text) ← exponentPart short text
  return (⟨negative, whole, part, exponent⟩, text)

/-- A number after its sign. One beyond every finite number is no number. -/
def numberTail (negative : Bool) : Reader Number := fun text => do
  let (l, text) ← literal .truncated negative text
  match l.number? with
  | some n => return (n, text)
  | none => .error .malformed

/-- Passes over a number after its sign, whatever its size. A text that ends within it is malformed. -/
def skipNumberTail : Reader Unit := fun text => do
  let (_, text) ← literal .malformed false text
  return ((), text)

/-- Four hexadecimal digits. Fewer than four bytes are a text that ended too early. -/
def hexUnit : Reader Nat
  | a :: b :: c :: d :: text =>
    match hexValue? a, hexValue? b, hexValue? c, hexValue? d with
    | some a, some b, some c, some d => .ok (((a * 16 + b) * 16 + c) * 16 + d, text)
    | _, _, _, _ => .error .malformed
  | text => if 4 ≤ (String.ofList text).utf8ByteSize then .error .malformed else .error .truncated

def isLeadUnit (n : Nat) : Bool := 0xD800 ≤ n && n ≤ 0xDBFF
def isTrailUnit (n : Nat) : Bool := 0xDC00 ≤ n && n ≤ 0xDFFF

/-- The second half of a pair of units, written as a further escape. -/
def trailUnit (lead : Nat) : Reader Char
  | [] => .error .truncated
  | '\\' :: [] => .error .truncated
  | '\\' :: 'u' :: text => do
    let (trail, text) ← hexUnit text
    if isTrailUnit trail then
      return (Char.ofNat (0x10000 + (lead - 0xD800) * 0x400 + (trail - 0xDC00)), text)
    else .error .malformed
  | _ => .error .malformed

/-- The character of an escape by code unit, after `\u`. Half a pair alone is refused. -/
def unicodeEscape : Reader Char := fun text => do
  let (unit, text) ← hexUnit text
  if isTrailUnit unit then .error .malformed
  else if isLeadUnit unit then trailUnit unit text
  else return (Char.ofNat unit, text)

def escapeLetter? : Char → Option Char
  | '"' => some '"'
  | '\\' => some '\\'
  | '/' => some '/'
  | 'b' => some '\x08'
  | 'f' => some '\x0c'
  | 'n' => some '\n'
  | 'r' => some '\r'
  | 't' => some '\t'
  | _ => none

def escape : Reader Char
  | [] => .error .truncated
  | 'u' :: text => unicodeEscape text
  | c :: text =>
    match escapeLetter? c with
    | some c => .ok (c, text)
    | none => .error .malformed

def skipEscape : Reader Unit
  | [] => .error .truncated
  | 'u' :: text => do
    let (_, text) ← hexUnit text
    return ((), text)
  | c :: text => if (escapeLetter? c).isSome then .ok ((), text) else .error .malformed

theorem hexUnit_shorter {text rest : List Char} {unit : Nat}
    (read : hexUnit text = .ok (unit, rest)) : rest.length < text.length := by
  unfold hexUnit at read
  split at read
  · split at read
    · obtain ⟨-, rfl⟩ := by simpa only [Except.ok.injEq, Prod.mk.injEq] using read
      simp only [List.length_cons]
      omega
    · cases read
  · split at read <;> cases read

theorem escape_shorter {text rest : List Char} {c : Char}
    (read : escape text = .ok (c, rest)) : rest.length < text.length := by
  unfold escape at read
  split at read
  · cases read
  · next inner =>
    simp only [unicodeEscape, bind, Except.bind, pure, Except.pure] at read
    split at read
    · cases read
    · next value first =>
      have shorter := hexUnit_shorter first
      split at read
      · cases read
      · split at read
        · unfold trailUnit at read
          split at read
          · cases read
          · cases read
          · next after whole =>
            simp only [bind, Except.bind, pure, Except.pure] at read
            split at read
            · cases read
            · next second pair =>
              have shorter' := hexUnit_shorter pair
              split at read
              · obtain ⟨-, rfl⟩ := by simpa only [Except.ok.injEq, Prod.mk.injEq] using read
                simp only [whole, List.length_cons] at shorter ⊢
                omega
              · cases read
          · cases read
        · obtain ⟨-, rfl⟩ := by simpa only [Except.ok.injEq, Prod.mk.injEq] using read
          simp only [List.length_cons]
          omega
  · split at read
    · cases read; simp
    · cases read

theorem skipEscape_shorter {text rest : List Char} {u : Unit}
    (read : skipEscape text = .ok (u, rest)) : rest.length < text.length := by
  unfold skipEscape at read
  split at read
  · cases read
  · simp only [bind, Except.bind, pure, Except.pure] at read
    split at read
    · cases read
    · next value first =>
      have shorter := hexUnit_shorter first
      cases read
      simp only [List.length_cons]
      omega
  · split at read
    · cases read; simp
    · cases read

/-- The characters of a string up to its closing quote; `done` holds those already read, last first. -/
def textTail (done : List Char) : Reader (List Char)
  | [] => .error .truncated
  | c :: text =>
    if c = '"' then .ok (done.reverse, text)
    else if c = '\\' then
      match _read : escape text with
      | .ok (c, rest) => textTail (c :: done) rest
      | .error fault => .error fault
    else if c.toNat < 0x20 then .error .malformed
    else textTail (c :: done) text
termination_by text => text.length
decreasing_by
  · have := escape_shorter _read
    simp only [List.length_cons]
    omega
  · simp

def skipTextTail : Reader Unit
  | [] => .error .truncated
  | c :: text =>
    if c = '"' then .ok ((), text)
    else if c = '\\' then
      match _read : skipEscape text with
      | .ok (_, rest) => skipTextTail rest
      | .error fault => .error fault
    else if c.toNat < 0x20 then .error .malformed
    else skipTextTail text
termination_by text => text.length
decreasing_by
  · have := skipEscape_shorter _read
    simp only [List.length_cons]
    omega
  · simp

end BlankLines.Json
