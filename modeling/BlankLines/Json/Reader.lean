import BlankLines.Json.Scan

/-!
Readers for lists, objects and whole values. A recursive reader carries a bound on its steps; every
entry point computes the bound from the length of its text, so that no text reaches it.
-/
namespace BlankLines.Json

variable {α σ : Type}

/-- Moves to the next item of a list: true with the text of the item, or false at the bracket. -/
def nextItem (first : Bool) : Reader Bool := fun text =>
  match skipSpace text with
  | [] => .error .truncated
  | ']' :: text => .ok (false, ']' :: text)
  | c :: text =>
    if first then .ok (true, c :: text)
    else if c = ',' then
      match skipSpace text with
      | [] => .error .truncated
      | ']' :: _ => .error .malformed
      | text => .ok (true, text)
    else .error .malformed

def endList : Reader Unit := fun text =>
  match skipSpace text with
  | [] => .error .truncated
  | ']' :: text => .ok ((), text)
  | _ => .error .malformed

def memberName : Reader (Option String) := fun text => do
  let (name, text) ← textTail [] text
  return (some (String.ofList name), text)

/-- Moves to the next member of an object: its name, or none past the brace. -/
def nextMember (first : Bool) : Reader (Option String) := fun text =>
  match skipSpace text with
  | [] => .error .truncated
  | '\x7d' :: text => .ok (none, text)
  | c :: text =>
    if first then if c = '"' then memberName text else .error .malformed
    else if c = ',' then
      match skipSpace text with
      | [] => .error .truncated
      | '"' :: text => memberName text
      | _ => .error .malformed
    else .error .malformed

def colon : Reader Unit := fun text =>
  match skipSpace text with
  | [] => .error .truncated
  | ':' :: text => .ok ((), text)
  | _ => .error .malformed

mutual

def skipValue : Nat → Reader Unit
  | 0, _ => .error .truncated
  | bound + 1, text =>
    match skipSpace text with
    | [] => .error .truncated
    | c :: text =>
      if c = 'n' then nullTail text
      else if c = 't' then trueTail text
      else if c = 'f' then falseTail text
      else if c = '-' then skipNumberTail text
      else if c.isDigit then skipNumberTail (c :: text)
      else if c = '"' then skipTextTail text
      else if c = '[' then skipItems bound true text
      else if c = '\x7b' then skipMembers bound true text
      else .error .malformed

def skipItems : Nat → Bool → Reader Unit
  | 0, _, _ => .error .truncated
  | bound + 1, first, text => do
    let (more, text) ← nextItem first text
    if more then
      let (_, text) ← skipValue bound text
      skipItems bound false text
    else endList text

def skipMembers : Nat → Bool → Reader Unit
  | 0, _, _ => .error .truncated
  | bound + 1, first, text =>
    match skipSpace text with
    | [] => .error .truncated
    | '\x7d' :: text => .ok ((), text)
    | c :: text =>
      let name : Except Fault (List Char) :=
        if first then .ok (c :: text)
        else if c = ',' then .ok (skipSpace text)
        else .error .malformed
      match name with
      | .error fault => .error fault
      | .ok [] => .error .truncated
      | .ok ('"' :: text) => do
        let (_, text) ← skipTextTail text
        let (_, text) ← colon text
        let (_, text) ← skipValue bound text
        skipMembers bound false text
      | .ok _ => .error .malformed

end

mutual

def value : Nat → Reader Value
  | 0, _ => .error .truncated
  | bound + 1, text =>
    match skipSpace text with
    | [] => .error .truncated
    | c :: text => do
      if c = 'n' then
        let (_, text) ← nullTail text
        return (.null, text)
      else if c = 't' then
        let (_, text) ← trueTail text
        return (.bool true, text)
      else if c = 'f' then
        let (_, text) ← falseTail text
        return (.bool false, text)
      else if c = '-' then
        let (n, text) ← numberTail true text
        return (.number n, text)
      else if c.isDigit then
        let (n, text) ← numberTail false (c :: text)
        return (.number n, text)
      else if c = '"' then
        let (s, text) ← textTail [] text
        return (.string (String.ofList s), text)
      else if c = '[' then
        let (items, text) ← values bound true [] text
        return (.array items, text)
      else if c = '\x7b' then
        let (members, text) ← namedValues bound true [] text
        return (.object members, text)
      else .error .malformed

/-- Reads the items of a list and its bracket; `done` holds the items before, last first. -/
def values : Nat → Bool → List Value → Reader (List Value)
  | 0, _, _, _ => .error .truncated
  | bound + 1, first, done, text => do
    let (more, text) ← nextItem first text
    if more then
      let (item, text) ← value bound text
      values bound false (item :: done) text
    else
      let (_, text) ← endList text
      return (done.reverse, text)

/-- Reads the members of an object and its brace; `done` holds the members before, last first. -/
def namedValues : Nat → Bool → List (String × Value) → Reader (List (String × Value))
  | 0, _, _, _ => .error .truncated
  | bound + 1, first, done, text => do
    let (name, text) ← nextMember first text
    match name with
    | none => return (done.reverse, text)
    | some name =>
      let (_, text) ← colon text
      let (item, text) ← value bound text
      namedValues bound false ((name, item) :: done) text

end

/-- A number of steps that no text of this length needs. -/
def stepBound (text : List Char) : Nat :=
  2 * text.length + 2

/-- Runs a reader on a whole text: only white space may follow. -/
def readAll (reader : Reader α) (text : List Char) : Except Fault α := do
  let (result, rest) ← reader text
  if (skipSpace rest).isEmpty then return result else throw .malformed

def parse (text : String) : Except Fault Value :=
  let chars := text.toList
  readAll (value (stepBound chars)) chars

/-- A scalar of another shape than the one wanted: its own fault comes first. -/
def mismatchAfter (scalar : Except Fault (α × List Char)) : Fault :=
  match scalar with
  | .ok _ => .mismatched
  | .error fault => fault

/-- The fault of a text that does not begin with the shape wanted. -/
def mismatch (text : List Char) : Fault :=
  match text with
  | [] => .truncated
  | c :: rest =>
    if c = 'n' then mismatchAfter (nullTail rest)
    else if c = 't' then mismatchAfter (trueTail rest)
    else if c = 'f' then mismatchAfter (falseTail rest)
    else if c = '-' then mismatchAfter (numberTail true rest)
    else if c.isDigit then mismatchAfter (numberTail false (c :: rest))
    else if c = '"' then mismatchAfter (textTail [] rest)
    else if c = '[' || c = '\x7b' then .mismatched
    else .malformed

def readText : Reader String := fun text =>
  match skipSpace text with
  | '"' :: text => do
    let (s, text) ← textTail [] text
    return (String.ofList s, text)
  | text => .error (mismatch text)

def readNat : Reader Nat := fun text =>
  let check (result : Except Fault (Number × List Char)) : Except Fault (Nat × List Char) :=
    match result with
    | .ok (.int (.ofNat n), text) => .ok (n, text)
    | .ok _ => .error .mismatched
    | .error fault => .error fault
  match skipSpace text with
  | '-' :: text => check (numberTail true text)
  | c :: text =>
    if c.isDigit then check (numberTail false (c :: text)) else .error (mismatch (c :: text))
  | [] => .error .truncated

def readOptional (item : Reader α) : Reader (Option α) := fun text =>
  match skipSpace text with
  | 'n' :: text => do
    let (_, text) ← nullTail text
    return (none, text)
  | text => do
    let (result, text) ← item text
    return (some result, text)

/-- The items of a list and its bracket; `done` holds the items before, last first. -/
def readItems (item : Reader α) : Nat → Bool → List α → Reader (List α)
  | 0, _, _, _ => .error .truncated
  | bound + 1, first, done, text => do
    let (more, text) ← nextItem first text
    if more then
      let (result, text) ← item text
      readItems item bound false (result :: done) text
    else
      let (_, text) ← endList text
      return (done.reverse, text)

def readList (bound : Nat) (item : Reader α) : Reader (List α) := fun text =>
  match skipSpace text with
  | '[' :: text => readItems item bound true [] text
  | text => .error (mismatch text)

/-- The members of an object and its brace. `field` reads the value of a named member, colon
included. -/
def readMembers (field : σ → String → Reader σ) : Nat → Bool → σ → Reader σ
  | 0, _, _, _ => .error .truncated
  | bound + 1, first, state, text => do
    let (name, text) ← nextMember first text
    match name with
    | none => return (state, text)
    | some name =>
      let (state, text) ← field state name text
      readMembers field bound false state text

/-- A record: an object of named fields, or a list of its fields in order. -/
def readRecord (named : Reader α) (listed : Reader α) : Reader α := fun text =>
  match skipSpace text with
  | '\x7b' :: text => named text
  | '[' :: text => do
    let (result, text) ← listed text
    let (_, text) ← endList text
    return (result, text)
  | text => .error (mismatch text)

/-- The value of a member that may stand once: a second one is refused before it is read. -/
def readOnce (present : Bool) (item : Reader α) : Reader α := fun text =>
  if present then .error .mismatched
  else do
    let (_, text) ← colon text
    item text

def skipMember (bound : Nat) : Reader Unit := fun text => do
  let (_, text) ← colon text
  skipValue bound text

/-- An item of a listed record that may be left out with all after it. -/
def readTrailing (first : Bool) (default : α) (item : Reader α) : Reader α := fun text => do
  let (more, text) ← nextItem first text
  if more then item text else return (default, text)

/-- An item of a listed record that must be there. -/
def readRequired (first : Bool) (item : Reader α) : Reader α := fun text => do
  let (more, text) ← nextItem first text
  if more then item text else throw .mismatched

end BlankLines.Json
