import BlankLines.Toml.DateTime

/-!
TOML values, and the tables that entries build. A table remembers how it came to be, for that decides
whether later lines may still add to it.
-/
namespace BlankLines.Toml

/-- How a table came to be: stated by a header, passed through by the path of one, or made by a key
with points. -/
inductive Origin where
  | stated
  | passed
  | dotted
deriving Repr, DecidableEq

/-- A value or table as it is written: with the entries of tables in the order in which they came. -/
inductive Node where
  | scalar (value : Value)
  | array (items : List Node)
  | inline (entries : List (String × Node))
  | table (origin : Origin) (entries : List (String × Node))
  | tables (items : List Node)
deriving Inhabited

abbrev Entries := Keyed Node

namespace Entries

/-- Acts on the table at the end of a path, making the tables on the way that are missing. The path of
a key with points may not enter a table that a header states. -/
def update (points : Bool) (act : Origin → Entries → Option Entries) :
    List String → Origin → Entries → Option Entries
  | [], origin, entries => act origin entries
  | key :: path, _, entries =>
    match Keyed.get? entries key with
    | none => do
      let origin := if points then Origin.dotted else .passed
      let made ← update points act path origin []
      return Keyed.put entries key (.table origin made)
    | some (.table origin inner) =>
      if points && origin = .stated then none
      else do
        let changed ← update points act path origin inner
        return Keyed.put entries key (.table origin changed)
    | some (.tables items) =>
      match items.getLast? with
      | some (.table origin inner) => do
        let changed ← update points act path origin inner
        return Keyed.put entries key (.tables (items.dropLast ++ [.table origin changed]))
      | _ => none
    | some _ => none

def insert (path : List String) (value : Node) (origin : Origin) (entries : Entries) :
    Option Entries :=
  match path.getLast? with
  | none => none
  | some key =>
    update true (fun origin entries =>
      if decide (origin = .dotted) == path.dropLast.isEmpty then none
      else if Keyed.has entries key then none
      else some (Keyed.put entries key value)) path.dropLast origin entries

/-- Opens the table of a header. It may have been passed through before, but not stated; then it moves
behind the entries that came since. -/
def openTable (key : String) (entries : Entries) : Option Entries :=
  match Keyed.get? entries key with
  | none => some (Keyed.put entries key (.table .stated []))
  | some (.table .passed inner) =>
    some (Keyed.without entries key ++ [(key, .table .stated inner)])
  | some _ => none

/-- Opens a further table of a repeated header. -/
def openItem (key : String) (entries : Entries) : Option Entries :=
  match Keyed.get? entries key with
  | none => some (Keyed.put entries key (.tables [.table .stated []]))
  | some (.tables items) => some (Keyed.put entries key (.tables (items ++ [.table .stated []])))
  | some _ => none

end Entries

namespace Node

/-- The date-time under the first key of a table that stands for one. -/
def standIn? : Node → Option Value
  | .scalar (.string text) => (dateTimeText? text.toList).map .dateTime
  | _ => none

mutual

/-- The value that a node has become, tables in the order of their keys. A table whose first key is
that of a date-time stands for one, whatever follows. -/
def toValue? : Node → Option Value
  | .scalar value => some value
  | .array items => (toItems? items).map .array
  | .tables items => (toItems? items).map .array
  | .inline entries => toTable? entries
  | .table _ entries => toTable? entries

def toTable? : List (String × Node) → Option Value
  | [] => some (.table [])
  | (key, node) :: entries =>
    if key = dateTimeKey then node.standIn?
    else do
      let value ← toValue? node
      return .table (Keyed.sorted ((key, value) :: (← toEntries? entries)))

def toEntries? : List (String × Node) → Option (List (String × Value))
  | [] => some []
  | (key, node) :: entries => do
    let value ← toValue? node
    return (key, value) :: (← toEntries? entries)

def toItems? : List Node → Option (List Value)
  | [] => some []
  | node :: items => do
    let value ← toValue? node
    return value :: (← toItems? items)

end

end Node

/-- A number, or a date. What could be several of them is taken in the order of the list. -/
def numberOrDate (text : List Char) : Option (Value × List Char) :=
  match dateTime text with
  | some (date, rest) => some (.dateTime date, rest)
  | none =>
    match float text with
    | some (x, rest) => some (.float x, rest)
    | none => (integer text).map fun (n, rest) => (.integer n, rest)

def scalar (text : List Char) : Option (Value × List Char) :=
  match text with
  | 't' :: 'r' :: 'u' :: 'e' :: rest => some (.boolean true, rest)
  | 'f' :: 'a' :: 'l' :: 's' :: 'e' :: rest => some (.boolean false, rest)
  | c :: _ =>
    if c = '"' || c = '\'' then (string text).map fun (s, rest) => (.string s, rest)
    else numberOrDate text
  | [] => none

/-- The items of an array and its bracket; `done` holds the items before, last first. -/
def arrayTail (item : Scan Node) : Nat → List Node → Scan Node
  | 0, _, _ => none
  | bound + 1, done, text =>
    match skipLines (bound + 1) text with
    | ']' :: text => some (.array done.reverse, text)
    | text => do
      let (value, text) ← item text
      match skipLines (bound + 1) text with
      | ',' :: text => arrayTail item bound (value :: done) text
      | ']' :: text => return (.array (value :: done).reverse, text)
      | _ => none

/-- A key, the sign, and a value, with the white space around them. -/
def pair (item : Scan Node) : Scan (List String × Node) := fun text => do
  let (path, text) ← key text
  match text with
  | '=' :: text =>
    let (value, text) ← item (skipSpace text)
    return ((path, value), skipSpace text)
  | _ => none

/-- The pairs of an inline table and its brace, added to `entries`. -/
def inlineTail (item : Scan Node) : Nat → Entries → Scan Node
  | 0, _, _ => none
  | bound + 1, entries, text => do
    let ((path, value), text) ← pair item text
    let entries ← entries.insert path value .stated
    match text with
    | ',' :: text => inlineTail item bound entries text
    | '\x7d' :: text => return (.inline entries, text)
    | _ => none

/-- A value, in which others may nest so deep. -/
def value : Nat → Scan Node
  | 0, text => (scalar text).map fun (value, text) => (.scalar value, text)
  | depth + 1, text =>
    match text with
    | '[' :: text => arrayTail (value depth) (text.length + 1) [] text
    | '\x7b' :: text =>
      match skipSpace text with
      | '\x7d' :: text => some (.inline [], text)
      | text => inlineTail (value depth) (text.length + 1) [] text
    | text => (scalar text).map fun (value, text) => (.scalar value, text)

/-- The header of a table or of a further item, with the key that it names. -/
def header (text : List Char) : Option ((Bool × List String) × List Char) :=
  match text with
  | '[' :: '[' :: text => do
    let (path, text) ← key text
    match text with
    | ']' :: ']' :: text => return ((true, path), text)
    | _ => none
  | '[' :: text => do
    let (path, text) ← key text
    match text with
    | ']' :: text => return ((false, path), text)
    | _ => none
  | _ => none

/-- Opens the table that a header names, in the tables on the way to it. -/
def openHeader (repeated : Bool) (path : List String) (root : Entries) : Option Entries := do
  let name ← path.getLast?
  root.update false (fun _ entries =>
    if repeated then entries.openItem name else entries.openTable name) path.dropLast .stated

/-- Reads the lines of a document, adding to `root`. `current` is the path of the last header. -/
def documentLines : Nat → List String → Entries → List Char → Option Entries
  | 0, _, _, _ => none
  | bound + 1, current, root, text =>
    match skipLines (text.length + 1) text with
    | [] => some root
    | '[' :: text => do
      let ((repeated, path), text) ← header ('[' :: text)
      let root ← openHeader repeated path root
      documentLines bound path root (← endLine text)
    | text => do
      let ((path, value), text) ← pair (value maxDepth) text
      let add := fun origin entries => Entries.insert path value origin entries
      let root ← root.update false add current .stated
      documentLines bound current root (← endLine text)

/-- A byte order mark may stand before a document. -/
def skipMark : List Char → List Char
  | c :: text => if c = '\ufeff' then text else c :: text
  | [] => []

/-- The table that a document writes; none if it is no TOML. -/
def parse (text : String) : Option Table := do
  let chars := skipMark text.toList
  let root ← documentLines (chars.length + 1) [] [] chars
  return Keyed.sorted (← Node.toEntries? root)

end BlankLines.Toml
