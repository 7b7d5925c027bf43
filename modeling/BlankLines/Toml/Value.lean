import BlankLines.Binary64
import BlankLines.Json.Value
import BlankLines.Keyed
import BlankLines.Word

/-!
TOML values. Tables are lists of entries in the order of their keys, so that whoever goes through one
meets the keys in that order.
-/
namespace BlankLines.Toml

/-- A TOML value. A date-time is kept as its normal text. -/
inductive Value where
  | string (value : String)
  | integer (value : Int)
  | float (value : Binary64)
  | boolean (value : Bool)
  | dateTime (text : String)
  | array (items : List Value)
  | table (entries : List (String × Value))
deriving Repr, Inhabited

abbrev Table := Keyed Value

/-- Characters that a key may hold without quotes. -/
def isBareKeyChar (c : Char) : Bool :=
  c.isAlphanum || c = '_' || c = '-'

/-- The key under which a date-time stands where only tables can carry it. -/
def dateTimeKey : String := "$__toml_private_datetime"

/-- The table that stands for a date-time. -/
def dateTimeTable (text : String) : Value :=
  .table [(dateTimeKey, .string text)]

namespace Value

mutual

/-- The value with every date-time replaced by the table that stands for it. -/
def plain : Value → Value
  | .dateTime text => dateTimeTable text
  | .array items => .array (plainItems items)
  | .table entries => .table (plainEntries entries)
  | .string s => .string s
  | .integer n => .integer n
  | .float x => .float x
  | .boolean b => .boolean b

def plainItems : List Value → List Value
  | [] => []
  | item :: items => plain item :: plainItems items

def plainEntries : List (String × Value) → List (String × Value)
  | [] => []
  | (key, item) :: entries => (key, plain item) :: plainEntries entries

end

mutual

/-- The value that JSON writes. It has no `null` and no integer from 2^63 on. -/
def ofJson? : Json.Value → Option Value
  | .null => none
  | .bool b => some (.boolean b)
  | .number (.int n) => if n < Word.half then some (.integer n) else none
  | .number (.real x) => some (.float x)
  | .string s => some (.string s)
  | .array items => (ofJsonItems? items).map .array
  | .object members => (ofJsonMembers? members).map fun entries => .table (Keyed.sorted entries)

def ofJsonItems? : List Json.Value → Option (List Value)
  | [] => some []
  | item :: items => do
    let first ← ofJson? item
    return first :: (← ofJsonItems? items)

/-- Where a name is repeated the last member counts. -/
def ofJsonMembers? : List (String × Json.Value) → Option (List (String × Value))
  | [] => some []
  | (name, item) :: members => do
    let first ← ofJson? item
    let rest ← ofJsonMembers? members
    return if Keyed.has rest name then rest else (name, first) :: rest

end

end Value

end BlankLines.Toml
