import BlankLines.Binary64

/-!
JSON values. Integers of 64 bits are kept exactly; every other number is the binary number it names.
-/
namespace BlankLines.Json

/-- A number: an integer from -2^63 to 2^64 - 1, or a binary fraction. -/
inductive Number where
  | int (value : Int)
  | real (value : Binary64)
deriving Repr, DecidableEq

/-- A JSON value. Members keep the order in which they are written. -/
inductive Value where
  | null
  | bool (value : Bool)
  | number (value : Number)
  | string (value : String)
  | array (items : List Value)
  | object (members : List (String × Value))
deriving Repr, Inhabited

namespace Value

def ofNat (n : Nat) : Value :=
  .number (.int n)

/-- The member of that name. Where a name is repeated the last one counts. -/
def member? (name : String) : Value → Option Value
  | .object members => (members.reverse.find? fun (key, _) => key = name).map (·.2)
  | _ => none

def text? : Value → Option String
  | .string s => some s
  | _ => none

/-- A non-negative integer. Fractions are none, even integral ones. -/
def nat? : Value → Option Nat
  | .number (.int (.ofNat n)) => some n
  | _ => none

def items? : Value → Option (List Value)
  | .array items => some items
  | _ => none

end Value

end BlankLines.Json
