import BlankLines.Json.Value

/-!
Edits of single tokens, and sets of edits that are made together or not at all.
-/
namespace BlankLines

/-- An edit at a position: blank the token there, or add a line ending after it. -/
inductive Correction where
  | delete (position : Nat)
  | insertNewline (position : Nat)
deriving Repr, DecidableEq

/-- Edits that belong together, in the order in which they are made. -/
abbrev Changeset := List Correction

namespace Correction

def position : Correction → Nat
  | delete position => position
  | insertNewline position => position

def typeName : Correction → String
  | delete _ => "delete"
  | insertNewline _ => "insert_newline"

def toJson (correction : Correction) : Json.Value :=
  .object [("type", .string correction.typeName), ("position", .ofNat correction.position)]

def ofParts? (type position : Json.Value) : Option Correction := do
  let type ← type.text?
  let position ← position.nat?
  if type = "delete" then return delete position
  else if type = "insert_newline" then return insertNewline position
  else none

/-- Reads an object of type and position, or the list of the two. -/
def ofJson? : Json.Value → Option Correction
  | .array [type, position] => ofParts? type position
  | .object members => do
    ofParts? (← (Json.Value.object members).member? "type")
      (← (Json.Value.object members).member? "position")
  | _ => none

end Correction

namespace Changeset

def toJson (changeset : Changeset) : Json.Value :=
  .array (changeset.map Correction.toJson)

def ofJson? (value : Json.Value) : Option Changeset := do
  (← value.items?).mapM Correction.ofJson?

end Changeset

end BlankLines
