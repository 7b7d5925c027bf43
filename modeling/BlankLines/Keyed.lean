/-!
Lists of values under names, in which a name stands once.
-/
namespace BlankLines

abbrev Keyed (α : Type) := List (String × α)

namespace Keyed

variable {α : Type}

def get? (entries : Keyed α) (name : String) : Option α :=
  (entries.find? fun (key, _) => key = name).map (·.2)

def has (entries : Keyed α) (name : String) : Bool :=
  (get? entries name).isSome

/-- Puts a value under a name: in the place of the one there, or at the end. -/
def put (entries : Keyed α) (name : String) (value : α) : Keyed α :=
  if has entries name then entries.map fun (key, old) => (key, if key = name then value else old)
  else entries ++ [(name, value)]

def without (entries : Keyed α) (name : String) : Keyed α :=
  entries.filter fun (key, _) => key ≠ name

/-- The entries in the order of their names, compared character by character. -/
def sorted (entries : Keyed α) : Keyed α :=
  entries.mergeSort fun a b => !decide (b.1 < a.1)

end Keyed

end BlankLines
