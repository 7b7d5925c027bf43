import BlankLines.Correction

/-!
Repair of a gap between two tokens: the corrections that turn the blank lines found into those wanted.
-/
namespace BlankLines

/-- Missing lines are added at `anchor`; surplus ones are blanked from the end of `removable`, nearest
to what follows. -/
def gapRepair (found wanted : Int) (anchor : Nat) (removable : List Nat) : Changeset :=
  if wanted < found then
    (removable.drop (removable.length - (found - wanted).toNat)).map .delete
  else List.replicate (wanted - found).toNat (.insertNewline anchor)

end BlankLines
