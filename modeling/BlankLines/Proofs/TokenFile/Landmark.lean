import BlankLines.Proofs.TokenFile.Code
import BlankLines.Proofs.TokenFile.Gap
import Mathlib.Data.List.Forall2

/-!
What a revision shows in the text. Characters that are in no line ending are landmarks: as corrections
add none, two equal texts have the same ones. So where every solid token has such a character, a revision
with an equal text has every gap as long as it was, and corrections that only add lines to a gap, or only
delete there, change the text.
-/
namespace BlankLines

section Landmarks

variable {α : Type} {shows : α → Bool}

end Landmarks

namespace TokenFile

/-- Every solid token has a character that is in no line ending. -/
def Legible (file : TokenFile) : Prop :=
  ∀ token ∈ file.tokens, token.isWhitespace = false →
    token.content.toList.any (!file.eol.toList.contains ·) = true

instance (file : TokenFile) : Decidable file.Legible :=
  inferInstanceAs (Decidable (∀ token ∈ file.tokens, _))

variable {file : TokenFile} {corrections : List Correction} {correction : Correction}
  {low high position : Nat} {token : Token}

theorem Legible.revise (legible : file.Legible)
    (kept : ∀ position, file.solidAt position = true → .delete position ∉ corrections) :
    (file.revise corrections).Legible := by
  intro token' member solid'
  obtain ⟨here', found'⟩ := List.mem_iff_getElem?.mp member
  obtain ⟨token, here, found, solid, rfl, _⟩ := exists_of_getElem?_revise found' solid'
  have shown := legible token (List.mem_of_getElem? found) solid
  have moved := getElem?_revise corrections found solid
  rw [slotAt_solid solid (kept here (solidAt_iff.mpr ⟨token, found, solid⟩)), found',
    Option.some.injEq] at moved
  rw [moved]
  exact shown

end TokenFile

end BlankLines
