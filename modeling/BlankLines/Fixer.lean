import BlankLines.Correction
import BlankLines.TokenFile.Layout

/-!
Applying changesets to a working copy of a file. A changeset that touches a token which an earlier one
edited is refused whole, so the edits of accepted changesets never meet.
-/
namespace BlankLines

/-- A token under edit. `touched` is set once an accepted changeset has edited it. -/
structure EditSlot extends Slot where
  touched : Bool := false
deriving Repr, DecidableEq

/-- A working copy: the tokens under edit, and how many corrections have been made. -/
structure Fixer where
  eol : String
  slots : List EditSlot
  applied : Nat := 0
deriving Repr, DecidableEq

namespace EditSlot

/-- Blanks the token and takes back the line endings that were to follow it. -/
def erase (slot : EditSlot) : EditSlot :=
  { slot with token := { slot.token with content := "" }, newlines := 0 }

/-- Adds a line ending: to white space itself, and after any other token. -/
def addNewline (eol : String) (slot : EditSlot) : EditSlot :=
  if slot.token.isWhitespace then
    { slot with token := { slot.token with content := slot.token.content ++ eol } }
  else { slot with newlines := slot.newlines + 1 }

end EditSlot

namespace Fixer

def ofFile (file : TokenFile) : Fixer :=
  { eol := file.eol, slots := file.tokens.map ({ token := · }) }

def accepts (fixer : Fixer) (changeset : Changeset) : Bool :=
  changeset.all fun correction =>
    fixer.slots[correction.position]?.any (!·.touched)

def correct (eol : String) (slots : List EditSlot) : Correction → List EditSlot
  | .delete position => slots.modify position EditSlot.erase
  | .insertNewline position => slots.modify position (EditSlot.addNewline eol)

def touch (changeset : Changeset) (slots : List EditSlot) : List EditSlot :=
  slots.mapIdx fun position slot =>
    if changeset.any (·.position = position) then { slot with touched := true } else slot

/-- Makes the corrections of a changeset, or refuses it and stays as it was. -/
def apply (fixer : Fixer) (changeset : Changeset) : Fixer × Bool :=
  if fixer.accepts changeset then
    ({ fixer with
        slots := touch changeset (changeset.foldl (correct fixer.eol) fixer.slots)
        applied := fixer.applied + changeset.length }, true)
  else (fixer, false)

/-- Applies changesets in order, refusing those that meet an earlier one. -/
def applyAll (fixer : Fixer) (changesets : List Changeset) : Fixer :=
  changesets.foldl (fun fixer changeset => (fixer.apply changeset).1) fixer

/-- The edited file, laid out afresh and renumbered by its text. -/
def finish (fixer : Fixer) : TokenFile :=
  (TokenFile.ofSlots fixer.eol (fixer.slots.map EditSlot.toSlot)).renumber

end Fixer

end BlankLines
