import BlankLines.Fixer
import BlankLines.Proofs.TokenFile.Text

/-!
Which changesets a fixer accepts, and what it makes of them: the finished file is the revision of the
file by the corrections of the accepted changesets, in order. Its text follows from these token by token.
-/
namespace BlankLines.Fixer

/-- The changesets that a fixer accepts of those given to it in order. -/
def accepted (fixer : Fixer) : List Changeset → List Changeset
  | [] => []
  | changeset :: rest =>
    if fixer.accepts changeset then changeset :: (fixer.apply changeset).1.accepted rest
    else fixer.accepted rest

/-- The tokens under edit, without the marks of those that have been touched. -/
def view (fixer : Fixer) : List Slot :=
  fixer.slots.map EditSlot.toSlot

variable {fixer : Fixer} {changeset : Changeset} {changesets : List Changeset}

/-- A change of one item that shows in a view as a change of the view. -/
theorem map_modify {α β : Type} (view : α → β) (edit : α → α) (edit' : β → β)
    (shows : ∀ item, view (edit item) = edit' (view item)) (items : List α) (position : Nat) :
    (items.modify position edit).map view = (items.map view).modify position edit' := by
  apply List.ext_getElem?
  intro place
  rw [List.getElem?_map, List.getElem?_modify, List.getElem?_modify, List.getElem?_map]
  by_cases same : position = place
  · simp [same, Function.comp_def, shows]
  · simp [same]

theorem view_correct (eol : String) (slots : List EditSlot) (correction : Correction) :
    (correct eol slots correction).map EditSlot.toSlot =
      (slots.map EditSlot.toSlot).modify correction.position (·.edit eol correction) := by
  cases correction with
  | delete position =>
    exact map_modify EditSlot.toSlot EditSlot.erase (Slot.edit eol · (.delete position))
      (fun _ => rfl) slots position
  | insertNewline position =>
    refine map_modify EditSlot.toSlot (EditSlot.addNewline eol)
      (Slot.edit eol · (.insertNewline position)) (fun slot => ?_) slots position
    simp only [Slot.edit, EditSlot.addNewline]
    split <;> rfl

theorem view_corrected (eol : String) (slots : List EditSlot) (changeset : Changeset) :
    (changeset.foldl (correct eol) slots).map EditSlot.toSlot =
      Slot.editAll eol (slots.map EditSlot.toSlot) changeset := by
  induction changeset generalizing slots with
  | nil => rfl
  | cons correction rest ih =>
    rw [List.foldl_cons, ih, view_correct]
    rfl

theorem view_touch (changeset : Changeset) (slots : List EditSlot) :
    (touch changeset slots).map EditSlot.toSlot = slots.map EditSlot.toSlot := by
  apply List.ext_getElem?
  intro position
  simp only [touch, List.getElem?_map, List.getElem?_mapIdx, Option.map_map]
  congr 1
  funext slot
  simp only [Function.comp_apply]
  split <;> rfl

theorem snd_apply (fixer : Fixer) (changeset : Changeset) :
    (fixer.apply changeset).2 = fixer.accepts changeset := by
  cases accepts : fixer.accepts changeset <;> simp [apply, accepts]

theorem apply_of_refused (refused : ¬ fixer.accepts changeset = true) :
    (fixer.apply changeset).1 = fixer := by
  simp [apply, refused]

theorem eol_apply (fixer : Fixer) (changeset : Changeset) :
    (fixer.apply changeset).1.eol = fixer.eol := by
  unfold apply
  split <;> rfl

theorem eol_applyAll (fixer : Fixer) (changesets : List Changeset) :
    (fixer.applyAll changesets).eol = fixer.eol := by
  induction changesets generalizing fixer with
  | nil => rfl
  | cons changeset rest ih => exact (ih _).trans (eol_apply fixer changeset)

theorem view_apply (accepts : fixer.accepts changeset = true) :
    (fixer.apply changeset).1.view = Slot.editAll fixer.eol fixer.view changeset := by
  simp only [apply, accepts, if_true, view, view_touch, view_corrected]

theorem view_applyAll (fixer : Fixer) (changesets : List Changeset) :
    (fixer.applyAll changesets).view =
      Slot.editAll fixer.eol fixer.view (fixer.accepted changesets).flatten := by
  induction changesets generalizing fixer with
  | nil => rfl
  | cons changeset rest ih =>
    rw [applyAll, List.foldl_cons, ← applyAll, ih, accepted, eol_apply]
    by_cases accepts : fixer.accepts changeset = true
    · rw [if_pos accepts, view_apply accepts, List.flatten_cons, Slot.editAll, Slot.editAll,
        Slot.editAll, List.foldl_append]
    · rw [if_neg accepts, apply_of_refused accepts]

theorem applied_applyAll (fixer : Fixer) (changesets : List Changeset) :
    (fixer.applyAll changesets).applied =
      fixer.applied + (fixer.accepted changesets).flatten.length := by
  induction changesets generalizing fixer with
  | nil => rfl
  | cons changeset rest ih =>
    rw [applyAll, List.foldl_cons, ← applyAll, ih, accepted, apply]
    by_cases accepts : fixer.accepts changeset = true
    · rw [if_pos accepts, if_pos accepts, List.flatten_cons, List.length_append, Nat.add_assoc]
    · rw [if_neg accepts, if_neg accepts]

theorem accepted_sublist (fixer : Fixer) (changesets : List Changeset) :
    (fixer.accepted changesets).Sublist changesets := by
  induction changesets generalizing fixer with
  | nil => exact .slnil
  | cons changeset rest ih =>
    rw [accepted]
    split
    · exact (ih _).cons_cons changeset
    · exact (ih _).cons changeset

/-- Finishing revises the file by the corrections of the accepted changesets, and by no others. -/
theorem finish_applyAll (file : TokenFile) (changesets : List Changeset) :
    ((ofFile file).applyAll changesets).finish =
      file.revise ((ofFile file).accepted changesets).flatten := by
  have slots : ((ofFile file).applyAll changesets).view = file.tokens.mapIdx
      (file.slotAt ((ofFile file).accepted changesets).flatten) := by
    rw [view_applyAll]
    apply List.ext_getElem?
    intro position
    rw [Slot.getElem?_editAll, List.getElem?_mapIdx, view, ofFile, List.map_map, List.getElem?_map,
      Option.map_map]
    rfl
  rw [finish, eol_applyAll, ← view, slots]
  rfl

/-- What a fixer renders: each token's text, unless an accepted changeset deletes it, and behind it a
line ending for each accepted insertion there that no deletion follows. -/
theorem render_finish (file : TokenFile) (changesets : List Changeset) :
    ((ofFile file).applyAll changesets).finish.render =
      String.join (file.tokens.mapIdx fun position token =>
        let here := ((ofFile file).accepted changesets).flatten.filter (·.position = position)
        (if here.any (·.isDelete) then "" else token.content) ++
          String.join (List.replicate (lastingInserts here) file.eol)) := by
  rw [finish_applyAll, TokenFile.render_revise]
  congr 1
  apply List.ext_getElem?
  intro position
  rw [List.getElem?_map, TokenFile.getElem?_slots, List.getElem?_mapIdx, Option.map_map]
  congr 1
  funext token
  simp only [Function.comp_apply, TokenFile.slotAt, Slot.text_foldl_edit, Slot.text_mk]

end BlankLines.Fixer
