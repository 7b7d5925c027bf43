import BlankLines.Proofs.TokenFile.Revision
import Mathlib.Data.List.Induction
import Mathlib.Data.List.TakeWhile

/-!
The text of a revision. Layout and renumbering move no character, so the text is that of the slots in
order: each token's content and the line endings that follow it.
-/
namespace BlankLines

def Correction.isDelete : Correction → Bool
  | delete _ => true
  | insertNewline _ => false

/-- How many of the corrections of one token add a line ending after the last deletion there. -/
def lastingInserts (corrections : List Correction) : Nat :=
  (corrections.reverse.takeWhile (!·.isDelete)).length

theorem any_isDelete_iff {corrections : List Correction} {position : Nat} :
    (corrections.filter (·.position = position)).any (·.isDelete) = true ↔
      .delete position ∈ corrections := by
  rw [List.any_eq_true]
  constructor
  · rintro ⟨correction, listed, deletes⟩
    obtain ⟨member, same⟩ := List.mem_filter.mp listed
    cases correction with
    | delete place => exact (of_decide_eq_true same : place = position) ▸ member
    | insertNewline place => exact absurd deletes Bool.false_ne_true
  · intro member
    exact ⟨_, List.mem_filter.mpr ⟨member, decide_eq_true rfl⟩, rfl⟩

theorem lastingInserts_eq_zero {corrections : List Correction}
    (deletes : ∀ correction ∈ corrections, correction.isDelete = true) :
    lastingInserts corrections = 0 := by
  rw [lastingInserts, List.length_eq_zero_iff, List.takeWhile_eq_nil_iff]
  intro nonempty
  have last := deletes _ (List.mem_reverse.mp (List.get_mem corrections.reverse ⟨0, nonempty⟩))
  rw [last]
  exact Bool.false_ne_true

theorem lastingInserts_eq_length {corrections : List Correction}
    (inserts : corrections.any (·.isDelete) = false) :
    lastingInserts corrections = corrections.length := by
  rw [lastingInserts, List.takeWhile_eq_self_iff.mpr, List.length_reverse]
  intro correction member
  rw [Bool.not_eq_true', ← Bool.not_eq_true]
  exact fun deletes => List.any_eq_false.mp inserts correction (List.mem_reverse.mp member) deletes

theorem lastingInserts_concat (corrections : List Correction) (last : Correction) :
    lastingInserts (corrections ++ [last]) =
      if last.isDelete then 0 else lastingInserts corrections + 1 := by
  rw [lastingInserts, List.reverse_concat, List.takeWhile_cons]
  cases last <;> rfl

namespace Slot

def text (eol : String) (slot : Slot) : String :=
  slot.token.content ++
    if slot.token.isWhitespace then "" else String.join (List.replicate slot.newlines eol)

variable {eol : String} {slot : Slot}

theorem join_layout (eol : String) (slot : Slot) :
    String.join ((slot.layout eol).map (·.content)) = slot.text eol := by
  cases kind : slot.token.isWhitespace with
  | true =>
    simp only [layout, text, kind, if_true, blankTokens_contents, String.append_empty]
    apply String.toList_inj.mp
    rw [String.toList_join, List.flatMap_map]
    simp only [String.toList_ofList, List.flatMap_id']
    exact Text.flatten_pieces _ _
  | false =>
    simp [layout, text, kind, blankTokens_contents]

theorem text_delete (eol : String) (slot : Slot) (position : Nat) :
    (slot.edit eol (.delete position)).text eol = "" := by
  change "" ++ (if slot.token.isWhitespace then "" else String.join []) = ""
  split <;> rfl

theorem text_insertNewline (eol : String) (slot : Slot) (position : Nat) :
    (slot.edit eol (.insertNewline position)).text eol = slot.text eol ++ eol := by
  cases kind : slot.token.isWhitespace with
  | true =>
    have white : (slot.edit eol (.insertNewline position)).token.isWhitespace = true := by
      rw [token_edit]
      exact kind
    rw [text, text, if_pos white, if_pos kind, edit_white kind, String.append_empty, String.append_empty]
  | false =>
    have lines : String.join (List.replicate (slot.newlines + 1) eol) =
        String.join (List.replicate slot.newlines eol) ++ eol := by
      rw [List.replicate_succ', String.join_append]
      simp
    simp only [text, edit_solid kind, kind, Bool.false_eq_true, if_false, lines, String.append_assoc]

theorem text_mk (eol : String) (token : Token) : text eol { token } = token.content := by
  change token.content ++ (if token.isWhitespace then "" else String.join []) = token.content
  rw [String.join_nil, ite_self, String.append_empty]

/-- Corrections leave the text of a token, unless one of them deletes it, and behind it a line ending
for each insertion that no deletion follows. -/
theorem text_foldl_edit (eol : String) (slot : Slot) (corrections : List Correction) :
    (corrections.foldl (edit eol) slot).text eol =
      (if corrections.any (·.isDelete) then "" else slot.text eol) ++
        String.join (List.replicate (lastingInserts corrections) eol) := by
  induction corrections using List.reverseRecOn with
  | nil => exact String.append_empty.symm
  | append_singleton earlier last ih =>
    rw [List.foldl_append, List.foldl_cons, List.foldl_nil, lastingInserts_concat, List.any_append]
    cases last with
    | delete position =>
      rw [text_delete]
      simp [Correction.isDelete]
    | insertNewline position =>
      rw [text_insertNewline, ih]
      simp [Correction.isDelete, List.replicate_succ', String.append_assoc]

/-- A solid token keeps its content, unless one of the corrections deletes it. -/
theorem content_foldl_edit (solid : slot.token.isWhitespace = false) (corrections : List Correction) :
    (corrections.foldl (edit eol) slot).token.content =
      if corrections.any (·.isDelete) then "" else slot.token.content := by
  induction corrections generalizing slot with
  | nil => rfl
  | cons correction rest ih =>
    rw [List.foldl_cons]
    cases correction with
    | delete position =>
      have blank : (slot.edit eol (.delete position)).token.content = "" := rfl
      rw [@ih (slot.edit eol (.delete position)) solid, blank, ite_self]
      simp [Correction.isDelete]
    | insertNewline position =>
      rw [edit_solid solid, @ih { slot with newlines := slot.newlines + 1 } solid]
      simp [Correction.isDelete]

theorem toList_join_replicate (eol : String) (count : Nat) :
    (String.join (List.replicate count eol)).toList = (List.replicate count eol.toList).flatten := by
  rw [String.toList_join, List.flatMap_replicate]

/-- A slot holds the line endings of its text, if those in a solid token are at its end. -/
theorem breakCount_text (nonempty : eol ≠ "") (closing : slot.token.isWhitespace = false →
      Text.OnlyAtEnd eol.toList slot.token.content.toList) :
    Text.breakCount eol.toList (slot.text eol).toList = slot.breaks eol := by
  have mark : eol.toList ≠ [] := by simpa using nonempty
  rw [text, breaks, String.toList_append]
  cases kind : slot.token.isWhitespace with
  | true => simp
  | false =>
    simp only [Bool.false_eq_true, if_false, toList_join_replicate,
      Text.breakCount_append_marks mark (closing kind)]

end Slot

namespace TokenFile

theorem slotAt_content {file : TokenFile} {token : Token} (solid : token.isWhitespace = false)
    (corrections : List Correction) (position : Nat) :
    (file.slotAt corrections position token).token.content =
      if .delete position ∈ corrections then "" else token.content := by
  rw [slotAt, @Slot.content_foldl_edit _ { token } solid]
  simp only [any_isDelete_iff]

theorem render_ofSlots (eol : String) (slots : List Slot) :
    (ofSlots eol slots).render = String.join (slots.map (Slot.text eol)) := by
  rw [render, ofSlots_tokens, List.map_map]
  change String.join ((slots.map (Slot.layout eol)).flatten.map (·.content)) = _
  induction slots with
  | nil => rfl
  | cons slot rest ih =>
    rw [List.map_cons, List.flatten_cons, List.map_append, String.join_append, ih, Slot.join_layout,
      List.map_cons, String.join_cons]

theorem render_renumber (file : TokenFile) : file.renumber.render = file.render := by
  rw [render, renumber_map (·.content) (fun _ _ => rfl), render]

theorem render_revise (file : TokenFile) (corrections : List Correction) :
    (file.revise corrections).render =
      String.join ((file.slots corrections).map (Slot.text file.eol)) := by
  rw [revise, render_renumber, render_ofSlots]

/-- Cutting white space moves no text. -/
theorem render_splitLineBreaks (file : TokenFile) : file.splitLineBreaks.render = file.render := by
  rw [splitLineBreaks, render_ofSlots, List.map_map, render]
  simp only [Function.comp_def, Slot.text_mk]

/-- Without corrections a file is only laid out afresh and renumbered. -/
theorem revise_nil (file : TokenFile) : file.revise [] = file.splitLineBreaks.renumber := by
  have slots : file.slots [] = file.tokens.map ({ token := · }) := by
    apply List.ext_getElem?
    intro position
    rw [getElem?_slots, List.getElem?_map]
    rfl
  rw [revise, slots, splitLineBreaks]

/-- Without corrections the text stays as it was. -/
theorem render_revise_nil (file : TokenFile) : (file.revise []).render = file.render := by
  rw [revise_nil, render_renumber, render_splitLineBreaks]

end TokenFile

end BlankLines
