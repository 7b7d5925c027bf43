import BlankLines.Proofs.Fixer.Acceptance
import BlankLines.Proofs.TokenFile.Lines

/-!
The line that a finished file begins on. Finishing numbers the tokens from the line of the first that
stays, so line endings deleted before it are still counted.
-/
namespace BlankLines

namespace Slot

variable {eol : String} {slot : Slot}

/-- Nothing is laid out for white space without text, and for nothing else. -/
theorem layout_eq_nil_iff : slot.layout eol = [] ↔
    slot.token.isWhitespace = true ∧ slot.text eol = "" := by
  constructor
  · intro nothing
    have text := join_layout eol slot
    rw [nothing] at text
    refine ⟨?_, text.symm⟩
    by_contra solid
    obtain ⟨rest, laid, _⟩ := layout_solid eol (Bool.eq_false_of_not_eq_true solid)
    cases nothing.symm.trans laid
  · rintro ⟨white, empty⟩
    rw [text, if_pos white, String.append_empty] at empty
    rw [layout, if_pos white, empty, Text.pieces_eq_nil_iff.mpr String.toList_empty]
    rfl

/-- What is laid out for a token begins on its line. -/
theorem line_of_head {first : Token} {rest : List Token} (laid : slot.layout eol = first :: rest) :
    first.line = slot.token.line := by
  cases kind : slot.token.isWhitespace with
  | true =>
    rw [layout, if_pos kind, blankTokens] at laid
    cases cut : (Text.pieces eol.toList slot.token.content.toList).map String.ofList with
    | nil => rw [cut] at laid; cases laid
    | cons content contents =>
      rw [cut] at laid
      cases laid
      rfl
  | false =>
    obtain ⟨rest', solid, _⟩ := layout_solid eol kind
    cases solid.symm.trans laid
    rfl

end Slot

namespace TokenFile

variable {file : TokenFile} {corrections : List Correction} {first position : Nat} {token : Token}

/-- Something is left of the token at a position after corrections: the token itself if it is solid, else
its text if none of them deletes it, or a line ending that is added behind the last deletion. -/
def Stays (file : TokenFile) (corrections : List Correction) (position : Nat) : Prop :=
  ∃ token, file.tokens[position]? = some token ∧
    (token.isWhitespace = false ∨ (token.content ≠ "" ∧ .delete position ∉ corrections) ∨
      0 < lastingInserts (corrections.filter (·.position = position)))

/-- A token of which nothing stays is laid out as nothing. -/
theorem layout_slotAt_eq_nil_iff (nonempty : file.eol ≠ "")
    (found : file.tokens[position]? = some token) :
    (file.slotAt corrections position token).layout file.eol = [] ↔
      ¬ file.Stays corrections position := by
  have endings (count : Nat) : String.join (List.replicate count file.eol) = "" ↔ count = 0 := by
    cases count with
    | zero => exact iff_of_true rfl rfl
    | succ count => simp [List.replicate_succ, nonempty]
  have text : (file.slotAt corrections position token).text file.eol = "" ↔
      ¬ (token.content ≠ "" ∧ .delete position ∉ corrections) ∧
        lastingInserts (corrections.filter (·.position = position)) = 0 := by
    rw [slotAt, Slot.text_foldl_edit, Slot.text_mk, String.append_eq_empty_iff, endings]
    simp only [any_isDelete_iff]
    by_cases deleted : .delete position ∈ corrections <;> simp [deleted]
  rw [Slot.layout_eq_nil_iff, slotAt_white, text, Stays]
  simp only [found, Option.some.injEq, exists_eq_left', not_or, Bool.not_eq_false, Nat.not_lt,
    Nat.le_zero]

theorem head_renumber (file : TokenFile) : file.renumber.tokens.head? = file.tokens.head? := by
  rw [renumber]
  cases file.tokens <;> rfl

/-- A finished file begins with what is left of the first token that stays, and on its line. -/
theorem exists_head_revise (nonempty : file.eol ≠ "") (found : file.tokens[first]? = some token)
    (least : IsLeast {position | file.Stays corrections position} first) :
    ∃ head, (file.revise corrections).tokens.head? = some head ∧ head.line = token.line := by
  have parts (position : Nat) : ((file.slots corrections).map (Slot.layout file.eol))[position]? =
      file.tokens[position]?.map fun token =>
        (file.slotAt corrections position token).layout file.eol := by
    rw [List.getElem?_map, getElem?_slots, Option.map_map]
    rfl
  have before : (((file.slots corrections).map (Slot.layout file.eol)).take first).flatten = [] := by
    refine List.flatten_eq_nil_iff.mpr fun layout member => ?_
    obtain ⟨position, early, there⟩ := List.mem_take_iff_getElem.mp member
    have here := (parts position).symm.trans
      (List.getElem?_eq_getElem (Nat.lt_of_lt_of_le early (Nat.min_le_right ..)))
    rw [there, Option.map_eq_some_iff] at here
    obtain ⟨gone, original, rfl⟩ := here
    refine (layout_slotAt_eq_nil_iff nonempty original).mpr fun stays => ?_
    exact absurd (least.2 stays) (Nat.not_le.mpr (Nat.lt_of_lt_of_le early (Nat.min_le_left ..)))
  have stays := least.1
  cases laid : (file.slotAt corrections first token).layout file.eol with
  | nil => exact absurd stays ((layout_slotAt_eq_nil_iff nonempty found).mp laid)
  | cons head rest =>
    have part := parts first
    rw [found, Option.map_some, laid] at part
    have start := flatten_getElem?_start part
    rw [before, List.length_nil] at start
    have line := Slot.line_of_head laid
    rw [slotAt_token] at line
    refine ⟨rescope ((file.slots corrections).map (Slot.layout file.eol)) head, ?_, line⟩
    rw [revise, head_renumber, ofSlots_tokens, List.head?_map, List.head?_eq_getElem?, start,
      Option.map_some]

/-- Where nothing stays, the finished file is empty. -/
theorem tokens_revise_eq_nil (nonempty : file.eol ≠ "")
    (gone : ∀ position, ¬ file.Stays corrections position) : (file.revise corrections).tokens = [] := by
  have empty : (ofSlots file.eol (file.slots corrections)).tokens = [] := by
    rw [ofSlots_tokens, List.map_eq_nil_iff, List.flatten_eq_nil_iff]
    intro layout member
    obtain ⟨slot, listed, rfl⟩ := List.mem_map.mp member
    obtain ⟨position, token, found, rfl⟩ := mem_slots listed
    exact (layout_slotAt_eq_nil_iff nonempty found).mpr (gone position)
  exact List.length_eq_zero_iff.mp ((length_renumber _).trans (List.length_eq_zero_iff.mpr empty))

/-- A revision is numbered by its text, but from the line of the first token that stays. -/
theorem lineTrue_revise_iff (nonempty : file.eol ≠ "") (lines : file.LineTrue) :
    (file.revise corrections).LineTrue ↔
      ∀ first, IsLeast {position | file.Stays corrections position} first →
        file.breaksBefore first = 0 := by
  have counted : (file.revise corrections).Counted := numberFrom_counted _ _ _
  rw [lineTrue_iff, and_iff_right counted]
  by_cases some : ∃ position, file.Stays corrections position
  · classical
    have least := Nat.isLeast_find some
    obtain ⟨token, found, _⟩ := least.1
    obtain ⟨head, begins, line⟩ := exists_head_revise nonempty found least
    rw [begins]
    constructor
    · intro one first least'
      rw [least'.unique least]
      have here := lines _ token found
      rw [← line, one head rfl] at here
      omega
    · rintro none _ ⟨⟩
      rw [line, lines _ token found, none _ least]
  · rw [tokens_revise_eq_nil nonempty (not_exists.mp some)]
    exact iff_of_true nofun fun first least => absurd ⟨first, least.1⟩ some

end TokenFile

namespace Fixer

variable {file : TokenFile}

/-- Finishing keeps lines true to the text exactly when no line ending stood before the first token that
stays. -/
theorem lineTrue_finish_iff (lines : file.LineTrue) (nonempty : file.eol ≠ "")
    (changesets : List Changeset) :
    ((ofFile file).applyAll changesets).finish.LineTrue ↔
      ∀ first,
        IsLeast {position | file.Stays ((ofFile file).accepted changesets).flatten position} first →
          file.breaksBefore first = 0 := by
  rw [finish_applyAll]
  exact TokenFile.lineTrue_revise_iff nonempty lines

/-- A file that begins with an empty line. -/
def lateStart : TokenFile where
  tokens := [
    { kind := .whitespace, line := 1, content := "\n" },
    { kind := .other, line := 2, content := "x" }]

/-- Its empty line is deleted, and the text that is left begins on line 2. -/
theorem lineTrue_finish_lateStart :
    lateStart.LineTrue ∧ lateStart.eol ≠ "" ∧
      ((ofFile lateStart).applyAll [[.delete 0]]).finish.render = "x" ∧
      ¬ ((ofFile lateStart).applyAll [[.delete 0]]).finish.LineTrue := by
  have lines : lateStart.LineTrue := by decide +kernel
  have nonempty : lateStart.eol ≠ "" := by decide
  have text : ((ofFile lateStart).applyAll [[.delete 0]]).finish.render = "x" := by decide +kernel
  refine ⟨lines, nonempty, text, fun kept => ?_⟩
  have accepted : ((ofFile lateStart).accepted [[.delete 0]]).flatten = [.delete 0] := by decide +kernel
  have least : IsLeast {position | lateStart.Stays [.delete 0] position} 1 := by
    refine ⟨⟨_, rfl, .inl rfl⟩, fun position stays => Nat.one_le_iff_ne_zero.mpr ?_⟩
    rintro rfl
    obtain ⟨token, found, solid | ⟨_, kept⟩ | lasting⟩ := stays
    · cases found
      exact absurd solid (by decide)
    · exact kept List.mem_cons_self
    · exact absurd lasting (by decide)
  have none := (lineTrue_finish_iff lines nonempty [[.delete 0]]).mp kept 1 (accepted ▸ least)
  exact absurd none (by decide +kernel)

end Fixer

end BlankLines
