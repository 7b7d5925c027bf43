import BlankLines.Proofs.Fixer.Region
import BlankLines.Proofs.Linter.Passes
import BlankLines.Proofs.Rule.Surplus
import BlankLines.Proofs.Rule.Walk

/-!
Fixes fit the file that they are for, whatever the file: they name positions in it, and where they blank
tokens these are line breaks. So the first fix of a pass is always made, and a pass that has one advances.
-/
namespace BlankLines

/-- Edits that can be made in a file: line breaks behind the first token are blanked, from front to back,
or line endings are added after one token. -/
inductive Changeset.Fits (file : TokenFile) : Changeset → Prop
  | deletes {positions : List Nat} (nonempty : positions ≠ [])
      (ascending : positions.Pairwise (· < ·))
      (breaks : ∀ position ∈ positions, 0 < position ∧ file.breaksAt position = true) :
      Fits file (positions.map .delete)
  | inserts {count anchor : Nat} (positive : 0 < count) (inside : anchor < file.tokens.length) :
      Fits file (List.replicate count (.insertNewline anchor))

/-- A violation of a file is at one of its tokens, on the line of that token, and its fix can be made. -/
structure Violation.Fits (file : TokenFile) (violation : Violation) : Prop where
  placed : ∃ token, file.tokens[violation.position]? = some token ∧ violation.line = token.line
  fix : ∀ changeset, violation.fix = some changeset → Changeset.Fits file changeset

variable {file : TokenFile} {level : Level} {violation : Violation} {changeset : Changeset}
  {position : Nat}

theorem TokenFile.lt_of_breaksAt (breaks : file.breaksAt position = true) :
    position < file.tokens.length := by
  obtain ⟨token, found, _⟩ := breaksAt_iff.mp breaks
  exact (List.getElem?_eq_some_iff.mp found).1

theorem Changeset.Fits.accepts (fits : Changeset.Fits file changeset) :
    (Fixer.ofFile file).accepts changeset = true := by
  rw [Fixer.accepts_iff]
  intro correction member
  rw [Fixer.free_ofFile_iff]
  cases fits with
  | deletes nonempty ascending breaks =>
    obtain ⟨position, listed, rfl⟩ := List.mem_map.mp member
    exact TokenFile.lt_of_breaksAt (breaks position listed).2
  | inserts positive inside =>
    rw [List.eq_of_mem_replicate member]
    exact inside

theorem Changeset.Fits.ne_nil (fits : Changeset.Fits file changeset) : changeset ≠ [] := by
  cases fits with
  | deletes nonempty => exact mt List.map_eq_nil_iff.mp nonempty
  | inserts positive => exact mt (List.replicate_eq_nil_iff _).mp (Nat.ne_of_gt positive)

theorem gapRepair_fits {found wanted : Int} {anchor start stop : Nat}
    (nonempty : gapRepair found wanted anchor (file.lineBreaks (start + 1) stop) ≠ [])
    (inside : anchor < file.tokens.length) :
    Changeset.Fits file (gapRepair found wanted anchor (file.lineBreaks (start + 1) stop)) := by
  rw [gapRepair] at nonempty ⊢
  split at nonempty
  · next surplus =>
    rw [if_pos surplus]
    refine .deletes (mt List.map_eq_nil_iff.mpr nonempty)
      ((TokenFile.lineBreaks_sorted file _ _).sublist (List.drop_sublist _ _)) fun position member => ?_
    obtain ⟨above, _, breaks⟩ := TokenFile.mem_lineBreaks.mp (List.mem_of_mem_drop member)
    exact ⟨Nat.zero_lt_of_lt above, breaks⟩
  · next fitting =>
    rw [if_neg fitting]
    exact .inserts (Nat.pos_of_ne_zero (mt (List.replicate_eq_nil_iff _).mpr nonempty)) inside

theorem Violation.fits_of_atToken? {rule code message : String} {found wanted : Int}
    {anchor start stop : Nat} (inside : anchor < file.tokens.length)
    (reported : atToken? file position rule code level message
      (gapRepair found wanted anchor (file.lineBreaks (start + 1) stop)) = some violation) :
    violation.Fits file := by
  refine ⟨?_, fun changeset fixed => ?_⟩
  · obtain ⟨token, here, rfl⟩ := atToken?_eq_some_iff.mp reported
    exact ⟨token, here, rfl⟩
  · have same := fix_eq_of_atToken? reported fixed
    rw [fix_atToken? reported] at fixed
    split at fixed
    · cases fixed
    · next nonempty =>
      rw [same]
      exact gapRepair_fits (mt List.isEmpty_iff.mpr nonempty) inside

/-- The anchor of a method's gap is in the file, wherever the method claims to end. -/
theorem MethodSpacing.editAnchor_lt {closer start next : Nat}
    (starts : nextLineStart? file closer = some start)
    (content : nextContent? file closer = some next)
    (inside : next < file.tokens.length) : editAnchor file closer < file.tokens.length := by
  simp only [nextLineStart?, Option.bind_eq_bind, Option.bind_eq_some_iff,
    Option.ite_none_right_eq_some, Option.some.injEq] at starts
  obtain ⟨stop, lineEnd, bound, rfl⟩ := starts
  obtain ⟨before, _⟩ := TokenFile.findLineEnd_eq_some_iff.mp lineEnd
  rw [editAnchor, content, Option.some_or]
  dsimp only
  omega

/-- Whatever the file and the position, all that a rule reports fits the file. -/
theorem Rule.fits_of_check {rule : Rule} (reported : violation ∈ rule.check file position level) :
    violation.Fits file := by
  cases rule with
  | braceSpacing after before =>
    obtain ⟨_, opener, closer, _, _, _, opening | closing⟩ := BraceSpacing.mem_check_iff.mp reported
    · obtain ⟨_, _, _, brace, _, _, _, _, report⟩ := BraceSpacing.checkOpening_eq_some_iff.mp opening
      exact Violation.fits_of_atToken? (List.getElem?_eq_some_iff.mp brace).1 report
    · obtain ⟨_, _, _, _, _, _, leader, _, report⟩ := BraceSpacing.checkClosing_eq_some_iff.mp closing
      exact Violation.fits_of_atToken? (List.getElem?_eq_some_iff.mp leader).1 report
  | methodSpacing between =>
    obtain ⟨_, closer, start, next, _, _, _, starts, content, _, after, _, _, report⟩ :=
      MethodSpacing.mem_check_iff.mp reported
    exact Violation.fits_of_atToken?
      (MethodSpacing.editAnchor_lt starts content (List.getElem?_eq_some_iff.mp after).1) report

namespace Linter

variable {linter : Linter}

theorem fits_of_lint (reported : violation ∈ linter.lint file) : violation.Fits file := by
  obtain ⟨_, _, _, _, _, _, _, found⟩ := mem_lint_iff.mp reported
  exact Rule.fits_of_check found

/-- The first fix that is offered is taken. -/
theorem exists_accepted (fixable : (linter.lint file).any (·.isFixable) = true) :
    ∃ violation ∈ linter.lint file, ∃ changeset, violation.fix = some changeset ∧
      changeset ∈ (Fixer.ofFile file).accepted ((linter.lint file).filterMap (·.fix)) := by
  cases offered : (linter.lint file).filterMap (·.fix) with
  | nil =>
    obtain ⟨violation, reported, fixed⟩ := List.any_eq_true.mp fixable
    have none := List.filterMap_eq_nil_iff.mp offered violation reported
    rw [Violation.isFixable, none, Option.isSome_none] at fixed
    exact absurd fixed Bool.false_ne_true
  | cons first rest =>
    have listed : first ∈ (linter.lint file).filterMap (·.fix) := offered ▸ List.mem_cons_self
    obtain ⟨violation, reported, fixed⟩ := List.mem_filterMap.mp listed
    have fits := (fits_of_lint reported).fix first fixed
    refine ⟨violation, reported, first, fixed, ?_⟩
    rw [Fixer.accepted, if_pos fits.accepts]
    exact List.mem_cons_self

/-- No check reads out of range, and what it reports fits the file, so that a fixer makes its fix. A pass
over a file with something to fix takes a fix, and so makes a correction. -/
theorem fixes_fit (file : TokenFile) :
    (∀ (rule : Rule) (position : Nat) (level : Level),
      rule.walk file position level = .ok (rule.check file position level) ∧
        ∀ violation ∈ rule.check file position level, violation.Fits file ∧
          ∀ changeset, violation.fix = some changeset →
            ((Fixer.ofFile file).apply changeset).2 = true) ∧
      ∀ linter : Linter, (linter.lint file).any (·.isFixable) = true →
        (∃ violation ∈ linter.lint file, ∃ changeset, violation.fix = some changeset ∧
          changeset ∈ (Fixer.ofFile file).accepted ((linter.lint file).filterMap (·.fix))) ∧
        (repair file (linter.lint file)).applied ≠ 0 := by
  refine ⟨fun rule position level => ⟨rule.walk_eq file position level, fun violation reported => ?_⟩,
    fun linter fixable => ?_⟩
  · have fits := Rule.fits_of_check reported
    refine ⟨fits, fun changeset fixed => ?_⟩
    rw [Fixer.snd_apply]
    exact (fits.fix changeset fixed).accepts
  · obtain ⟨violation, reported, changeset, fixed, accepted⟩ := exists_accepted fixable
    refine ⟨⟨violation, reported, changeset, fixed, accepted⟩, fun none => ?_⟩
    rw [repair, Fixer.applied_applyAll, Nat.add_eq_zero_iff, List.length_eq_zero_iff] at none
    exact ((fits_of_lint reported).fix changeset fixed).ne_nil
      (List.flatten_eq_nil_iff.mp none.2 changeset accepted)

/-- A class whose braces are white space, on lines that go back and forth. -/
def strayBraces : TokenFile where
  tokens := [
    { kind := .whitespace, line := 3, content := "\n" },
    { kind := .whitespace, line := 2, content := "\n\n" },
    { kind := .classDecl, line := 4, content := "class", scopeOpener := some 0, scopeCloser := some 4 },
    { kind := .whitespace, line := 9, content := "\n" },
    { kind := .whitespace, line := 8, content := "" }]

theorem fixes_fit_strayBraces :
    ∃ opening ∈ (Rule.braceSpacing 1 1).check strayBraces 2 .error,
    ∃ closing ∈ (Rule.braceSpacing 1 1).check strayBraces 2 .error,
      opening.fix = some [.insertNewline 0] ∧ closing.fix = some [.delete 3] ∧
      opening.Fits strayBraces ∧ closing.Fits strayBraces ∧
      ((Fixer.ofFile strayBraces).apply [.insertNewline 0]).2 = true ∧
      ((Fixer.ofFile strayBraces).apply [.delete 3]).2 = true ∧
      (repair strayBraces (lint ⟨[(.braceSpacing 1 1, .error)]⟩ strayBraces)).applied ≠ 0 := by
  obtain ⟨checks, passes⟩ := fixes_fit strayBraces
  obtain ⟨opening, closing, reports, inserts, deletes⟩ : ∃ opening closing,
      (Rule.braceSpacing 1 1).check strayBraces 2 .error = [opening, closing] ∧
        opening.fix = some [.insertNewline 0] ∧ closing.fix = some [.delete 3] :=
    ⟨_, _, rfl, rfl, rfl⟩
  have first : opening ∈ (Rule.braceSpacing 1 1).check strayBraces 2 .error := by simp [reports]
  have second : closing ∈ (Rule.braceSpacing 1 1).check strayBraces 2 .error := by simp [reports]
  obtain ⟨fits, made⟩ := (checks (.braceSpacing 1 1) 2 .error).2 opening first
  obtain ⟨fits', made'⟩ := (checks (.braceSpacing 1 1) 2 .error).2 closing second
  exact ⟨opening, first, closing, second, inserts, deletes, fits, fits', made _ inserts,
    made' _ deletes, (passes _ (by decide +kernel)).2⟩

end Linter

end BlankLines
