import BlankLines.Proofs.Fixer.Acceptance
import BlankLines.Proofs.TokenFile.Canonical

/-!
What finishing makes of a file, whatever changesets are applied: solid tokens stay in order and keep
their scopes, and a valid file comes out valid and in the form that finishing leaves as it is.
-/
namespace BlankLines.Fixer

open TokenFile

/-- Solid tokens of a finished file are those of the file in order, with their kinds, and with their
contents unless an accepted changeset deletes them. Their scopes follow the tokens they pointed at. -/
theorem finish_keeps (file : TokenFile) (changesets : List Changeset) :
    List.Forall₂ (fun old new =>
      Keeps file ((ofFile file).applyAll changesets).finish old.1 new.1 ∧
      new.1.content =
        if .delete old.2 ∈ ((ofFile file).accepted changesets).flatten then "" else old.1.content)
      file.solids ((ofFile file).applyAll changesets).finish.solids := by
  rw [finish_applyAll]
  exact keeps_revise file _

theorem finish_ofFile (file : TokenFile) : (ofFile file).finish = file.revise [] :=
  finish_applyAll file []

variable {file : TokenFile}

/-- A valid file is finished as a valid file. All its white space is cut, and finishing it once more
changes nothing. -/
theorem finish_canonical (valid : file.validate = .ok ()) (changesets : List Changeset) :
    ((ofFile file).applyAll changesets).finish.validate = .ok () ∧
      ((ofFile file).applyAll changesets).finish.Canonical ∧
      (ofFile ((ofFile file).applyAll changesets).finish).finish =
        ((ofFile file).applyAll changesets).finish := by
  have valid := validate_eq_ok_iff.mp valid
  rw [finish_ofFile, finish_applyAll]
  refine ⟨?_, ?_, ?_⟩
  · exact validate_eq_ok_iff.mpr (valid.revise _)
  · exact canonical_revise valid.eol_ne _
  · exact valid.revise_nil_revise _

/-- The line ending overlaps itself, and the first token ends in a part of it. -/
def overlappingEnds : TokenFile where
  eol := "aba"
  tokens := [
    { kind := .whitespace, line := 2, content := "xab", scopeOpener := some 3 },
    { kind := .classDecl, line := 2, content := "class", scopeOpener := some 0,
      scopeCloser := some 3 },
    { kind := .whitespace, line := 4, content := "" },
    { kind := .closeBrace, line := 7, content := "ababa" },
    { kind := .whitespace, line := 7, content := " aba" }]

theorem finish_canonical_overlappingEnds :
    let changesets : List Changeset :=
      [[.insertNewline 0, .insertNewline 0], [.insertNewline 1, .delete 4]]
    let finished := ((ofFile overlappingEnds).applyAll changesets).finish
    overlappingEnds.validate = .ok () ∧ finished ≠ overlappingEnds ∧
      finished.validate = .ok () ∧ finished.Canonical ∧ (ofFile finished).finish = finished ∧
      finished.tokens.map (·.content) = ["xaba", "baaba", "class", "aba", "ababa"] := by
  intro changesets finished
  have valid : overlappingEnds.validate = .ok () := rfl
  obtain ⟨still, canonical, again⟩ := finish_canonical valid changesets
  exact ⟨valid, by decide +kernel, still, canonical, again, by decide +kernel⟩

end BlankLines.Fixer
