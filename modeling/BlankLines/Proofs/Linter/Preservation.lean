import BlankLines.Proofs.Linter.Passes
import BlankLines.Proofs.Rule.Surplus

/-!
What a run of the fixer preserves: the code of the file and, where the lines of the file follow its
text, the line breaks between code.
-/
namespace BlankLines.Linter

open TokenFile

variable {linter : Linter} {file : TokenFile} {k n position : Nat}

theorem breaksAt_of_corrections (deleted : .delete position ∈ linter.corrections file) :
    file.breaksAt position = true := by
  obtain ⟨violation, reported, changeset, fixed, inside⟩ := mem_corrections deleted
  obtain ⟨place, token, rule, level, _, _, _, found⟩ := mem_lint_iff.mp reported
  exact Rule.breaksAt_of_fix found fixed inside

theorem spare_of_corrections (laidOut : file.LaidOut) (small : file.LinesBelow Word.half)
    (counts : linter.CountsBelow Word.half) (deleted : .delete position ∈ linter.corrections file) :
    file.Spare position := by
  obtain ⟨violation, reported, changeset, fixed, inside⟩ := mem_corrections deleted
  obtain ⟨place, token, rule, level, _, active, _, found⟩ := mem_lint_iff.mp reported
  exact Rule.spare_of_fix laidOut small (counts _ active) found fixed inside

theorem pass_sameCode (linter : Linter) (file : TokenFile) : SameCode file (linter.pass file) := by
  rw [pass_eq]
  exact revise_sameCode fun position deleted => breaksAt_of_corrections deleted

theorem pass_laidOut (laidOut : file.LaidOut) : (linter.pass file).LaidOut := by
  rw [pass_eq]
  exact laidOut.revise _

theorem pass_apart (laidOut : file.LaidOut) (small : file.LinesBelow Word.half)
    (counts : linter.CountsBelow Word.half) (apart : file.Apart k) : (linter.pass file).Apart k := by
  rw [pass_eq]
  exact laidOut.apart_revise (fun position deleted =>
    spare_of_corrections laidOut small counts deleted) apart

theorem iterate_pass_sameCode (linter : Linter) (file : TokenFile) (n : Nat) :
    SameCode file (linter.pass^[n] file) := by
  induction n with
  | zero => exact .refl file
  | succ n ih =>
    rw [Function.iterate_succ_apply']
    exact ih.trans (pass_sameCode linter _)

theorem iterate_pass_laidOut (laidOut : file.LaidOut) (n : Nat) : (linter.pass^[n] file).LaidOut := by
  induction n with
  | zero => exact laidOut
  | succ n ih =>
    rw [Function.iterate_succ_apply']
    exact pass_laidOut ih

theorem iterate_pass_apart (laidOut : file.LaidOut) (counts : linter.CountsBelow Word.half)
    (small : ∀ m < n, (linter.pass^[m] file).LinesBelow Word.half) (apart : file.Apart k) :
    (linter.pass^[n] file).Apart k := by
  induction n with
  | zero => exact apart
  | succ n ih =>
    rw [Function.iterate_succ_apply']
    have before := ih fun m early => small m (Nat.lt_succ_of_lt early)
    exact pass_apart (iterate_pass_laidOut laidOut n) (small n (Nat.lt_succ_self n)) counts before

/-- A run never alters code. -/
theorem fix_sameCode (linter : Linter) (file : TokenFile) :
    SameCode file (linter.fix file).file := by
  rw [fix_file]
  exact iterate_pass_sameCode linter file _

/-- A run never joins two lines of code. -/
theorem fix_apart (laidOut : file.LaidOut) (counts : linter.CountsBelow Word.half)
    (small : ∀ n < (linter.fix file).passes, (linter.pass^[n] file).LinesBelow Word.half)
    (apart : file.Apart k) : (linter.fix file).file.Apart k := by
  rw [fix_file]
  exact iterate_pass_apart laidOut counts small apart

def looseBody : TokenFile where
  tokens := [
    { kind := .classDecl, line := 1, content := "class", scopeOpener := some 1,
      scopeCloser := some 5 },
    { kind := .openBrace, line := 1, content := "\x7b" },
    { kind := .whitespace, line := 1, content := "\n" },
    { kind := .whitespace, line := 2, content := "\n" },
    { kind := .whitespace, line := 3, content := "\n" },
    { kind := .closeBrace, line := 4, content := "\x7d" }]

theorem fix_apart_looseBody :
    looseBody.Apart 1 ∧ (fix ⟨[(.braceSpacing 0 0, .error)]⟩ looseBody).applied = 2 ∧
      (fix ⟨[(.braceSpacing 0 0, .error)]⟩ looseBody).file.Apart 1 := by
  have apart : looseBody.Apart 1 := ⟨_, _, _, _, rfl, rfl, by decide⟩
  exact ⟨apart, by decide +kernel,
    fix_apart (by decide +kernel) (by decide +kernel) (by decide +kernel) apart⟩

end BlankLines.Linter
