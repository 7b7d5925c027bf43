import BlankLines.Proofs.Fixer.Region
import BlankLines.Proofs.Linter.Passes
import BlankLines.Proofs.Rule.Report
import BlankLines.Proofs.TokenFile.Shift

/-!
Linting and fixing of files that are moved down. No rule looks at where a file begins, so reports move
with their tokens, the same corrections are made, and a run takes the same passes.
-/
namespace BlankLines

open TokenFile

def Violation.shift (down : Nat) (violation : Violation) : Violation :=
  { violation with line := violation.line + down }

/-- The summary with the lines of its file and of its violations moved down. -/
def FixSummary.shift (down : Nat) (summary : FixSummary) : FixSummary :=
  { summary with
    file := summary.file.shift down
    remaining := summary.remaining.map (Violation.shift down) }

variable {file : TokenFile} {down : Nat}

theorem shift_atToken? (down : Nat) (file : TokenFile) (position : Nat) (rule code : String)
    (level : Level) (message : String) (repair : Changeset) :
    Violation.atToken? (file.shift down) position rule code level message repair =
      (Violation.atToken? file position rule code level message repair).map (Violation.shift down) := by
  simp only [Violation.atToken?, getElem?_shift, Option.map_map]
  rfl

namespace MethodSpacing

@[simp] theorem shift_declaresInterface (down : Nat) (file : TokenFile) :
    declaresInterface (file.shift down) = declaresInterface file := by
  simp only [declaresInterface, findNext_shift]

@[simp] theorem shift_closer? (down : Nat) (file : TokenFile) (position : Nat) :
    closer? (file.shift down) position = closer? file position := by
  simp only [closer?, getElem?_shift, findNext_shift]
  cases file.tokens[position]? <;> rfl

@[simp] theorem shift_nextLineStart? (down : Nat) (file : TokenFile) (closer : Nat) :
    nextLineStart? (file.shift down) closer = nextLineStart? file closer := by
  simp only [nextLineStart?, findLineEnd_shift, length_shift]

@[simp] theorem shift_nextContent? (down : Nat) (file : TokenFile) (closer : Nat) :
    nextContent? (file.shift down) closer = nextContent? file closer := by
  simp only [nextContent?, shift_nextLineStart?, findNext_shift]

@[simp] theorem shift_editAnchor (down : Nat) (file : TokenFile) (closer : Nat) :
    editAnchor (file.shift down) closer = editAnchor file closer := by
  simp only [editAnchor, shift_nextContent?, shift_nextLineStart?]

@[simp] theorem shift_isLast (down : Nat) (file : TokenFile) (closer : Nat) :
    isLast (file.shift down) closer = isLast file closer := by
  rw [isLast, isLast, shift_nextContent?]
  cases nextContent? file closer with
  | none => rfl
  | some next =>
    rw [Option.bind_some, Option.bind_some, getElem?_shift, Option.any_map]
    rfl

end MethodSpacing

section Checks

variable (small : (file.shift down).LinesBelow Word.half)

include small

theorem BraceSpacing.shift_checkOpening (wanted : Nat) (declaration : String) (opener : Nat)
    (level : Level) : checkOpening wanted (file.shift down) declaration opener level =
      (checkOpening wanted file declaration opener level).map (Violation.shift down) := by
  apply Option.ext
  intro violation
  simp only [Option.map_eq_some_iff, checkOpening_eq_some_iff, getElem?_shift, findNext_shift,
    lineBreaks_shift, shift_atToken?]
  constructor
  · rintro ⟨_, next, _, ⟨brace, begins, rfl⟩, search, ⟨follower, ends, rfl⟩, held, wrong, original,
      report, rfl⟩
    rw [small.lineDelta_shift begins ends] at wrong report
    exact ⟨original, ⟨brace, next, follower, begins, search, ends, held, wrong, report⟩, rfl⟩
  · rintro ⟨original, ⟨brace, next, follower, begins, search, ends, held, wrong, report⟩, rfl⟩
    rw [← small.lineDelta_shift begins ends] at wrong report
    exact ⟨_, next, _, ⟨brace, begins, rfl⟩, search, ⟨follower, ends, rfl⟩, held, wrong, original,
      report, rfl⟩

theorem BraceSpacing.shift_checkClosing (wanted : Nat) (declaration : String) (closer : Nat)
    (level : Level) : checkClosing wanted (file.shift down) declaration closer level =
      (checkClosing wanted file declaration closer level).map (Violation.shift down) := by
  apply Option.ext
  intro violation
  simp only [Option.map_eq_some_iff, checkClosing_eq_some_iff, getElem?_shift, findPrevious_shift,
    lineBreaks_shift, shift_atToken?]
  constructor
  · rintro ⟨_, previous, _, ⟨brace, ends, rfl⟩, inside, search, ⟨leader, begins, rfl⟩, wrong, original,
      report, rfl⟩
    rw [small.lineDelta_shift begins ends] at wrong report
    exact ⟨original, ⟨brace, previous, leader, ends, inside, search, begins, wrong, report⟩, rfl⟩
  · rintro ⟨original, ⟨brace, previous, leader, ends, inside, search, begins, wrong, report⟩, rfl⟩
    rw [← small.lineDelta_shift begins ends] at wrong report
    exact ⟨_, previous, _, ⟨brace, ends, rfl⟩, inside, search, ⟨leader, begins, rfl⟩, wrong, original,
      report, rfl⟩

theorem BraceSpacing.shift_check (afterOpening beforeClosing position : Nat) (level : Level) :
    check afterOpening beforeClosing (file.shift down) position level =
      (check afterOpening beforeClosing file position level).map (Violation.shift down) := by
  cases found : file.tokens[position]? with
  | none => simp [check, found]
  | some token =>
    obtain ⟨kind, line, content, opens, closes⟩ := token
    cases opens with
    | none => simp [check, found, Token.shift]
    | some opener =>
      cases closes with
      | none => simp [check, found, Token.shift]
      | some closer =>
        simp [check, found, Token.shift, shift_checkOpening small, shift_checkClosing small,
          Option.toList_map]

theorem MethodSpacing.shift_blankLines? (closer : Nat) :
    blankLines? (file.shift down) closer = blankLines? file closer := by
  simp only [blankLines?, shift_nextLineStart?, shift_nextContent?, getElem?_shift,
    Option.bind_eq_bind, Option.pure_def]
  cases starts : nextLineStart? file closer with
  | none => rfl
  | some start =>
    cases begins : file.tokens[start]? with
    | none => simp [begins]
    | some before =>
      cases content : nextContent? file closer with
      | none => simp
      | some next =>
        cases ends : file.tokens[next]? with
        | none => simp [ends]
        | some after => simp [begins, ends, small.lineDelta_shift begins ends]

theorem MethodSpacing.shift_check (between position : Nat) (level : Level) :
    check between (file.shift down) position level =
      (check between file position level).map (Violation.shift down) := by
  simp only [check, shift_declaresInterface, shift_closer?, shift_blankLines? small, shift_isLast,
    shift_nextContent?, shift_editAnchor, length_shift, lineBreaks_shift, shift_atToken?]
  split
  · rfl
  · split
    · rfl
    · split
      · rfl
      · exact Option.toList_map

theorem Rule.shift_checkAt (rule : Rule) (position : Nat) (token : Token) (level : Level) :
    rule.checkAt (file.shift down) position (token.shift down) level =
      (rule.checkAt file position token level).map (Violation.shift down) := by
  have kind : (token.shift down).kind = token.kind := rfl
  rw [checkAt, checkAt, kind]
  split
  · cases rule with
    | braceSpacing => exact BraceSpacing.shift_check small _ _ position level
    | methodSpacing => exact MethodSpacing.shift_check small _ position level
  · rfl

/-- Reports move along with their tokens and stay as they are otherwise. -/
theorem Linter.shift_lint (linter : Linter) :
    linter.lint (file.shift down) = (linter.lint file).map (Violation.shift down) := by
  simp only [lint, TokenFile.shift, List.zipIdx_map, List.flatMap_map, List.map_flatMap]
  congr 1
  apply funext
  rintro ⟨token, position⟩
  congr 1
  apply funext
  rintro ⟨rule, level⟩
  exact rule.shift_checkAt small position token level

end Checks

theorem Fixer.accepted_congr {fixer other : Fixer}
    (same : ∀ position, fixer.free position = other.free position) (changesets : List Changeset) :
    fixer.accepted changesets = other.accepted changesets := by
  induction changesets generalizing fixer other with
  | nil => rfl
  | cons changeset rest ih =>
    have alike : fixer.accepts changeset = other.accepts changeset := by
      rw [Bool.eq_iff_iff, accepts_iff, accepts_iff]
      simp only [same]
    rw [accepted, accepted, alike]
    split
    · next accepts =>
      congr 1
      apply ih
      intro position
      rw [free_apply (alike.trans accepts), free_apply accepts, same]
    · exact ih same

namespace Linter

variable {linter : Linter} {n : Nat}

/-- The same corrections are made in a file that is moved. -/
theorem shift_corrections (linter : Linter) (small : (file.shift down).LinesBelow Word.half) :
    linter.corrections (file.shift down) = linter.corrections file := by
  have fixes : ((linter.lint file).map (Violation.shift down)).filterMap (·.fix) =
      (linter.lint file).filterMap (·.fix) := by
    rw [List.filterMap_map]
    rfl
  rw [corrections, corrections, shift_lint small, fixes]
  congr 1
  apply Fixer.accepted_congr
  intro position
  rw [Bool.eq_iff_iff, Fixer.free_ofFile_iff, Fixer.free_ofFile_iff, length_shift]

theorem shift_pass (linter : Linter) (small : (file.shift down).LinesBelow Word.half) :
    linter.pass (file.shift down) = (linter.pass file).shift down := by
  rw [pass_eq, pass_eq, shift_corrections linter small, shift_revise]

theorem shift_appliedIn (linter : Linter) (small : (file.shift down).LinesBelow Word.half) :
    linter.appliedIn (file.shift down) = linter.appliedIn file := by
  have count (file : TokenFile) : linter.appliedIn file = (linter.corrections file).length := by
    rw [appliedIn, repair, Fixer.applied_applyAll]
    exact Nat.zero_add _
  rw [count, count, shift_corrections linter small]

theorem shift_iterate_pass
    (small : ∀ m < n, ((linter.pass^[m] file).shift down).LinesBelow Word.half) :
    linter.pass^[n] (file.shift down) = (linter.pass^[n] file).shift down := by
  induction n with
  | zero => rfl
  | succ n ih =>
    rw [Function.iterate_succ_apply', Function.iterate_succ_apply',
      ih fun m early => small m (Nat.lt_succ_of_lt early),
      shift_pass linter (small n (Nat.lt_succ_self n))]

/-- A run of a file that is moved may stop after the same passes. -/
theorem shift_stops (small : ∀ m ≤ n, ((linter.pass^[m] file).shift down).LinesBelow Word.half) :
    linter.Stops (file.shift down) n ↔ linter.Stops file n := by
  have passes {m : Nat} (within : m ≤ n) :
      linter.pass^[m] (file.shift down) = (linter.pass^[m] file).shift down :=
    shift_iterate_pass fun k early => small k (early.le.trans within)
  rw [Stops, Stops, passes (Nat.le_refl n), passes (Nat.sub_le n 1),
    shift_lint (small n (Nat.le_refl n)), render_shift, render_shift, List.forall_mem_map]
  rfl

/-- Moving a file down moves the lines of what is reported and of what a run returns, and changes
nothing else, as long as no line reaches half the words on the way. Read from right to left, so does
moving it up. -/
theorem fix_shift (linter : Linter) (file : TokenFile) (down : Nat)
    (small : ∀ n ≤ (linter.fix file).passes,
      ((linter.pass^[n] file).shift down).LinesBelow Word.half) :
    linter.lint (file.shift down) = (linter.lint file).map (Violation.shift down) ∧
      linter.fix (file.shift down) = (linter.fix file).shift down ∧
      (linter.fix (file.shift down)).file.render = (linter.fix file).file.render := by
  have stops (n : Nat) (within : n ≤ (linter.fix file).passes) :
      linter.Stops (file.shift down) n ↔ linter.Stops file n :=
    shift_stops fun m early => small m (early.trans within)
  obtain ⟨least, summary⟩ := isLeast_passes linter file
  obtain ⟨least', summary'⟩ := isLeast_passes linter (file.shift down)
  have passes : (linter.fix (file.shift down)).passes = (linter.fix file).passes := by
    apply Nat.le_antisymm
    · exact least'.2 ((stops _ (Nat.le_refl _)).mpr least.1)
    · by_contra fewer
      have early := Nat.le_of_lt (Nat.lt_of_not_le fewer)
      exact fewer (least.2 ((stops _ early).mp least'.1))
  have moved {n : Nat} (within : n ≤ (linter.fix file).passes) :
      linter.pass^[n] (file.shift down) = (linter.pass^[n] file).shift down :=
    shift_iterate_pass fun m early => small m (early.le.trans within)
  have applied : ∑ i ∈ Finset.range (linter.fix file).passes,
        linter.appliedIn (linter.pass^[i] (file.shift down)) =
      ∑ i ∈ Finset.range (linter.fix file).passes, linter.appliedIn (linter.pass^[i] file) := by
    refine Finset.sum_congr rfl fun i member => ?_
    have early := Nat.le_of_lt (Finset.mem_range.mp member)
    rw [moved early, shift_appliedIn linter (small i early)]
  have whole : linter.fix (file.shift down) = (linter.fix file).shift down := by
    rw [summary', passes, summary, summaryAt, summaryAt, moved (Nat.le_refl _), applied,
      shift_lint (small _ (Nat.le_refl _))]
    rfl
  refine ⟨shift_lint (small 0 (Nat.zero_le _)) linter, whole, ?_⟩
  rw [whole]
  exact render_shift down _

/-- A part of a file, from line 40 on, with a method that no empty line follows. -/
def excerpt : TokenFile where
  tokens := [
    { kind := .functionDecl, line := 40, content := "function", scopeOpener := some 1,
      scopeCloser := some 2 },
    { kind := .openBrace, line := 40, content := "\x7b" },
    { kind := .closeBrace, line := 40, content := "\x7d" },
    { kind := .whitespace, line := 40, content := "\n" },
    { kind := .other, line := 41, content := "x" }]

/-- It is reported and fixed in the same way from line 1040 on. -/
theorem fix_shift_excerpt :
    let linter : Linter := ⟨[(.methodSpacing 1, .error)]⟩
    (linter.lint excerpt).map (·.line) = [40] ∧ (linter.fix excerpt).passes = 1 ∧
      linter.lint (excerpt.shift 1000) = (linter.lint excerpt).map (Violation.shift 1000) ∧
      linter.fix (excerpt.shift 1000) = (linter.fix excerpt).shift 1000 ∧
      (linter.fix (excerpt.shift 1000)).file.render = "function\x7b\x7d\n\nx" := by
  intro linter
  obtain ⟨reports, whole, text⟩ := fix_shift linter excerpt 1000 (by decide +kernel)
  exact ⟨by decide +kernel, by decide +kernel, reports, whole, text.trans (by decide +kernel)⟩

end Linter

end BlankLines
