import BlankLines.Linter
import BlankLines.Proofs.Fixer.Acceptance
import BlankLines.Proofs.TokenFile.Text
import Mathlib.Algebra.BigOperators.Intervals
import Mathlib.Order.Bounds.Defs

/-!
A run of the fixer is an iterated pass. It stops after the least number of passes at which nothing is
fixable, the limit is reached or the last pass has not changed the text.
-/
namespace BlankLines.Linter

/-- The corrections that a pass makes, in order. -/
def corrections (linter : Linter) (file : TokenFile) : List Correction :=
  ((Fixer.ofFile file).accepted ((linter.lint file).filterMap (·.fix))).flatten

theorem pass_eq (linter : Linter) (file : TokenFile) :
    linter.pass file = file.revise (linter.corrections file) :=
  Fixer.finish_applyAll _ _

theorem mem_corrections {linter : Linter} {file : TokenFile} {correction : Correction}
    (member : correction ∈ linter.corrections file) :
    ∃ violation ∈ linter.lint file, ∃ changeset, violation.fix = some changeset ∧
      correction ∈ changeset := by
  obtain ⟨changeset, accepted, inside⟩ := List.mem_flatten.mp member
  have offered := (Fixer.accepted_sublist _ _).subset accepted
  obtain ⟨violation, reported, fixed⟩ := List.mem_filterMap.mp offered
  exact ⟨violation, reported, changeset, fixed, inside⟩

/-- How many corrections the pass over a file makes. -/
def appliedIn (linter : Linter) (file : TokenFile) : Nat :=
  (repair file (linter.lint file)).applied

/-- A run from a file may stop after `n` passes. -/
def Stops (linter : Linter) (file : TokenFile) (n : Nat) : Prop :=
  (∀ violation ∈ linter.lint (linter.pass^[n] file), violation.isFixable = false) ∨ n = 50 ∨
    (1 ≤ n ∧ (linter.pass^[n] file).render = (linter.pass^[n - 1] file).render)

/-- What a run from a file returns when it stops after `n` passes. -/
def summaryAt (linter : Linter) (file : TokenFile) (n : Nat) : FixSummary where
  file := linter.pass^[n] file
  passes := n
  applied := ∑ i ∈ Finset.range n, linter.appliedIn (linter.pass^[i] file)
  remaining := linter.lint (linter.pass^[n] file)

/-- A pass that makes no correction leaves the text as it was. -/
theorem render_of_appliedIn {linter : Linter} {file : TokenFile} (none : linter.appliedIn file = 0) :
    (linter.pass file).render = file.render := by
  have count := Fixer.applied_applyAll (Fixer.ofFile file) ((linter.lint file).filterMap (·.fix))
  rw [appliedIn, repair, count] at none
  have empty : linter.corrections file = [] :=
    List.eq_nil_of_length_eq_zero (Nat.add_eq_zero_iff.mp none).2
  rw [pass_eq, empty, TokenFile.render_revise_nil]

/-- One turn of the loop. That no correction is made is not an exit of its own: the text stays then. -/
theorem fixFrom_succ (linter : Linter) (left passes applied : Nat) (file : TokenFile) :
    linter.fixFrom (left + 1) passes applied file =
      if (linter.lint file).any (·.isFixable) then
        if (linter.pass file).render = file.render then
          ⟨linter.pass file, passes + 1, applied + linter.appliedIn file,
            linter.lint (linter.pass file)⟩
        else
          linter.fixFrom left (passes + 1) (applied + linter.appliedIn file) (linter.pass file)
      else ⟨file, passes, applied, linter.lint file⟩ := by
  have exits : ((repair file (linter.lint file)).applied = 0 ∨
      (repair file (linter.lint file)).finish.render = file.render) ↔
      (linter.pass file).render = file.render :=
    ⟨fun exit => exit.elim render_of_appliedIn id, .inr⟩
  simp only [fixFrom, Bool.or_eq_true, decide_eq_true_eq, exits]
  rfl

/-- The loop after `n` passes, none of which was the last, goes on to the first at which it may stop. -/
theorem fixFrom_eq_summaryAt {linter : Linter} {file : TokenFile} {left n : Nat}
    (limit : n + left = 50) (running : ∀ m < n, ¬ linter.Stops file m)
    (changed : 1 ≤ n → (linter.pass^[n] file).render ≠ (linter.pass^[n - 1] file).render) :
    ∃ m, IsLeast {k | linter.Stops file k} m ∧
      linter.fixFrom left n (∑ i ∈ Finset.range n, linter.appliedIn (linter.pass^[i] file))
        (linter.pass^[n] file) = linter.summaryAt file m := by
  have first {m : Nat} (stops : linter.Stops file m) (running : ∀ k < m, ¬ linter.Stops file k) :
      IsLeast {k | linter.Stops file k} m :=
    ⟨stops, fun k stopped => Nat.le_of_not_lt fun early => running k early stopped⟩
  induction left generalizing n with
  | zero => exact ⟨n, first (.inr (.inl limit)) running, rfl⟩
  | succ left ih =>
    have next : linter.pass^[n + 1] file = linter.pass (linter.pass^[n] file) :=
      Function.iterate_succ_apply' ..
    by_cases fixable : (linter.lint (linter.pass^[n] file)).any (·.isFixable) = true
    · have goesOn : ∀ m < n + 1, ¬ linter.Stops file m := by
        intro m early
        rcases Nat.lt_succ_iff_lt_or_eq.mp early with earlier | rfl
        · exact running m earlier
        · rintro (clean | limited | ⟨some, same⟩)
          · obtain ⟨violation, reported, fixable⟩ := List.any_eq_true.mp fixable
            exact Bool.false_ne_true ((clean violation reported).symm.trans fixable)
          · omega
          · exact changed some same
      rw [fixFrom_succ, if_pos fixable, ← next, ← Finset.sum_range_succ]
      by_cases same : (linter.pass^[n + 1] file).render = (linter.pass^[n] file).render
      · rw [if_pos same]
        exact ⟨n + 1, first (.inr (.inr ⟨Nat.le_add_left 1 n, same⟩)) goesOn, rfl⟩
      · rw [if_neg same]
        exact ih (by omega) goesOn fun _ => same
    · have clean : linter.Stops file n := .inl (by simpa using fixable)
      rw [fixFrom_succ, if_neg fixable]
      exact ⟨n, first clean running, rfl⟩

theorem isLeast_passes (linter : Linter) (file : TokenFile) :
    IsLeast {k | linter.Stops file k} (linter.fix file).passes ∧
      linter.fix file = linter.summaryAt file (linter.fix file).passes := by
  obtain ⟨n, least, summary⟩ := @fixFrom_eq_summaryAt linter file 50 0 (Nat.zero_add 50)
    (fun m early => absurd early (Nat.not_lt_zero m))
    (fun some => absurd some (Nat.not_succ_le_zero 0))
  have passes : (linter.fix file).passes = n := by
    rw [show linter.fix file = linter.summaryAt file n from summary]
    rfl
  rw [passes]
  exact ⟨least, summary⟩

theorem fix_file (linter : Linter) (file : TokenFile) :
    (linter.fix file).file = linter.pass^[(linter.fix file).passes] file :=
  congrArg FixSummary.file (isLeast_passes linter file).2

/-- A run makes no pass over a file in which nothing is fixable. -/
theorem passes_eq_zero {linter : Linter} {file : TokenFile}
    (clean : ∀ violation ∈ linter.lint file, violation.isFixable = false) :
    (linter.fix file).passes = 0 :=
  Nat.le_zero.mp ((isLeast_passes linter file).1.2 (.inl clean))

/-- Where no violation has a fix, a run returns the file as it is. -/
theorem fix_file_of_unfixable {linter : Linter} {file : TokenFile}
    (unfixable : ∀ violation ∈ linter.lint file, violation.fix = none) :
    (linter.fix file).file = file := by
  have clean : ∀ violation ∈ linter.lint file, violation.isFixable = false := by
    intro violation reported
    rw [Violation.isFixable, unfixable violation reported, Option.isSome_none]
  rw [fix_file, passes_eq_zero clean, Function.iterate_zero, id]

/-- A run is an iterated pass: it returns the file, the counts and the remaining violations of the first
pass after which it may stop. -/
theorem fix_eq_summaryAt (linter : Linter) (file : TokenFile) :
    ∃ n, IsLeast {k | linter.Stops file k} n ∧ linter.fix file = linter.summaryAt file n :=
  fixFrom_eq_summaryAt (Nat.zero_add 50) (fun m early => absurd early (Nat.not_lt_zero m))
    (fun some => absurd some (Nat.not_succ_le_zero 0))

end BlankLines.Linter
